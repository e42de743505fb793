/-
Revbio.Stream.InterestTheorems — epoll interest and blocking mode follow
the `connection_state`.

A TcpSocket agrees with its descriptor after every constructor, method and
callback (`Sound`), and every `epoll_ctl` on the way fits the registration
it meets. `Follows` spells out what that means for each state.
-/
import Revbio.Stream.EffectTheorems

namespace Revbio.Stream

open CallTree Prog EventLoop Transition

variable {ws : WordSize} {host : Endian}

/-! ## The invariant -/

theorem shut_sound (s : TcpSocket) (n : Nat) :
    Sound { s with socket := shut s.socket, availableBytes := n } none :=
  ⟨shut_agrees s.socket _, nofun, nofun⟩

theorem Usable.notCreated {raw : RawTcpSocket} {k : Kernel} (h : Usable raw k) :
    raw.connectionState ≠ .created := by
  rcases h.state with hstate | hstate <;> simp [hstate]

theorem MethodEffect.sound {s s' : TcpSocket} {q q' : EventQueueImpl} {k k' : Kernel}
    (h : MethodEffect s q k s' q' k') (hs : Sound s k) : Sound s' k' := by
  cases h with
  | stays => exact ⟨hs.agrees, hs.notCreated, hs.blocking⟩
  | shuts => exact shut_sound s _

theorem CallbackEffect.sound {s s' : TcpSocket} {q q' : EventQueueImpl} {k k' : Kernel}
    {mask : UInt32} (h : CallbackEffect s q k mask s' q' k') (hs : Sound s k) : Sound s' k' := by
  cases h with
  | nothing => exact hs
  | data => exact ⟨hs.agrees, hs.notCreated, hs.blocking⟩
  | ended => exact shut_sound s _
  | error => exact shut_sound s _
  | connected _ _ _ _ hs' => exact hs'

/-- A watched descriptor belongs to an open socket. -/
theorem Sound.watched {s : TcpSocket} {k : Kernel} (hs : Sound s k) (h : Watched k) :
    s.socket.connectionState ≠ .closed := by
  intro hclosed
  obtain ⟨d, hd, -⟩ := h
  rw [agrees_closed hs.agrees hclosed] at hd
  cases hd

theorem start_sound {o : Origin} {s : StreamState} (h : Start ws host o s) :
    Sound s.sock s.kernel := by
  cases h with
  | connect _ hx =>
    cases (tcp_connect_fits _ _ _ _).exec hx _ rfl with
    | inProgress hs => exact hs
    | atOnce hs => exact hs
  | raw _ hraw hx =>
    have husable := hraw.usable
    exact ((fromRawTcpSocket_fits _ _ _ husable.agrees husable.notCreated
      fun _ => husable.blocking).exec hx).2

/-- What the call and the callback of a step do. -/
theorem call_effect {s : StreamState} (hs : Sound s.sock s.kernel) {m : Method}
    {sock : TcpSocket} {queue : EventQueueImpl} {kernel : Kernel}
    (hx : (m.run ws s.sock s.queue).Exec Kernel.allows s.kernel (.returned (sock, queue)) kernel) :
    MethodEffect s.sock s.queue s.kernel sock queue kernel :=
  (method_fits hs m s.queue).exec hx

theorem callback_effect {s : StreamState} (hs : Sound s.sock s.kernel)
    (hwatched : Watched s.kernel) {mask : UInt32} {sock : TcpSocket} {queue : EventQueueImpl}
    {kernel : Kernel}
    (hx : (s.sock.processEpollEvents ws s.queue mask).Exec Kernel.allows s.kernel
      (.returned (sock, queue)) kernel) :
    CallbackEffect s.sock s.queue s.kernel mask sock queue kernel :=
  (callback_fits hs s.queue (hs.watched hwatched)).exec hx

theorem step_sound {s t : StreamState} {l : Label} (hs : Sound s.sock s.kernel)
    (hstep : Step ws s l t) : Sound t.sock t.kernel := by
  cases hstep with
  | loop _ => exact hs
  | others _ _ => exact hs
  | report _ _ => exact hs
  | call _ hx => exact (call_effect hs hx).sound hs
  | callback _ hwatched hx => exact (callback_effect hs hwatched hx).sound hs

theorem run_sound {o : Origin} {s₀ s : StreamState} {tr : List Label}
    (hs : Start ws host o s₀) (h : Run (Step ws) s₀ tr s) : Sound s.sock s.kernel :=
  h.invariant (start_sound hs) fun _ _ _ => step_sound

/-! ## What it means for each state -/

/-- Interest and mode go with the state. -/
structure Follows (s : StreamState) : Prop where
  connecting : s.sock.socket.connectionState = .connecting →
    ∃ d, s.kernel = some d ∧ d.fd = s.sock.socket.fd ∧ d.interest = some EPOLLOUT
  connected : s.sock.socket.connectionState = .connected →
    (∃ d, s.kernel = some d ∧ d.fd = s.sock.socket.fd ∧ d.interest = some EPOLLIN) ∧
      s.sock.socket.blocking = true
  /-- the descriptor is not open, so it is not registered either -/
  closed : s.sock.socket.connectionState = .closed → s.kernel = none
  notCreated : s.sock.socket.connectionState ≠ .created
  mode : ∀ d, s.kernel = some d →
    (s.sock.socket.blocking = true ↔ d.flags &&& O_NONBLOCK = 0) ∧
      d.flags &&& ~~~O_NONBLOCK = d.created &&& ~~~O_NONBLOCK

theorem Sound.follows {s : StreamState} (hs : Sound s.sock s.kernel) : Follows s := by
  have hopen : s.sock.socket.connectionState ≠ .closed → ∃ d, s.kernel = some d ∧
      OpenAs s.sock.socket (some (interestOf s.sock.socket.connectionState)) d :=
    agrees_open hs.agrees
  constructor
  case connecting =>
    intro hstate
    obtain ⟨d, hk, hd⟩ := hopen (by simp [hstate])
    exact ⟨d, hk, hd.fd, by rw [hd.interest, hstate]; rfl⟩
  case connected =>
    intro hstate
    obtain ⟨d, hk, hd⟩ := hopen (by simp [hstate])
    exact ⟨⟨d, hk, hd.fd, by rw [hd.interest, hstate]; rfl⟩, hs.blocking hstate⟩
  case closed => exact agrees_closed hs.agrees
  case notCreated => exact hs.notCreated
  case mode =>
    intro d hk
    by_cases hclosed : s.sock.socket.connectionState = .closed
    · rw [agrees_closed hs.agrees hclosed] at hk
      cases hk
    · obtain ⟨d', hk', hd⟩ := hopen hclosed
      cases hk.symm.trans hk'
      exact ⟨hd.blocking, hd.others⟩

/-- Every `epoll_ctl` of the operations that are possible in `s` fits. -/
structure UsesProperly (ws : WordSize) (s : StreamState) : Prop where
  method : ∀ (m : Method) (c : Call) (k : Kernel),
    (m.run ws s.sock s.queue).Makes Kernel.allows s.kernel c k → Proper k c
  callback : Watched s.kernel → ∀ (mask : UInt32) (c : Call) (k : Kernel),
    (s.sock.processEpollEvents ws s.queue mask).Makes Kernel.allows s.kernel c k → Proper k c

/-- The same for the constructors. -/
structure ConstructsProperly (ws : WordSize) (host : Endian) : Prop where
  connect : ∀ (this : Ptr) (info : SourceId) (addr : SocketAddr) (q : EventQueueImpl) (c : Call)
    (k : Kernel), (TcpSocket.connect host this info addr q).Makes Kernel.allows none c k →
    Proper k c
  fromRaw : ∀ (raw : RawTcpSocket) (k₀ : Kernel), RawSocket ws host raw k₀ →
    ∀ (this : Ptr) (info : SourceId) (q : EventQueueImpl) (c : Call) (k : Kernel),
      (TcpSocket.fromRawTcpSocket this info raw q).Makes Kernel.allows k₀ c k → Proper k c

theorem constructsProperly (ws : WordSize) (host : Endian) : ConstructsProperly ws host where
  connect _ _ _ _ _ _ hc := fit_makes (tcp_connect_fits _ _ _ _) hc
  fromRaw _ _ hraw _ _ _ _ _ hc :=
    have husable := hraw.usable
    fit_makes (fromRawTcpSocket_fits _ _ _ husable.agrees husable.notCreated
      fun _ => husable.blocking) hc

/-- **Interest and mode follow the state.** In every state of every run,
from either constructor, the descriptor of a connecting socket is watched
for `EPOLLOUT`, that of a connected one for `EPOLLIN`, and a closed socket
has none; `blocking` is the absence of `O_NONBLOCK`, no other flag has
changed, and a connected socket is blocking. No `epoll_ctl` meets the wrong
registration. -/
theorem interest_follows_state {o : Origin} {s₀ s : StreamState} {tr : List Label}
    (hs : Start ws host o s₀) (h : Run (Step ws) s₀ tr s) :
    Follows s ∧ UsesProperly ws s ∧ ConstructsProperly ws host := by
  have hsound := run_sound hs h
  refine ⟨hsound.follows, ⟨?_, ?_⟩, constructsProperly ws host⟩
  · intro m c k hc
    exact fit_makes (method_fits hsound m s.queue) hc
  · intro hwatched mask c k hc
    exact fit_makes (callback_fits hsound s.queue (hsound.watched hwatched)) hc

/-- A connect that is in progress. -/
def dialled : StreamState where
  sock := { processFunc := 0, socket := ⟨5, false, .connecting⟩, eventSourceInfo := 1
            availableBytes := 0 }
  queue := ⟨3, []⟩
  phase := .idle
  kernel := some ⟨5, 0x802, 0x802, some EPOLLOUT⟩
  pushed := []
  closedBy := none

/-- The same socket, reported connected by its callback. -/
def answered : StreamState where
  sock := { processFunc := 0, socket := ⟨5, true, .connected⟩, eventSourceInfo := 1
            availableBytes := 0 }
  queue := ⟨3, [Event.new .connectedEvent 1]⟩
  phase := .checking
  kernel := some ⟨5, 0x802, 0x2, some EPOLLIN⟩
  pushed := [.connectedEvent]
  closedBy := none

theorem dialled_start (ws : WordSize) : Start ws .little .connect dialled := by
  have hx : (TcpSocket.connect .little 0 1 ⟨.ipv4Addr 127 0 0 1, 80⟩ ⟨3, []⟩).Exec
      Kernel.allows none (.returned (.ok dialled.sock, dialled.queue)) dialled.kernel := by
    refine ⟨(5 : Int), some ⟨5, 0x802, 0x802, none⟩, .inr ⟨by decide, 0x802, by decide, rfl⟩,
      (-1 : Int), _, rfl, ?_⟩
    exact ⟨EINPROGRESS, _, rfl, (0 : Int), _, .inr ⟨rfl, _, rfl, rfl, rfl, rfl⟩, rfl, rfl⟩
  exact .connect rfl hx

theorem answered_run (ws : WordSize) :
    Run (Step ws) dialled [.loop .goesOn, .callback EPOLLOUT] answered := by
  have hx : (dialled.sock.processEpollEvents ws dialled.queue EPOLLOUT).Exec Kernel.allows
      dialled.kernel (.returned (answered.sock, answered.queue)) answered.kernel :=
    ⟨((0 : Int), (0 : Int)), _, rfl, (0x802 : BitVec 32), _, ⟨rfl, by decide⟩, (0 : Int),
      some ⟨5, 0x802, 0x2, some EPOLLOUT⟩, ⟨rfl, rfl⟩, (0 : Int), _,
      .inr ⟨rfl, _, rfl, rfl, nofun, rfl⟩, rfl, rfl⟩
  have hpoll : Step ws dialled (.loop .goesOn) { dialled with phase := .polling } :=
    .loop (.mustPoll rfl)
  exact .cons hpoll (.one (.callback rfl ⟨_, rfl, nofun⟩ hx))

theorem interest_follows_state_answered :
    Follows answered ∧ UsesProperly .w64 answered ∧ ConstructsProperly .w64 .little :=
  interest_follows_state (dialled_start .w64) (answered_run .w64)

end Revbio.Stream
