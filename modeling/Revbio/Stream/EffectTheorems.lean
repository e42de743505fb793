/-
Revbio.Stream.EffectTheorems — what the constructors, methods and the
callback of a TcpSocket do to its state, its descriptor and the queue.

Each operation is described once, for a socket that agrees with its
descriptor (`Agrees`), together with the fact that every `epoll_ctl` on the
way fits the registration it meets (`Fits`). The rest of the development
goes by `MethodEffect` and `CallbackEffect` and does not look at the code
again.
-/
import Revbio.Stream.System

namespace Revbio.Stream

open CallTree Prog EventLoop

variable {α β : Type} {ws : WordSize} {host : Endian}

/-! ## Proper use of the epoll set -/

/-- An `epoll_ctl` fits the registration of the descriptor it is about. -/
def Proper (k : Kernel) : Call → Prop
  | .once (.epollCtl _ .add fd _ _) => ∃ d, k = some d ∧ d.fd = fd ∧ d.interest = none
  | .once (.epollCtl _ .mod fd _ _) => ∃ d, k = some d ∧ d.fd = fd ∧ d.interest ≠ none
  | .once (.epollCtl _ .del _ _ _) => False
  | .retry (.epollCtl _ _ _ _ _) => False
  | _ => True

/-- `P` where the program returns. -/
def Ends (P : α → Kernel → Prop) : Exit α → Kernel → Prop
  | .returned a, k => P a k
  | .failed _, _ => True

/-- From `k`, all calls of `p` are proper, and what it returns satisfies
`P`. -/
abbrev Fits (k : Kernel) (p : Io α) (P : α → Kernel → Prop) : Prop :=
  p.Fit Kernel.allows Proper (Ends P) k

section Rules

variable {k : Kernel} {P Q : α → Kernel → Prop}

theorem Fits.exec {p : Io α} (h : Fits k p P) {a : α} {k' : Kernel}
    (hx : p.Exec Kernel.allows k (.returned a) k') : P a k' :=
  fit_sound h hx

theorem Fits.bind {p : Io β} {f : β → Io α} {R : β → Kernel → Prop} (hp : Fits k p R)
    (hf : ∀ b k', R b k' → Fits k' (f b) P) : Fits k (p >>= f) P := by
  rw [Fits, fit_bind]
  refine fit_mono ?_ hp
  intro x k' hx
  cases x with
  | returned b => exact hf b k' hx
  | failed msg => trivial

/-- A call that leaves the descriptor alone. -/
def Idle (c : Call) : Prop :=
  (∀ k, Proper k c) ∧ ∀ (k k' : Kernel) (r : c.Ret), k.allows c r k' → k' = k

theorem fits_idle {c : Call} {f : c.Ret → Io α} (hc : Idle c) (hf : ∀ r, Fits k (f r) P) :
    Fits k (.call c f) P := by
  refine ⟨hc.1 k, ?_⟩
  intro r k' hr
  rw [hc.2 k k' r hr]
  exact hf r

theorem reports_idle (c : Call) (h : Reports c) : Idle c := by
  refine h.each ?_ ?_ (fun _ => ?_) fun _ => ?_
  all_goals exact ⟨fun _ => trivial, fun _ _ _ h => h⟩

/-- Looking up or translating an error. -/
theorem fits_reports {p : Io β} {f : β → Io α} (hp : p.Within Reports fun _ => True)
    (hf : ∀ b, Fits k (f b) P) : Fits k (p >>= f) P := by
  have hidle := hp.mono reports_idle fun _ h => h
  have hframe := hidle.fit_frame (fun s c hc => hc.1 s) (fun s c r s' hc hr => hc.2 s s' r hr) k
  rw [Fits, fit_bind]
  refine fit_mono ?_ hframe
  intro x k' hx
  cases x with
  | returned b => exact hx.1 ▸ hf b
  | failed msg => trivial

end Rules

/-! ## A socket and its descriptor -/

/-- An open socket agrees with the descriptor `d`. -/
structure OpenAs (raw : RawTcpSocket) (interest : Option UInt32) (d : Descriptor) : Prop where
  fd : d.fd = raw.fd
  interest : d.interest = interest
  /-- blocking is the absence of `O_NONBLOCK` -/
  blocking : raw.blocking = true ↔ d.flags &&& O_NONBLOCK = 0
  /-- no other flag has changed -/
  others : d.flags &&& ~~~O_NONBLOCK = d.created &&& ~~~O_NONBLOCK

def Agrees (raw : RawTcpSocket) (interest : Option UInt32) (k : Kernel) : Prop :=
  if raw.connectionState = .closed then k = none else ∃ d, k = some d ∧ OpenAs raw interest d

theorem agrees_closed {raw : RawTcpSocket} {interest : Option UInt32} {k : Kernel}
    (h : Agrees raw interest k) (hclosed : raw.connectionState = .closed) : k = none := by
  rw [Agrees, if_pos hclosed] at h
  exact h

theorem agrees_open {raw : RawTcpSocket} {interest : Option UInt32} {k : Kernel}
    (h : Agrees raw interest k) (hopen : raw.connectionState ≠ .closed) :
    ∃ d, k = some d ∧ OpenAs raw interest d := by
  rw [Agrees, if_neg hopen] at h
  exact h

theorem OpenAs.agrees {raw : RawTcpSocket} {interest : Option UInt32} {d : Descriptor}
    (h : OpenAs raw interest d) (hopen : raw.connectionState ≠ .closed) :
    Agrees raw interest (some d) := by
  rw [Agrees, if_neg hopen]
  exact ⟨d, rfl, h⟩

/-- The raw socket after its close. -/
def shut (raw : RawTcpSocket) : RawTcpSocket := { raw with connectionState := .closed }

@[simp] theorem shut_connectionState (raw : RawTcpSocket) :
    (shut raw).connectionState = .closed := rfl

/-! ## Raw sockets -/

section Raw

variable {raw : RawTcpSocket} {interest : Option UInt32} {k : Kernel}

theorem closeSocket_fits (h : Agrees raw interest k) :
    Fits k raw.closeSocket fun raw' k' => raw' = shut raw ∧ k' = none := by
  unfold RawTcpSocket.closeSocket
  split
  case isTrue hclosed =>
    refine ⟨?_, agrees_closed h hclosed⟩
    cases raw
    simp_all [shut]
  case isFalse hopen =>
    obtain ⟨d, rfl, hd⟩ := agrees_open h hopen
    refine ⟨trivial, ?_⟩
    intro r k' hk'
    refine ⟨rfl, ?_⟩
    rw [show k' = (some d).filter fun d => d.fd ≠ raw.fd from hk']
    simp [Option.filter, hd.fd]

/-- What a `write` or `read` does: nothing, or it closes a connected socket
and returns an error. -/
def IoEffect (raw : RawTcpSocket) (k : Kernel) (r : IoResult Nat × RawTcpSocket)
    (k' : Kernel) : Prop :=
  (r.2 = raw ∧ k' = k) ∨
    (raw.connectionState = .connected ∧ r.2 = shut raw ∧ k' = none ∧ ∃ err, r.1 = .error err)

theorem ioFailed_fits (h : Agrees raw interest k) (hconn : raw.connectionState = .connected) :
    Fits k raw.ioFailed (IoEffect raw k) := by
  refine fits_idle ⟨fun _ => trivial, fun _ _ _ h => h⟩ fun errno => ?_
  show Fits k (if _ then _ else _) _
  split
  · refine (closeSocket_fits h).bind ?_
    intro raw' k' hk'
    exact fits_reports lastError_reports fun _ => .inr ⟨hconn, hk'.1, hk'.2, _, rfl⟩
  · exact fits_reports lastError_reports fun _ => .inl ⟨rfl, rfl⟩

theorem write_fits (h : Agrees raw interest k) (len : Nat) :
    Fits k (raw.write ws len) (IoEffect raw k) := by
  unfold RawTcpSocket.write
  split
  · exact .inl ⟨rfl, rfl⟩
  case isFalse hconn =>
    split
    · exact .inl ⟨rfl, rfl⟩
    · refine fits_idle ⟨fun _ => trivial, fun _ _ _ h => h⟩ fun ret => ?_
      show Fits k (if _ then _ else _) _
      split
      · exact ioFailed_fits h (by simpa using hconn)
      · exact .inl ⟨rfl, rfl⟩

theorem read_fits (h : Agrees raw interest k) (len : Nat) :
    Fits k (raw.read ws len) (IoEffect raw k) := by
  unfold RawTcpSocket.read
  split
  · exact .inl ⟨rfl, rfl⟩
  case isFalse hconn =>
    have hconn' : raw.connectionState = .connected := by simpa using hconn
    split
    · exact .inl ⟨rfl, rfl⟩
    · refine fits_idle ⟨fun _ => trivial, fun _ _ _ h => h⟩ fun ret => ?_
      show Fits k (if _ then _ else _) _
      split
      · refine (closeSocket_fits h).bind ?_
        intro raw' k' hk'
        exact .inr ⟨hconn', hk'.1, hk'.2, _, rfl⟩
      · split
        · exact ioFailed_fits h hconn'
        · exact .inl ⟨rfl, rfl⟩

/-- `O_NONBLOCK` cleared. -/
theorem clear_nonblock (flags : BitVec 32) :
    flags &&& ~~~O_NONBLOCK &&& O_NONBLOCK = 0 ∧
      flags &&& ~~~O_NONBLOCK &&& ~~~O_NONBLOCK = flags &&& ~~~O_NONBLOCK := by
  constructor
  · rw [BitVec.and_assoc]
    simp
  · rw [BitVec.and_assoc]
    simp

/-- `set_blocking(true)` on an open socket. -/
theorem setBlocking_fits {d : Descriptor} (h : OpenAs raw interest d)
    (hopen : raw.connectionState ≠ .closed) :
    Fits (some d) (raw.setBlocking true) fun raw' k' =>
      raw' = { raw with blocking := true } ∧ ∃ d', k' = some d' ∧ OpenAs raw' interest d' := by
  unfold RawTcpSocket.setBlocking
  rw [if_neg hopen]
  split
  case isTrue hblocking =>
    have hraw : raw = { raw with blocking := true } := by
      cases raw
      simpa using hblocking
    exact ⟨hraw, d, rfl, h⟩
  case isFalse =>
    refine ⟨trivial, ?_⟩
    intro flags _ h
    obtain ⟨rfl, hflags⟩ := h
    obtain rfl : flags = d.flags := hflags d rfl h.fd
    refine ⟨trivial, ?_⟩
    intro r _ h
    obtain ⟨-, rfl⟩ := h
    refine ⟨rfl, { d with flags := d.flags &&& ~~~O_NONBLOCK }, ?_, ?_⟩
    · simp [h.fd]
    · obtain ⟨hclear, hothers⟩ := clear_nonblock d.flags
      exact ⟨h.fd, h.interest, by simp [hclear], hothers.trans h.others⟩

/-- `register_fd` and `modify_fd` with the test that follows. -/
theorem register_fits {d : Descriptor} {fd : Fd} (q : EventQueueImpl) (events : UInt32)
    (p : Ptr) (hfd : d.fd = fd) (hnone : d.interest = none) :
    Fits (some d) (q.registerFd fd events p) fun _ k' =>
      k' = some { d with interest := some events } := by
  refine ⟨⟨d, rfl, hfd, hnone⟩, ?_⟩
  intro s k' hs
  show Fits k' (if s ≠ 0 then _ else _) _
  rcases hs with ⟨hs, rfl⟩ | ⟨hs, d', hd', -, -, hk'⟩
  · rw [if_pos hs]
    trivial
  · cases hd'
    rw [if_neg (by simpa using hs)]
    exact hk'

theorem modify_fits {d : Descriptor} {fd : Fd} (q : EventQueueImpl) (events : UInt32)
    (p : Ptr) (hfd : d.fd = fd) (hsome : d.interest ≠ none) :
    Fits (some d) (q.modifyFd fd events p) fun _ k' =>
      k' = some { d with interest := some events } := by
  refine ⟨⟨d, rfl, hfd, hsome⟩, ?_⟩
  intro s k' hs
  show Fits k' (if s ≠ 0 then _ else _) _
  rcases hs with ⟨hs, rfl⟩ | ⟨hs, d', hd', -, -, hk'⟩
  · rw [if_pos hs]
    trivial
  · cases hd'
    rw [if_neg (by simpa using hs)]
    exact hk'

/-! ### Constructors -/

/-- A new descriptor is in the mode it was asked for. -/
theorem createSocket_fits (addr : SocketAddr) (blocking : Bool) :
    Fits none (createSocket addr blocking) fun r k' => match r with
      | .ok fd => ∃ d, k' = some d ∧
          ∀ state, OpenAs { fd, blocking, connectionState := state } none d
      | .error _ => k' = none := by
  unfold createSocket
  extract_lets fam ty ty'
  have hty : (ty' &&& SOCK_NONBLOCK = 0) ↔ blocking = true := by
    cases blocking <;> decide
  refine ⟨trivial, ?_⟩
  rintro ret k' (⟨hret, rfl⟩ | ⟨hret, flags, hflags, rfl⟩)
  · show Fits none (if (ret : Int) = -1 then _ else _) _
    rw [if_pos hret]
    exact fits_reports lastError_reports fun _ => rfl
  · show Fits _ (if (ret : Int) = -1 then _ else _) _
    rw [if_neg (Fd.ne_none hret)]
    exact ⟨_, rfl, fun state => ⟨rfl, rfl, hty.symm.trans hflags.symm, rfl⟩⟩

/-- The failing branches of a constructor: look up the error, drop, return
it. -/
theorem giveUp_fits {γ : Type} {result : IoError → γ} {P : γ → Kernel → Prop}
    (h : Agrees raw interest k) (hP : ∀ err, P (result err) none) :
    Fits k (do
        let err ← lastError
        raw.drop
        return result err) P := by
  refine fits_reports lastError_reports fun err => ?_
  refine Fits.bind (R := fun _ k' => k' = none) ?_ ?_
  · exact (closeSocket_fits h).bind fun _ _ hk => hk.2
  · intro _ _ h
    subst h
    exact hP err

theorem connect_fits (addr : SocketAddr) :
    Fits none (RawTcpSocket.connect host addr) fun r k' =>
      ∀ raw, r = .ok raw →
        raw.connectionState = .connected ∧ raw.blocking = true ∧ Agrees raw none k' := by
  refine (createSocket_fits addr true).bind ?_
  rintro (err | fd) k' hk'
  · intro raw hraw
    cases hraw
  · obtain ⟨d, rfl, hd⟩ := hk'
    refine fits_idle ⟨fun _ => trivial, fun _ _ _ h => h⟩ fun r => ?_
    show Fits _ (if _ then _ else _) _
    have hagrees : Agrees (RawTcpSocket.fromFd fd) none (some d) := (hd .connected).agrees (by simp)
    split
    · refine giveUp_fits hagrees ?_
      intro err raw hraw
      cases hraw
    · intro raw hraw
      cases hraw
      exact ⟨rfl, rfl, hagrees⟩

end Raw

/-- The raw sockets a program can have are connected or closed, and
blocking. -/
structure Usable (raw : RawTcpSocket) (k : Kernel) : Prop where
  state : raw.connectionState = .connected ∨ raw.connectionState = .closed
  blocking : raw.blocking = true
  agrees : Agrees raw none k

theorem shut_agrees (raw : RawTcpSocket) (interest : Option UInt32) :
    Agrees (shut raw) interest none := by
  rw [Agrees, if_pos (shut_connectionState raw)]

theorem Usable.io {raw raw' : RawTcpSocket} {k k' : Kernel} {r : IoResult Nat}
    (h : Usable raw k) (hio : IoEffect raw k (r, raw') k') : Usable raw' k' := by
  rcases hio with ⟨rfl, rfl⟩ | ⟨-, rfl, rfl, -⟩
  · exact h
  · exact ⟨.inr rfl, h.blocking, shut_agrees raw none⟩

theorem RawSocket.usable {raw : RawTcpSocket} {k : Kernel} (h : RawSocket ws host raw k) :
    Usable raw k := by
  induction h with
  | connect hx =>
    obtain ⟨hstate, hblocking, hagrees⟩ := (connect_fits _).exec hx _ rfl
    exact ⟨.inl hstate, hblocking, hagrees⟩
  | accept hflags =>
    refine ⟨.inl rfl, rfl, ?_⟩
    exact OpenAs.agrees ⟨rfl, rfl, by simp [hflags, RawTcpSocket.fromFd], rfl⟩ nofun
  | write _ hx ih => exact ih.io ((write_fits ih.agrees _).exec hx)
  | read _ hx ih => exact ih.io ((read_fits ih.agrees _).exec hx)
  | close _ hx ih =>
    obtain ⟨rfl, rfl⟩ := (closeSocket_fits ih.agrees).exec hx
    exact ⟨.inr rfl, ih.blocking, shut_agrees _ none⟩

/-! ## Boxed sockets -/

/-- What an open socket is watched for. -/
def interestOf : ConnectionState → UInt32
  | .connected => EPOLLIN
  | _ => EPOLLOUT

/-- A TcpSocket agrees with its descriptor, and it is blocking once it is
connected. -/
structure Sound (s : TcpSocket) (k : Kernel) : Prop where
  agrees : Agrees s.socket (some (interestOf s.socket.connectionState)) k
  notCreated : s.socket.connectionState ≠ .created
  blocking : s.socket.connectionState = .connected → s.socket.blocking = true

theorem OpenAs.watch {raw : RawTcpSocket} {old : Option UInt32} {d : Descriptor}
    (h : OpenAs raw old d) (events : UInt32) :
    OpenAs raw (some events) { d with interest := some events } :=
  ⟨h.fd, rfl, h.blocking, h.others⟩

theorem registerFd_fits {s : TcpSocket} {d : Descriptor} (q : EventQueueImpl)
    (h : OpenAs s.socket none d) :
    Fits (some d) (s.registerFd q) fun _ k' =>
      k' = some { d with interest := some (interestOf s.socket.connectionState) } := by
  unfold TcpSocket.registerFd
  split
  case isTrue hconn =>
    rw [hconn]
    exact register_fits q EPOLLIN s.processFunc h.fd h.interest
  case isFalse hconn =>
    have hout : interestOf s.socket.connectionState = EPOLLOUT := by
      unfold interestOf
      split
      · contradiction
      · rfl
    rw [hout]
    exact register_fits q EPOLLOUT s.processFunc h.fd h.interest

theorem fromRawTcpSocket_fits {raw : RawTcpSocket} {k : Kernel} (this : Ptr) (info : SourceId)
    (q : EventQueueImpl) (h : Agrees raw none k) (hcreated : raw.connectionState ≠ .created)
    (hblocking : raw.connectionState = .connected → raw.blocking = true) :
    Fits k (TcpSocket.fromRawTcpSocket this info raw q) fun s k' =>
      s = { socket := raw, processFunc := this, eventSourceInfo := info, availableBytes := 0 } ∧
        Sound s k' := by
  unfold TcpSocket.fromRawTcpSocket
  simp only
  split
  case isTrue hopen =>
    obtain ⟨d, rfl, hd⟩ := agrees_open h hopen
    refine (registerFd_fits q hd).bind ?_
    intro _ _ h
    subst h
    exact ⟨rfl, (hd.watch _).agrees hopen, hcreated, hblocking⟩
  case isFalse hclosed =>
    have hclosed' : raw.connectionState = .closed := by simpa using hclosed
    refine ⟨rfl, ?_, hcreated, hblocking⟩
    rw [Agrees, if_pos hclosed']
    exact agrees_closed h hclosed'

/-- What `TcpSocket::connect` returns. -/
inductive ConnectEffect (this : Ptr) (info : SourceId) (q : EventQueueImpl) :
    TcpSocket → EventQueueImpl → Kernel → Prop where
  | inProgress {s : TcpSocket} {k : Kernel} : Sound s k → s.eventSourceInfo = info →
      s.socket.connectionState = .connecting → ConnectEffect this info q s q k
  | atOnce {s : TcpSocket} {k : Kernel} : Sound s k → s.eventSourceInfo = info →
      s.socket.connectionState = .connected →
      ConnectEffect this info q s (q.pushBackEvent (Event.new .connectedEvent info)) k

theorem tcp_connect_fits (this : Ptr) (info : SourceId) (addr : SocketAddr)
    (q : EventQueueImpl) :
    Fits none (TcpSocket.connect host this info addr q) fun r k' =>
      ∀ s, r.1 = .ok s → ConnectEffect this info q s r.2 k' := by
  refine (createSocket_fits addr false).bind ?_
  rintro (err | fd) k' hk'
  · intro s hs
    cases hs
  · obtain ⟨d, rfl, hd⟩ := hk'
    refine fits_idle ⟨fun _ => trivial, fun _ _ _ h => h⟩ fun r => ?_
    show Fits _ (if _ then _ else _) _
    split
    · refine fits_idle ⟨fun _ => trivial, fun _ _ _ h => h⟩ fun errno => ?_
      show Fits _ (if _ then _ else _) _
      split
      · refine fits_idle ⟨fun _ => trivial, fun _ _ _ h => h⟩ fun _ => ?_
        refine giveUp_fits ((hd .created).agrees nofun) ?_
        intro err s hs
        cases hs
      · refine (fromRawTcpSocket_fits this info q ((hd .connecting).agrees nofun) nofun
          nofun).bind ?_
        intro ret k' h s hs
        obtain ⟨rfl, hsound⟩ := h
        cases hs
        exact .inProgress hsound rfl rfl
    · refine (setBlocking_fits (hd .connected) nofun).bind ?_
      intro raw k' h
      obtain ⟨rfl, d', rfl, hd'⟩ := h
      refine (fromRawTcpSocket_fits this info q (hd'.agrees nofun) nofun fun _ => rfl).bind ?_
      intro ret k' h s hs
      obtain ⟨rfl, hsound⟩ := h
      cases hs
      exact .atOnce hsound rfl rfl

/-! ### Methods -/

/-- A method leaves the state alone, or it closes the socket and removes its
events. -/
inductive MethodEffect (s : TcpSocket) (q : EventQueueImpl) (k : Kernel) :
    TcpSocket → EventQueueImpl → Kernel → Prop where
  | stays {n : Nat} : MethodEffect s q k { s with availableBytes := n } q k
  | shuts : MethodEffect s q k { s with socket := shut s.socket } (s.removePendingEvents q) none

section Methods

variable {s : TcpSocket} {k : Kernel}

/-- `TcpSocket::write` and the failing branch of `read`: the events go when
the socket goes. -/
theorem IoEffect.method {r : IoResult Nat} {raw : RawTcpSocket} {k' : Kernel}
    (q : EventQueueImpl) (h : IoEffect s.socket k (r, raw) k') :
    (raw = s.socket ∧ k' = k ∧
        ¬ (s.socket.connectionState ≠ raw.connectionState ∧ raw.connectionState = .closed)) ∨
      (MethodEffect s q k { s with socket := raw }
          (TcpSocket.removePendingEvents { s with socket := raw } q) k' ∧
        s.socket.connectionState ≠ raw.connectionState ∧ raw.connectionState = .closed) := by
  rcases h with ⟨rfl, rfl⟩ | ⟨hconn, rfl, rfl, -⟩
  · exact .inl ⟨rfl, rfl, by simp⟩
  · exact .inr ⟨.shuts, by simp [hconn], rfl⟩

theorem tcp_write_fits (h : Sound s k) (len : Nat) (q : EventQueueImpl) :
    Fits k (s.write ws len q) fun r k' => MethodEffect s q k r.2.1 r.2.2 k' := by
  refine (write_fits h.agrees len).bind ?_
  intro r k' hio
  obtain ⟨ret, raw⟩ := r
  simp only
  rcases IoEffect.method q hio with ⟨rfl, rfl, hsame⟩ | ⟨heffect, hclosed⟩
  · rw [if_neg hsame]
    exact .stays
  · rw [if_pos hclosed]
    exact heffect

theorem tcp_read_fits (h : Sound s k) (len : Nat) (q : EventQueueImpl) :
    Fits k (s.read ws len q) fun r k' => MethodEffect s q k r.2.1 r.2.2 k' := by
  unfold TcpSocket.read
  simp only
  split
  · exact .stays
  · refine (read_fits h.agrees len).bind ?_
    intro r k' hio
    obtain ⟨ret, raw⟩ := r
    simp only
    split
    · rcases hio with ⟨rfl, rfl⟩ | ⟨-, -, -, err, herr⟩
      · exact .stays
      · cases herr
    · rcases IoEffect.method q hio with ⟨rfl, rfl, hsame⟩ | ⟨heffect, hclosed⟩
      · rw [if_neg hsame]
        exact .stays
      · rw [if_pos hclosed]
        exact heffect

theorem tcp_close_fits (h : Sound s k) (q : EventQueueImpl) :
    Fits k (s.close q) fun r k' => MethodEffect s q k r.1 r.2 k' := by
  refine (closeSocket_fits h.agrees).bind ?_
  intro raw k' h
  obtain ⟨rfl, rfl⟩ := h
  exact .shuts

theorem method_fits (h : Sound s k) (m : Method) (q : EventQueueImpl) :
    Fits k (m.run ws s q) fun r k' => MethodEffect s q k r.1 r.2 k' := by
  cases m with
  | read len => exact (tcp_read_fits h len q).bind fun _ _ hr => hr
  | write len => exact (tcp_write_fits h len q).bind fun _ _ hr => hr
  | close => exact tcp_close_fits h q

end Methods

/-! ### The callback -/

/-- The mask has a bit that the callback looks at. -/
def Noticed (s : TcpSocket) (mask : UInt32) : Prop :=
  mask &&& EPOLLERR ≠ 0 ∨ mask &&& interestOf s.socket.connectionState ≠ 0

/-- What the callback of an open socket does. -/
inductive CallbackEffect (s : TcpSocket) (q : EventQueueImpl) (k : Kernel) (mask : UInt32) :
    TcpSocket → EventQueueImpl → Kernel → Prop where
  | nothing : ¬ Noticed s mask → CallbackEffect s q k mask s q k
  | data {n : Nat} : Noticed s mask → s.socket.connectionState = .connected → 0 < n →
      CallbackEffect s q k mask { s with availableBytes := n }
        (q.pushBackEvent (Event.new (.dataAvailableEvent n) s.eventSourceInfo)) k
  | ended {n : Nat} : Noticed s mask → s.socket.connectionState = .connected →
      CallbackEffect s q k mask { s with socket := shut s.socket, availableBytes := n }
        (q.pushBackEvent (Event.new .streamClosedEvent s.eventSourceInfo)) none
  | error {err : IoError} : Noticed s mask →
      CallbackEffect s q k mask { s with socket := shut s.socket }
        (q.pushBackEvent (Event.new (.ioErrorEvent err) s.eventSourceInfo)) none
  | connected {s' : TcpSocket} {k' : Kernel} : Noticed s mask →
      s.socket.connectionState = .connecting → s'.socket.connectionState = .connected →
      s'.eventSourceInfo = s.eventSourceInfo → Sound s' k' →
      CallbackEffect s q k mask s'
        (q.pushBackEvent (Event.new .connectedEvent s.eventSourceInfo)) k'

section Callback

variable {s : TcpSocket} {k : Kernel} {mask : UInt32}

theorem readAvailableBytes_fits :
    Fits k (s.readAvailableBytes ws) fun r k' =>
      k' = k ∧ ∃ n, r.2 = { s with availableBytes := n } := by
  refine fits_idle ⟨fun _ => trivial, fun _ _ _ h => h⟩ ?_
  intro r
  obtain ⟨ret, bytes⟩ := r
  show Fits k (if _ then _ else _) _
  split
  · exact fits_reports lastError_reports fun _ => ⟨rfl, _, rfl⟩
  · exact ⟨rfl, _, rfl⟩

theorem onError_fits (h : Sound s k) (q : EventQueueImpl) (hmask : mask &&& EPOLLERR ≠ 0) :
    Fits k (s.onError q) fun r k' => CallbackEffect s q k mask r.1 r.2 k' := by
  refine fits_idle ⟨fun _ => trivial, fun _ _ _ h => h⟩ ?_
  intro r
  obtain ⟨ret, errno⟩ := r
  show Fits k (if _ then _ else _) _
  split
  · refine fits_reports (translateError_reports _ _) fun err => ?_
    refine (closeSocket_fits h.agrees).bind ?_
    intro raw k' h
    obtain ⟨rfl, rfl⟩ := h
    exact .error (.inl hmask)
  · trivial

theorem onReadable_fits (h : Sound s k) (q : EventQueueImpl) (hnoticed : Noticed s mask)
    (hconn : s.socket.connectionState = .connected) :
    Fits k (s.onReadable ws q mask) fun r k' => CallbackEffect s q k mask r.1 r.2 k' := by
  unfold TcpSocket.onReadable
  extract_lets tail
  have htail : ∀ n, Fits k (tail { s with availableBytes := n }) fun r k' =>
      CallbackEffect s q k mask r.1 r.2 k' := by
    intro n
    simp only [tail]
    split
    case isTrue hn => exact .data hnoticed hconn hn
    case isFalse =>
      refine (closeSocket_fits h.agrees).bind ?_
      intro raw k' h
      obtain ⟨rfl, rfl⟩ := h
      exact .ended hnoticed hconn
  split
  · refine readAvailableBytes_fits.bind ?_
    intro r k' h
    obtain ⟨ret, s'⟩ := r
    obtain ⟨rfl, n, rfl⟩ := h
    exact htail n
  · exact htail 0

theorem onWritable_fits (h : Sound s k) (q : EventQueueImpl) (hnoticed : Noticed s mask)
    (hconnecting : s.socket.connectionState = .connecting) :
    Fits k (s.onWritable q) fun r k' => CallbackEffect s q k mask r.1 r.2 k' := by
  unfold TcpSocket.onWritable
  simp -zeta only [sys_eq, call_bind, ret_bind]
  refine fits_idle ⟨fun _ => trivial, fun _ _ _ h => h⟩ ?_
  intro r
  obtain ⟨ret, out⟩ := r
  extract_lets tail
  have htail : ∀ r, Fits k (tail r) fun r k' => CallbackEffect s q k mask r.1 r.2 k' := by
    intro r
    obtain ⟨success, errno⟩ := r
    simp only [tail]
    split
    · refine fits_reports (translateError_reports _ _) fun err => ?_
      refine (closeSocket_fits h.agrees).bind ?_
      intro raw k' h
      obtain ⟨rfl, rfl⟩ := h
      exact .error hnoticed
    · have hopen : s.socket.connectionState ≠ .closed := by simp [hconnecting]
      obtain ⟨d, rfl, hd⟩ := agrees_open h.agrees hopen
      refine (setBlocking_fits hd hopen).bind ?_
      intro raw k' h
      obtain ⟨rfl, d', rfl, hd'⟩ := h
      refine (modify_fits q EPOLLIN s.processFunc hd'.fd (by simp [hd'.interest])).bind ?_
      intro _ k' h
      subst h
      refine .connected hnoticed hconnecting rfl rfl ⟨?_, nofun, fun _ => rfl⟩
      exact OpenAs.agrees ⟨hd'.fd, rfl, hd'.blocking, hd'.others⟩ nofun
  split
  · exact htail (decide (out = 0), out)
  · exact fits_idle ⟨fun _ => trivial, fun _ _ _ h => h⟩ fun e => htail (false, e)

theorem callback_fits (h : Sound s k) (q : EventQueueImpl)
    (hopen : s.socket.connectionState ≠ .closed) :
    Fits k (s.processEpollEvents ws q mask) fun r k' =>
      CallbackEffect s q k mask r.1 r.2 k' := by
  unfold TcpSocket.processEpollEvents
  split
  case isTrue herr => exact onError_fits h q herr
  case isFalse herr =>
    have herr' : mask &&& EPOLLERR = 0 := by simpa using herr
    split
    case isTrue hconn =>
      have hin : interestOf s.socket.connectionState = EPOLLIN := by rw [hconn]; rfl
      split
      case isTrue hmask =>
        refine onReadable_fits h q ?_ hconn
        rw [Noticed, hin]
        exact hmask.symm
      case isFalse hmask =>
        refine .nothing ?_
        rw [Noticed, hin]
        exact fun hn => hmask hn.symm
    case isFalse hconn =>
      have hconnecting : s.socket.connectionState = .connecting := by
        cases hstate : s.socket.connectionState with
        | created => exact absurd hstate h.notCreated
        | connecting => rfl
        | connected => exact absurd hstate hconn
        | closed => exact absurd hstate hopen
      have hout : interestOf s.socket.connectionState = EPOLLOUT := by rw [hconnecting]; rfl
      split
      case isTrue hmask =>
        refine onWritable_fits h q ?_ hconnecting
        rw [Noticed, hout]
        exact .inr hmask
      case isFalse hmask =>
        refine .nothing ?_
        rw [Noticed, hout]
        exact fun hn => hn.elim (fun hn => hn herr') hmask

end Callback

end Revbio.Stream
