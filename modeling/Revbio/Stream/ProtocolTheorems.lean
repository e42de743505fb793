/-
Revbio.Stream.ProtocolTheorems — the events a TcpSocket pushes, in order.

A socket closes itself in its callback, which then pushes one last event,
or it is closed in a call, which then removes what is pending. The callback
removes nothing. It need not: `next_event` calls it with an empty queue
(`LoopInv`).
-/
import Revbio.EventQueue.SourceTheorems
import Revbio.Stream.InterestTheorems

namespace Revbio.Stream

open CallTree EventLoop Transition

variable {ws : WordSize} {host : Endian}

/-! ## The protocol -/

def IsData (k : EventKind) : Prop := ∃ bytes, k = .dataAvailableEvent bytes

/-- The event of a callback that closes the socket. -/
def Terminal (k : EventKind) : Prop := k = .streamClosedEvent ∨ ∃ err, k = .ioErrorEvent err

/-- Any number of data events, then at most one terminal one. -/
def IsStream (ks : List EventKind) : Prop :=
  ∃ data last, ks = data ++ last ∧ (∀ k ∈ data, IsData k) ∧
    (last = [] ∨ ∃ k, Terminal k ∧ last = [k])

/-- The sequences of events a socket may push. -/
def Allowed : Origin → List EventKind → Prop
  | .connect, ks => ks = [] ∨ (∃ err, ks = [.ioErrorEvent err]) ∨
      ∃ rest, ks = .connectedEvent :: rest ∧ IsStream rest
  | .raw, ks => IsStream ks

/-- Connecting, connected, closed. -/
def order : ConnectionState → Nat
  | .created => 0
  | .connecting => 1
  | .connected => 2
  | .closed => 3

/-- The valid events of the socket that are still queued. -/
def StreamState.pending (s : StreamState) : List Event :=
  (ownEvents s.sock.eventSourceInfo s.queue).filter Event.isValid

/-- At most the last event of a callback that has closed the socket is
pending, and nothing if a call has closed it. -/
def Quiet (s : StreamState) : Prop :=
  match s.closedBy with
  | some .callback => s.pending = [] ∨ ∃ k, Terminal k ∧ s.pushed.getLast? = some k ∧
      s.pending = [Event.new k s.sock.eventSourceInfo]
  | _ => s.pending = []

/-! ## Queues -/

section Queues

variable {src : SourceId} {q : EventQueueImpl}

@[simp] theorem appended_self (src : SourceId) (q : EventQueueImpl) : appended src q q = [] := by
  simp [appended]

@[simp] theorem appended_push (src : SourceId) (q : EventQueueImpl) (k : EventKind) :
    appended src q (q.pushBackEvent (Event.new k src)) = [k] := by
  simp [appended]

@[simp] theorem appended_remove (src : SourceId) (q : EventQueueImpl) (c : Event → Bool) :
    appended src q (q.removePendingEvents c) = [] := by
  rw [appended, List.drop_eq_nil_of_le (by simp [EventQueueImpl.removePendingEvents])]
  rfl

theorem ownEvents_pushAll {src' : SourceId} (h : src' ≠ src) (kinds : List EventKind) :
    ownEvents src (q.pushAll src' kinds) = ownEvents src q := by
  simp [ownEvents, h]

/-- A source that is closed in a call has no valid event left. -/
theorem ownEvents_remove (s : TcpSocket) (q : EventQueueImpl) :
    (ownEvents s.eventSourceInfo (s.removePendingEvents q)).filter Event.isValid = [] := by
  rw [TcpSocket.removePendingEvents_eq]
  simp only [ownEvents, EventQueueImpl.removePendingEvents, List.filter_eq_nil_iff,
    List.mem_filter, List.mem_map]
  intro ev h
  obtain ⟨⟨ev', -, rfl⟩, hown⟩ := h
  by_cases h : ev'.sourceInfo = s.eventSourceInfo
  · simp [h]
  · simp [h] at hown

end Queues

/-! ## The invariant -/

/-- What a connected socket has pushed before its data events. -/
def opening : Origin → List EventKind
  | .connect => [.connectedEvent]
  | .raw => []

/-- What has been pushed, by the state. -/
def History (o : Origin) (state : ConnectionState) (pushed : List EventKind) : Prop :=
  match state with
  | .created => False
  | .connecting => o = .connect ∧ pushed = []
  | .connected => ∃ data, pushed = opening o ++ data ∧ ∀ k ∈ data, IsData k
  | .closed => Allowed o pushed

structure Inv (o : Origin) (s : StreamState) : Prop where
  sound : Sound s.sock s.kernel
  loop : LoopInv s.phase s.queue
  history : History o s.sock.socket.connectionState s.pushed
  quiet : s.sock.socket.connectionState = .closed → Quiet s

theorem allowed_of_stream {o : Origin} {rest : List EventKind} (h : IsStream rest) :
    Allowed o (opening o ++ rest) := by
  cases o with
  | connect => exact .inr (.inr ⟨rest, rfl, h⟩)
  | raw => exact h

theorem isStream_data {data : List EventKind} (h : ∀ k ∈ data, IsData k) : IsStream data :=
  ⟨data, [], by simp, h, .inl rfl⟩

/-- Whatever the state, nothing forbidden has been pushed. -/
theorem History.allowed {o : Origin} {state : ConnectionState} {pushed : List EventKind}
    (h : History o state pushed) : Allowed o pushed := by
  cases state with
  | created => exact h.elim
  | connecting =>
    obtain ⟨rfl, rfl⟩ := h
    exact .inl rfl
  | connected =>
    obtain ⟨data, rfl, hdata⟩ := h
    exact allowed_of_stream (isStream_data hdata)
  | closed => exact h

/-- A callback that closes the socket. -/
theorem History.terminal {o : Origin} {state : ConnectionState} {pushed : List EventKind}
    (h : History o state pushed) {k : EventKind} (hk : Terminal k)
    (hconnecting : state = .connecting → ∃ err, k = .ioErrorEvent err)
    (hopen : state ≠ .closed) : Allowed o (pushed ++ [k]) := by
  cases state with
  | created => exact h.elim
  | connecting =>
    obtain ⟨rfl, rfl⟩ := h
    obtain ⟨err, rfl⟩ := hconnecting rfl
    exact .inr (.inl ⟨err, rfl⟩)
  | connected =>
    obtain ⟨data, rfl, hdata⟩ := h
    rw [List.append_assoc]
    exact allowed_of_stream ⟨data, [k], rfl, hdata, .inr ⟨k, hk, rfl⟩⟩
  | closed => exact absurd rfl hopen

/-! ## Steps -/

section Steps

variable {o : Origin} {s : StreamState}

/-- A queue with no more of the socket's events, after the same history. -/
theorem Quiet.of_suffix {t : StreamState} (h : Quiet s) (hclosed : t.closedBy = s.closedBy)
    (hpushed : t.pushed = s.pushed)
    (hinfo : t.sock.eventSourceInfo = s.sock.eventSourceInfo)
    (hpending : t.pending <:+ s.pending) : Quiet t := by
  have hnil : s.pending = [] → t.pending = [] := by
    intro hs
    rw [hs] at hpending
    exact List.suffix_nil.mp hpending
  unfold Quiet at h ⊢
  rw [hclosed, hpushed, hinfo]
  cases hby : s.closedBy with
  | none =>
    rw [hby] at h
    exact hnil h
  | some who =>
    rw [hby] at h
    cases who with
    | call => exact hnil h
    | callback =>
      rcases h with hs | ⟨k, hk, hlast, hs⟩
      · exact .inl (hnil hs)
      · rw [hs, List.suffix_cons_iff] at hpending
        rcases hpending with ht | ht
        · exact .inr ⟨k, hk, hlast, ht⟩
        · exact .inl (List.suffix_nil.mp ht)

/-- After its events have been removed. -/
theorem quiet_of_no_pending (h : s.pending = []) : Quiet s := by
  unfold Quiet
  split
  · exact .inl h
  · exact h

theorem Inv.loopStep (h : Inv o s) {l : LoopLabel} {phase : Phase} {queue : EventQueueImpl}
    (hstep : LoopStep s.phase s.queue l phase queue) : Inv o { s with phase, queue } := by
  refine ⟨h.sound, h.loop.step hstep, h.history, ?_⟩
  intro hclosed
  refine (h.quiet hclosed).of_suffix rfl rfl rfl ?_
  exact (hstep.suffix.filter _).filter _

/-- A step that leaves the socket and its events alone. -/
theorem Inv.aside (h : Inv o s) {phase : Phase} {queue : EventQueueImpl}
    (hloop : LoopInv phase queue)
    (hown : ownEvents s.sock.eventSourceInfo queue = ownEvents s.sock.eventSourceInfo s.queue) :
    Inv o { s with phase, queue } := by
  refine ⟨h.sound, hloop, h.history, ?_⟩
  intro hclosed
  refine (h.quiet hclosed).of_suffix rfl rfl rfl ?_
  exact ⟨[], congrArg (List.filter Event.isValid) hown⟩

theorem Inv.call (h : Inv o s) {sock : TcpSocket} {queue : EventQueueImpl} {kernel : Kernel}
    (heffect : MethodEffect s.sock s.queue s.kernel sock queue kernel) :
    Inv o (s.goOn .call sock queue kernel .idle) := by
  cases heffect with
  | stays =>
    rename_i n
    refine ⟨⟨h.sound.agrees, h.sound.notCreated, h.sound.blocking⟩, trivial, ?_, ?_⟩
    · simpa [StreamState.goOn] using h.history
    · intro hclosed
      refine (h.quiet hclosed).of_suffix ?_ ?_ rfl List.suffix_rfl
      · exact if_neg fun hnow => hnow.1 hnow.2
      · simp [StreamState.goOn]
  | shuts =>
    refine ⟨shut_sound s.sock _, trivial, ?_, fun _ => quiet_of_no_pending ?_⟩
    · have hallowed := h.history.allowed
      simpa [StreamState.goOn, History, TcpSocket.removePendingEvents_eq] using hallowed
    · exact ownEvents_remove s.sock s.queue

/-- The callback pushes into an empty queue. -/
theorem pending_push {q : EventQueueImpl} (hq : q.readyEvents = []) (k : EventKind)
    (src : SourceId) :
    (ownEvents src (q.pushBackEvent (Event.new k src))).filter Event.isValid =
      [Event.new k src] := by
  simp [ownEvents, hq]

/-- A callback that closes the socket leaves one event behind, its last. -/
theorem Inv.closing (h : Inv o s) (hphase : s.phase = .polling)
    (hopen : s.sock.socket.connectionState ≠ .closed) {k : EventKind} (hk : Terminal k)
    (hconnecting : s.sock.socket.connectionState = .connecting → ∃ err, k = .ioErrorEvent err)
    (n : Nat) :
    Inv o (s.goOn .callback { s.sock with socket := shut s.sock.socket, availableBytes := n }
      (s.queue.pushBackEvent (Event.new k s.sock.eventSourceInfo)) none .checking) := by
  have hloop := h.loop
  rw [hphase] at hloop
  have hpushed : s.pushed ++ appended s.sock.eventSourceInfo s.queue
      (s.queue.pushBackEvent (Event.new k s.sock.eventSourceInfo)) = s.pushed ++ [k] := by
    rw [appended_push]
  refine ⟨shut_sound s.sock n, ?_, ?_, fun _ => ?_⟩
  · exact hloop.pushed s.sock.eventSourceInfo [k]
  · show Allowed o (s.pushed ++ appended _ _ _)
    rw [hpushed]
    exact h.history.terminal hk hconnecting hopen
  · have hby : (s.goOn .callback { s.sock with socket := shut s.sock.socket, availableBytes := n }
        (s.queue.pushBackEvent (Event.new k s.sock.eventSourceInfo)) none .checking).closedBy =
        some .callback := if_pos ⟨hopen, rfl⟩
    unfold Quiet
    rw [hby]
    refine .inr ⟨k, hk, ?_, pending_push hloop k s.sock.eventSourceInfo⟩
    show (s.pushed ++ appended _ _ _).getLast? = some k
    rw [hpushed]
    simp

theorem Inv.callback (h : Inv o s) (hphase : s.phase = .polling) {mask : UInt32}
    (hopen : s.sock.socket.connectionState ≠ .closed) {sock : TcpSocket}
    {queue : EventQueueImpl} {kernel : Kernel}
    (heffect : CallbackEffect s.sock s.queue s.kernel mask sock queue kernel) :
    Inv o (s.goOn .callback sock queue kernel .checking) := by
  have hloop := h.loop
  rw [hphase] at hloop
  have hsound := heffect.sound h.sound
  cases heffect with
  | nothing =>
    refine ⟨h.sound, ?_, ?_, fun hclosed => absurd hclosed hopen⟩
    · have hpushed := hloop.pushed s.sock.eventSourceInfo []
      rw [EventQueueImpl.pushAll_nil] at hpushed
      exact hpushed
    · simpa [StreamState.goOn] using h.history
  | @data n _ hconn _ =>
    refine ⟨hsound, ?_, ?_, fun hclosed => absurd hclosed hopen⟩
    · exact hloop.pushed s.sock.eventSourceInfo [.dataAvailableEvent n]
    · have hhistory := h.history
      rw [hconn] at hhistory
      obtain ⟨data, hpushed, hdata⟩ := hhistory
      simp only [StreamState.goOn, hconn, appended_push, hpushed, List.append_assoc]
      refine ⟨data ++ [.dataAvailableEvent n], rfl, ?_⟩
      intro k hk
      rcases List.mem_append.mp hk with hk | hk
      · exact hdata k hk
      · exact ⟨n, List.mem_singleton.mp hk⟩
  | ended _ hconn => exact h.closing hphase hopen (.inl rfl) (by simp [hconn]) _
  | error => exact h.closing hphase hopen (.inr ⟨_, rfl⟩) (fun _ => ⟨_, rfl⟩) _
  | connected _ hconnecting hconnected hinfo _ =>
    refine ⟨hsound, ?_, ?_, ?_⟩
    · exact hloop.pushed s.sock.eventSourceInfo [.connectedEvent]
    · have hhistory := h.history
      rw [hconnecting] at hhistory
      obtain ⟨rfl, hpushed⟩ := hhistory
      simp only [StreamState.goOn, hconnected, appended_push, hpushed]
      exact ⟨[], rfl, by simp⟩
    · intro hclosed
      cases hconnected.symm.trans hclosed

end Steps

theorem start_inv {o : Origin} {s : StreamState} (h : Start ws host o s) : Inv o s := by
  have hsound := start_sound h
  cases h with
  | @connect this info addr q queue sock kernel hown hx =>
    have heffect := (tcp_connect_fits this info addr q).exec hx _ rfl
    refine ⟨hsound, trivial, ?_, ?_⟩
    · cases heffect with
      | inProgress _ _ hstate => simp [hstate, History]
      | atOnce _ _ hstate =>
        rw [hstate]
        exact ⟨[], appended_push info q .connectedEvent, by simp⟩
    · intro hclosed
      cases heffect with
      | inProgress _ _ hstate => cases hstate.symm.trans hclosed
      | atOnce _ _ hstate => cases hstate.symm.trans hclosed
  | @raw this info queue raw sock k kernel hown hraw hx =>
    have husable := hraw.usable
    obtain ⟨rfl, -⟩ := (fromRawTcpSocket_fits this info queue husable.agrees husable.notCreated
      fun _ => husable.blocking).exec hx
    refine ⟨hsound, trivial, ?_, fun _ => ?_⟩
    · rcases husable.state with hstate | hstate
      · simp [hstate, History, opening]
      · simpa [hstate, History, Allowed] using @isStream_data [] (by simp)
    · refine quiet_of_no_pending ?_
      simp [StreamState.pending, hown]

theorem step_inv {o : Origin} {s t : StreamState} {l : Label} (h : Inv o s)
    (hstep : Step ws s l t) : Inv o t := by
  cases hstep with
  | loop hloop => exact h.loopStep hloop
  | others hphase hown => exact h.aside (by rw [hphase]; trivial) hown
  | @report src kinds hphase hsrc =>
    have hloop := h.loop
    rw [hphase] at hloop
    exact h.aside (hloop.pushed src kinds) (ownEvents_pushAll hsrc kinds)
  | call _ hx => exact h.call (call_effect h.sound hx)
  | callback hphase hwatched hx =>
    exact h.callback hphase (h.sound.watched hwatched) (callback_effect h.sound hwatched hx)

/-! ## The state moves forward -/

theorem order_le_closed (state : ConnectionState) : order state ≤ order .closed := by
  cases state <;> decide

theorem MethodEffect.order_le {s s' : TcpSocket} {q q' : EventQueueImpl} {k k' : Kernel}
    (h : MethodEffect s q k s' q' k') :
    order s.socket.connectionState ≤ order s'.socket.connectionState := by
  cases h with
  | stays => exact Nat.le_refl _
  | shuts => exact order_le_closed _

theorem CallbackEffect.order_le {s s' : TcpSocket} {q q' : EventQueueImpl} {k k' : Kernel}
    {mask : UInt32} (h : CallbackEffect s q k mask s' q' k') :
    order s.socket.connectionState ≤ order s'.socket.connectionState := by
  cases h with
  | nothing => exact Nat.le_refl _
  | data => exact Nat.le_refl _
  | ended => exact order_le_closed _
  | error => exact order_le_closed _
  | connected _ hconnecting hconnected => simp [hconnecting, hconnected, order]

theorem step_order_le {s t : StreamState} {l : Label} (hs : Sound s.sock s.kernel)
    (hstep : Step ws s l t) :
    order s.sock.socket.connectionState ≤ order t.sock.socket.connectionState := by
  cases hstep with
  | loop _ => exact Nat.le_refl _
  | others _ _ => exact Nat.le_refl _
  | report _ _ => exact Nat.le_refl _
  | call _ hx => exact (call_effect hs hx).order_le
  | callback _ hwatched hx => exact (callback_effect hs hwatched hx).order_le

/-- **The event protocol.** In every run, from either constructor: what the
socket has pushed so far is allowed for its origin; between any two states
of the run its state has only moved forward; and once it is closed, none of
its events is valid in the queue but the last one of the callback that has
closed it. -/
theorem event_protocol {o : Origin} {s₀ s t : StreamState} {tr tr' : List Label}
    (h₀ : Start ws host o s₀) (h : Run (Step ws) s₀ tr s) (h' : Run (Step ws) s tr' t) :
    Allowed o t.pushed ∧
      order s.sock.socket.connectionState ≤ order t.sock.socket.connectionState ∧
      (t.sock.socket.connectionState = .closed → Quiet t) := by
  have ht : Inv o t := (h.append h').invariant (start_inv h₀) fun _ _ _ => step_inv
  refine ⟨ht.history.allowed, ?_, ht.quiet⟩
  have hforward : Sound t.sock t.kernel ∧
      order s.sock.socket.connectionState ≤ order t.sock.socket.connectionState := by
    refine h'.invariant (I := fun t => Sound t.sock t.kernel ∧
      order s.sock.socket.connectionState ≤ order t.sock.socket.connectionState)
      ⟨run_sound h₀ h, Nat.le_refl _⟩ ?_
    intro t l u ht hstep
    exact ⟨step_sound ht.1 hstep, Nat.le_trans ht.2 (step_order_le ht.1 hstep)⟩
  exact hforward.2

theorem event_protocol_answered :
    Allowed .connect answered.pushed ∧
      order dialled.sock.socket.connectionState ≤ order answered.sock.socket.connectionState ∧
      (answered.sock.socket.connectionState = .closed → Quiet answered) :=
  event_protocol (dialled_start .w64) .nil (answered_run .w64)

end Revbio.Stream
