/-
Revbio.EventQueue.SourceTheorems — what the four sources do to the event
queue: their callbacks push fresh events of their own, and the methods
that end a source remove all of its events and no others.

These facts hold whatever the system calls answer. With them a run of the
queue under its sources is a run in the sense of `EventQueueImpl.run`, and
`eventQueue_refines_iff` states the refinement for it.
-/
import Revbio.EventQueue.RefinementTheorems
import Revbio.Linux.Channel
import Revbio.Linux.Tcp
import Revbio.Linux.Timer

namespace Revbio

open CallTree Prog

variable {ws : WordSize}

/-! ## Callbacks -/

/-- A callback of one source is a `Poll` answer. -/
theorem EventQueueImpl.pollEvents_own (q : EventQueueImpl) (src : SourceId)
    (ks : List EventKind) :
    q.pollEvents (.ready (ks.map fun k => (k, src))) = (.ok (), q.pushAll src ks) := by
  simp [EventQueueImpl.pollEvents_ready, EventQueueImpl.pushAll, Function.comp_def]

/-- `q'` is `q` with events of `src` appended. -/
def PushedOnly (src : SourceId) (q q' : EventQueueImpl) : Prop :=
  ∃ ks, q' = q.pushAll src ks

/-- `q'` is `q` with at most one event of `src` appended. -/
def PushedOne (src : SourceId) (q q' : EventQueueImpl) : Prop :=
  q' = q ∨ ∃ k, q' = q.pushBackEvent (Event.new k src)

theorem PushedOne.refl (src : SourceId) (q : EventQueueImpl) : PushedOne src q q := .inl rfl

theorem PushedOne.one (src : SourceId) (q : EventQueueImpl) (k : EventKind) :
    PushedOne src q (q.pushBackEvent (Event.new k src)) := .inr ⟨k, rfl⟩

theorem timer_pushes (t : Timer) (q : EventQueueImpl) (mask : UInt32) :
    (t.processEpollEvents q mask).Returns fun r =>
      ∃ n, r.2 = q.pushAll t.eventSourceInfo (List.replicate n .timerEvent) := by
  have hnone : ∃ n, q = q.pushAll t.eventSourceInfo (List.replicate n .timerEvent) :=
    ⟨0, (q.pushAll_nil _).symm⟩
  unfold Timer.processEpollEvents
  split
  · simp only [retry_eq, call_bind, ret_bind, returns_call]
    intro r
    obtain ⟨read, expirations⟩ := r
    split
    · simp only [pure_eq, returns_ret, t.onExpiration_iterate q expirations]
      exact ⟨_, rfl⟩
    · exact hnone
  · exact hnone

theorem onError_pushes (s : TcpSocket) (q : EventQueueImpl) :
    (s.onError q).Returns fun r => PushedOne s.eventSourceInfo q r.2 := by
  unfold TcpSocket.onError
  simp only [sys_eq, call_bind, ret_bind, returns_call]
  intro r
  obtain ⟨ret, errno⟩ := r
  split
  · refine returns_next ?_
    intro err
    exact returns_next fun raw => .one _ q _
  · trivial

theorem readAvailableBytes_info (s : TcpSocket) :
    (s.readAvailableBytes ws).Returns fun r => r.2.eventSourceInfo = s.eventSourceInfo := by
  unfold TcpSocket.readAvailableBytes
  simp only [retry_eq, call_bind, ret_bind, returns_call]
  intro r
  obtain ⟨ret, bytes⟩ := r
  split
  · exact returns_next fun err => rfl
  · rfl

theorem onReadable_pushes (s : TcpSocket) (q : EventQueueImpl) (mask : UInt32) :
    (s.onReadable ws q mask).Returns fun r => PushedOne s.eventSourceInfo q r.2 := by
  unfold TcpSocket.onReadable
  -- the part after the two ways of getting the byte count
  extract_lets tail
  have htail : ∀ s', s'.eventSourceInfo = s.eventSourceInfo →
      (tail s').Returns fun r => PushedOne s.eventSourceInfo q r.2 := by
    intro s' hs'
    simp only [tail, hs']
    split
    · exact .one _ q _
    · exact returns_next fun raw => .one _ q _
  split
  · rw [returns_bind]
    exact (readAvailableBytes_info s).mono fun r hr => htail r.2 hr
  · exact htail { s with availableBytes := 0 } rfl

theorem onWritable_pushes (s : TcpSocket) (q : EventQueueImpl) :
    (s.onWritable q).Returns fun r => PushedOne s.eventSourceInfo q r.2 := by
  unfold TcpSocket.onWritable
  simp -zeta only [sys_eq, call_bind, ret_bind, returns_call]
  intro r
  obtain ⟨ret, out⟩ := r
  extract_lets tail
  have htail : ∀ r, (tail r).Returns fun r => PushedOne s.eventSourceInfo q r.2 := by
    intro r
    obtain ⟨success, errno⟩ := r
    simp only [tail]
    split
    · refine returns_next ?_
      intro err
      exact returns_next fun raw => .one _ q _
    · refine returns_next ?_
      intro raw
      exact returns_next fun _ => .one _ q _
  split
  · exact htail _
  · exact fun e => htail (false, e)

theorem tcpSocket_pushes (s : TcpSocket) (q : EventQueueImpl) (mask : UInt32) :
    (s.processEpollEvents ws q mask).Returns fun r => PushedOne s.eventSourceInfo q r.2 := by
  unfold TcpSocket.processEpollEvents
  split
  · exact onError_pushes s q
  · split
    · split
      · exact onReadable_pushes s q mask
      · exact .refl _ q
    · split
      · exact onWritable_pushes s q
      · exact .refl _ q

theorem tcpServerSocket_pushes (s : TcpServerSocket) (q : EventQueueImpl) (mask : UInt32) :
    (s.processEpollEvents q mask).Returns fun r => PushedOne s.eventSourceInfo q r.2 := by
  unfold TcpServerSocket.processEpollEvents
  split
  · simp only [sys_eq, call_bind, ret_bind, returns_call]
    intro r
    obtain ⟨ret, errno⟩ := r
    split
    · refine returns_next ?_
      intro err
      exact returns_next fun raw => .one _ q _
    · trivial
  · split
    · exact .one _ q _
    · exact .refl _ q

/-- One event for each message that is new, and one more at the end of the
channel. -/
theorem receiver_pushes {T : Type} (r : Receiver) (d : SharedChannelData T)
    (q : EventQueueImpl) :
    (r.announce ws d q).Returns fun x => ∃ n, x.2.2 = q.pushAll r.eventSourceInfo
      (List.replicate n .channelMessageEvent ++
        if d.nrSenders = 0 then [.channelClosedEvent] else []) := by
  unfold Receiver.announce
  simp only [sys_eq, call_bind, ret_bind, returns_call, EventQueueImpl.foldl_pushBackEvent,
    pure_eq, returns_ret]
  intro _ _
  refine ⟨ws.uintSub d.queue.length r.availableMessages, ?_⟩
  split
  · rw [EventQueueImpl.pushBackEvent_eq_pushAll, EventQueueImpl.pushAll_append]
  · rw [List.append_nil]

/-! ## The end of a source -/

theorem originatesFrom_eq {α : Type} [EventSource α] (ev : Event) (source : α) :
    ev.originatesFrom source =
      decide (ev.sourceInfo = EventSource.getEventSourceInfo source) := by
  unfold Event.originatesFrom
  split <;> simp_all

theorem TcpSocket.removePendingEvents_eq (s : TcpSocket) (q : EventQueueImpl) :
    s.removePendingEvents q =
      q.removePendingEvents fun ev => decide (ev.sourceInfo = s.eventSourceInfo) := by
  simp only [TcpSocket.removePendingEvents, originatesFrom_eq]
  rfl

theorem TcpServerSocket.removePendingEvents_eq (s : TcpServerSocket) (q : EventQueueImpl) :
    s.removePendingEvents q =
      q.removePendingEvents fun ev => decide (ev.sourceInfo = s.eventSourceInfo) := by
  simp only [TcpServerSocket.removePendingEvents, originatesFrom_eq]
  rfl

theorem Timer.removePendingEvents_eq (t : Timer) (q : EventQueueImpl) :
    t.removePendingEvents q =
      q.removePendingEvents fun ev => decide (ev.sourceInfo = t.eventSourceInfo) := by
  simp only [Timer.removePendingEvents, originatesFrom_eq]
  rfl

theorem Receiver.removePendingEvents_eq (r : Receiver) (q : EventQueueImpl) :
    r.removePendingEvents q =
      q.removePendingEvents fun ev => decide (ev.sourceInfo = r.eventSourceInfo) := by
  simp only [Receiver.removePendingEvents, originatesFrom_eq]
  rfl

theorem Receiver.drop_removes {T : Type} (r : Receiver) (d : SharedChannelData T)
    (q : EventQueueImpl) : (r.drop d q).Returns fun x => x.2 = r.removePendingEvents q := by
  unfold Receiver.drop
  simp -zeta only [sys_eq, call_bind, ret_bind, returns_call]
  intro _
  split
  · exact fun _ _ => rfl
  · exact fun _ => rfl

/-- The methods that end a source: `close`, `stop` of an active timer, and
the destructors. -/
inductive Closing (T : Type) where
  | tcpSocketClose (s : TcpSocket)
  | tcpSocketDrop (s : TcpSocket)
  | tcpServerSocketClose (s : TcpServerSocket)
  | tcpServerSocketDrop (s : TcpServerSocket)
  | timerStop (t : Timer) (active : t.isActive = true)
  | timerDrop (t : Timer)
  | receiverDrop (r : Receiver) (data : SharedChannelData T)

namespace Closing

variable {T : Type}

/-- The source that is ended. -/
def source : Closing T → SourceId
  | .tcpSocketClose s => s.eventSourceInfo
  | .tcpSocketDrop s => s.eventSourceInfo
  | .tcpServerSocketClose s => s.eventSourceInfo
  | .tcpServerSocketDrop s => s.eventSourceInfo
  | .timerStop t _ => t.eventSourceInfo
  | .timerDrop t => t.eventSourceInfo
  | .receiverDrop r _ => r.eventSourceInfo

/-- The method, as far as the queue is concerned. -/
def queueAfter (q : EventQueueImpl) : Closing T → Io EventQueueImpl
  | .tcpSocketClose s => do return (← s.close q).2
  | .tcpSocketDrop s => s.drop q
  | .tcpServerSocketClose s => do return (← s.close q).2
  | .tcpServerSocketDrop s => s.drop q
  | .timerStop t _ => do return (← t.stop q).2
  | .timerDrop t => t.drop q
  | .receiverDrop r data => do
      let (data, q) ← r.drop data q
      let _ ← BlockingReceiver.drop Destructor.inert data
      return q

/-- The condition under which an ended source removes an event. -/
def condition (c : Closing T) (ev : Event) : Bool := decide (ev.sourceInfo = c.source)

/-- **An ended source removes its events and no others.** -/
theorem removes (c : Closing T) (q : EventQueueImpl) :
    (c.queueAfter q).Returns fun q' => q' = q.removePendingEvents c.condition := by
  cases c with
  | tcpSocketClose s =>
    simp only [queueAfter, TcpSocket.close, returns_bind]
    exact (returns_true _).mono fun raw _ => s.removePendingEvents_eq q
  | tcpSocketDrop s =>
    simp only [queueAfter, TcpSocket.drop, returns_bind]
    exact (returns_true _).mono fun _ _ => s.removePendingEvents_eq q
  | tcpServerSocketClose s =>
    simp only [queueAfter, TcpServerSocket.close, returns_bind]
    exact (returns_true _).mono fun raw _ =>
      TcpServerSocket.removePendingEvents_eq { s with socket := raw } q
  | tcpServerSocketDrop s =>
    simp only [queueAfter, TcpServerSocket.drop, returns_bind]
    exact (returns_true _).mono fun _ _ => s.removePendingEvents_eq q
  | timerStop t active =>
    simp only [queueAfter, Timer.stop, active, returns_bind, sys_eq, call_bind, ret_bind,
      Bool.not_true, Bool.false_eq_true, if_false, returns_call]
    intro ret
    split
    · exact returns_next fun _ => trivial
    · exact returns_next fun _ => t.removePendingEvents_eq q
  | timerDrop t =>
    simp only [queueAfter, Timer.drop]
    split
    · exact fun _ => t.removePendingEvents_eq q
    · exact t.removePendingEvents_eq q
  | receiverDrop r data =>
    simp only [queueAfter, returns_bind]
    refine (Receiver.drop_removes r data q).mono ?_
    intro r h
    obtain ⟨data', q'⟩ := r
    subst h
    exact (returns_true _).mono fun _ _ => r.removePendingEvents_eq q

end Closing

/-! ## The queue and its sources -/

/-- **The event queue is a FIFO with deletion, exactly** as long as no call
of `next_event` finds a removed event at the front; also from the queue
that the end of a source leaves behind, on which the reference has lost the
events of that source and no others. -/
theorem eventQueue_refines_iff (T : Type) (q : EventQueueImpl)
    (ops : List EventQueueImpl.QueueOp) (answers : List EventQueueImpl.Poll) :
    (q.run ops answers = EventQueueImpl.refRun q.pending ops answers ∧
        (∀ ev, .ok ev ∈ q.run ops answers → ev.isValid = true) ↔
      q.FrontsValid ops answers) ∧
    ∀ (c : Closing T) (κ : Type) (allows : κ → (e : Call) → e.Ret → κ → Prop) (k k' : κ)
      (q' : EventQueueImpl), (c.queueAfter q).Exec allows k (.returned q') k' →
      (q'.run ops answers =
          EventQueueImpl.refRun (q.pending.filter fun ev => ev.sourceInfo ≠ c.source)
            ops answers ↔
        q'.FrontsValid ops answers) := by
  refine ⟨⟨fun h => (q.run_eq_refRun_iff ops answers).mp h.1, fun h => ?_⟩,
    fun c κ allows k k' q' hx => ?_⟩
  · have heq := (q.run_eq_refRun_iff ops answers).mpr h
    exact ⟨heq, fun ev hev => q.refRun_valid ops answers ev (heq ▸ hev)⟩
  · have hq' := (c.removes q).exec hx
    have hpending : q'.pending = q.pending.filter fun ev => ev.sourceInfo ≠ c.source := by
      rw [hq', EventQueueImpl.pending_removePendingEvents]
      simp [Closing.condition]
    rw [← hpending]
    exact q'.run_eq_refRun_iff ops answers

/-- The callback of a periodic timer pushes two events. The client takes
the first, stops the timer, and is handed the second. -/
theorem eventQueue_refines_fails :
    ∃ (ops : List EventQueueImpl.QueueOp) (answers : List EventQueueImpl.Poll),
      (⟨3, []⟩ : EventQueueImpl).run ops answers =
        [.ok (Event.new .timerEvent 7), .ok ⟨.timerEvent, false, 7⟩] ∧
      EventQueueImpl.refRun [] ops answers =
        [.ok (Event.new .timerEvent 7), .ok (Event.new .timerEvent 8)] ∧
      ¬ (⟨3, []⟩ : EventQueueImpl).run ops answers = EventQueueImpl.refRun [] ops answers := by
  refine ⟨[.nextEvent, .removePendingEvents fun ev => decide (ev.sourceInfo = 7), .nextEvent],
    [.ready [(.timerEvent, 7), (.timerEvent, 7)], .ready [(.timerEvent, 8)]], rfl, rfl, ?_⟩
  intro h
  change [Except.ok (Event.new .timerEvent 7), .ok ⟨.timerEvent, false, 7⟩] =
    [.ok (Event.new .timerEvent 7), .ok (Event.new .timerEvent 8)] at h
  simp [Event.new] at h

end Revbio
