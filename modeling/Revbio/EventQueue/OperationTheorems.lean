/-
Revbio.EventQueue.OperationTheorems — what the operations outside
`next_event` do to the queue.

They mark events, and two of them push one: `connect` that succeeds at once
and `from_blocking_receiver` of a channel that is dead already. Neither
event announces data (`Extends`).
-/
import Revbio.EventQueue.SourceTheorems
import Revbio.EventQueue.System

namespace Revbio.EventLoop

open CallTree Prog Epoll

variable {T : Type} {ws : WordSize} {host : Endian} {q q' : EventQueueImpl}

/-! ## The order of events -/

/-- DataAvailableEvent. -/
def isData : EventKind → Bool
  | .dataAvailableEvent _ => true
  | _ => false

/-- An event, marked or not. -/
def key (ev : Event) : EventKind × SourceId := (ev.eventType, ev.sourceInfo)

def keys (q : EventQueueImpl) : List (EventKind × SourceId) := q.readyEvents.map key

/-- `q'` is `q`, possibly with some events marked, with events appended that
announce no data. -/
def Extends (q q' : EventQueueImpl) : Prop :=
  ∃ new, keys q' = keys q ++ new ∧ ∀ k ∈ new, isData k.1 = false

theorem Extends.refl (q : EventQueueImpl) : Extends q q := ⟨[], by simp, by simp⟩

theorem Extends.push {k : EventKind} (src : SourceId) (hk : isData k = false) :
    Extends q (q.pushBackEvent (Event.new k src)) := by
  refine ⟨[(k, src)], by simp [keys, key], ?_⟩
  intro k' hk'
  rw [List.mem_singleton.mp hk']
  exact hk

/-- Marking keeps the order. -/
theorem keys_remove (q : EventQueueImpl) (c : Event → Bool) :
    keys (q.removePendingEvents c) = keys q := by
  simp only [keys, EventQueueImpl.removePendingEvents, List.map_map]
  refine List.map_congr_left ?_
  intro ev _
  by_cases h : c ev <;> simp [key, h]

theorem Extends.remove (c : Event → Bool) : Extends q (q.removePendingEvents c) :=
  ⟨[], by simp [keys_remove], by simp⟩

/-! ## Operations of the sources -/

theorem closing_extends (c : Closing T) (q : EventQueueImpl) :
    (c.queueAfter q).Returns (Extends q) := by
  refine (c.removes q).mono ?_
  intro q' hq'
  rw [hq']
  exact .remove c.condition

theorem tcp_connect_extends (this : Ptr) (info : SourceId) (addr : SocketAddr) :
    (TcpSocket.connect host this info addr q).Returns fun r => Extends q r.2 := by
  refine returns_next ?_
  rintro (err | fd)
  · exact .refl q
  · refine returns_next fun r => ?_
    show Prog.Returns _ (if _ then _ else _)
    split
    · refine returns_next fun errno => ?_
      split
      · exact returns_next fun _ => returns_next fun _ => returns_next fun _ => .refl q
      · exact returns_next fun _ => .refl q
    · refine returns_next fun raw => returns_next fun ret => ?_
      exact .push ret.eventSourceInfo rfl

theorem fromBlockingReceiver_extends (this : Ptr) (info : SourceId)
    (d : SharedChannelData T) :
    (Receiver.fromBlockingReceiver this info d q).Returns fun r => Extends q r.2.2 := by
  refine returns_next fun _ => ?_
  split
  · refine returns_next fun fd => ?_
    show Prog.Returns _ (if _ then _ else _)
    split
    · exact returns_next fun _ => returns_next fun _ => trivial
    · refine returns_next fun _ => ?_
      split
      · refine returns_next fun ret => ?_
        show Prog.Returns _ (if _ then _ else _)
        split
        · exact returns_next fun _ => returns_next fun _ => trivial
        · exact returns_next fun _ => .refl q
      · exact returns_next fun _ => .refl q
  · exact returns_next fun _ => .push info rfl

theorem tcp_write_extends (s : TcpSocket) (len : Nat) :
    (s.write ws len q).Returns fun r => Extends q r.2.2 := by
  refine returns_next ?_
  intro ⟨result, raw⟩
  simp only
  split
  · exact .remove _
  · exact .refl q

theorem tcp_read_extends (s : TcpSocket) (len : Nat) :
    (s.read ws len q).Returns fun r => Extends q r.2.2 := by
  unfold TcpSocket.read
  simp only
  split
  · exact .refl q
  · refine returns_next ?_
    intro ⟨result, raw⟩
    simp only
    split
    · exact .refl q
    · split
      · exact .remove _
      · exact .refl q

theorem server_accept_extends (s : TcpServerSocket) :
    (s.accept q).Returns fun r => Extends q r.2.2 := by
  unfold TcpServerSocket.accept
  simp only
  split
  · exact .refl q
  · refine returns_next ?_
    intro ⟨result, raw⟩
    simp only
    split
    · exact .refl q
    · split
      · exact .remove _
      · exact .refl q

theorem timer_stop_extends (t : Timer) : (t.stop q).Returns fun r => Extends q r.2 := by
  unfold Timer.stop
  split
  · exact .refl q
  · refine returns_next fun ret => ?_
    show Prog.Returns _ (if _ then _ else _)
    split
    · exact returns_next fun _ => trivial
    · exact returns_next fun _ => .remove _

/-! ## Steps -/

theorem creation_extends (this : Ptr) (info : SourceId) (c : Creation) :
    (c.run host this info q).Returns fun r : Option (Object T) × EventQueueImpl =>
      Extends q r.2 := by
  cases c with
  | tcpSocket addr =>
    refine (returns_bind _ _ _).mpr ((tcp_connect_extends this info addr).mono ?_)
    intro r hr
    exact hr
  | channel => exact .refl q
  | _ => exact returns_next fun _ => .refl q

theorem convert_extends {o : Object T} {this : Ptr} {info : SourceId}
    {p : Io (Object T × EventQueueImpl)} (h : o.convert this info q = some p) :
    p.Returns fun r => Extends q r.2 := by
  cases o with
  | rawTcp s =>
    cases h
    exact returns_next fun _ => .refl q
  | rawServer s =>
    cases h
    exact returns_next fun _ => .refl q
  | channel d =>
    cases h
    refine (returns_bind _ _ _).mpr ((fromBlockingReceiver_extends this info d).mono ?_)
    intro r hr
    exact hr
  | _ => cases h

/-- Only the callback of a Receiver changes the queue. -/
theorem receiverMethod_queue {r : Receiver} {d : SharedChannelData T} {m : Epoll.Method T}
    {p : Io (Object T × EventQueueImpl)} (h : receiverMethod ws r d q m = some p)
    (hm : m ≠ .announce) : p.Returns fun r => r.2 = q := by
  unfold receiverMethod at h
  split at h
  · cases h
    exact returns_next fun _ => rfl
  · cases h
    exact returns_next fun _ => rfl
  · exact absurd rfl hm
  · obtain ⟨p', -, rfl⟩ := Option.map_eq_some_iff.mp h
    exact returns_next fun _ => rfl

/-- What is no source has no queue to change. -/
theorem unboxed_method_queue {o : Object T} {m : Epoll.Method T}
    {p : Io (Object T × EventQueueImpl)} (ho : o.processFunc = none)
    (h : o.method ws q m = some p) : p.Returns fun r => r.2 = q := by
  cases o with
  | channel d =>
    obtain ⟨p', -, rfl⟩ := Option.map_eq_some_iff.mp h
    exact returns_next fun _ => rfl
  | rawTcp s =>
    cases m with
    | close =>
      cases h
      exact returns_next fun _ => rfl
    | write len =>
      cases h
      exact returns_next fun _ => rfl
    | read len =>
      cases h
      exact returns_next fun _ => rfl
    | _ => cases h
  | rawServer s =>
    cases m with
    | close =>
      cases h
      exact returns_next fun _ => rfl
    | _ => cases h
  | _ => cases ho

theorem method_extends {o : Object T} {m : Epoll.Method T}
    {p : Io (Object T × EventQueueImpl)} (h : o.method ws q m = some p) (hm : m ≠ .announce) :
    p.Returns fun r => Extends q r.2 := by
  have hsame : (p.Returns fun r => r.2 = q) → p.Returns fun r => Extends q r.2 := by
    intro hq
    exact hq.mono fun r hr => hr ▸ .refl q
  cases o with
  | channel d => exact hsame (unboxed_method_queue rfl h)
  | rawTcp s => exact hsame (unboxed_method_queue rfl h)
  | rawServer s => exact hsame (unboxed_method_queue rfl h)
  | receiver r d => exact hsame (receiverMethod_queue h hm)
  | tcp s =>
    cases m with
    | close =>
      cases h
      refine (returns_bind _ _ _).mpr ?_
      exact returns_next fun _ => .remove _
    | write len =>
      cases h
      exact (returns_bind _ _ _).mpr (tcp_write_extends s len)
    | read len =>
      cases h
      exact (returns_bind _ _ _).mpr (tcp_read_extends s len)
    | _ => cases h
  | server s =>
    cases m with
    | close =>
      cases h
      refine (returns_bind _ _ _).mpr ?_
      exact returns_next fun _ => .remove _
    | _ => cases h
  | timer t =>
    cases m with
    | setInterval n => 
      cases h
      exact .refl q
    | setSingleshot b =>
      cases h
      exact .refl q
    | start =>
      cases h
      exact returns_next fun _ => .refl q
    | stop =>
      cases h
      exact (returns_bind _ _ _).mpr (timer_stop_extends t)
    | _ => cases h

theorem accept_extends {o : Object T} {p : Io (Option (Object T) × Object T × EventQueueImpl)}
    (h : o.accept q = some p) : p.Returns fun r => Extends q r.2.2 := by
  cases o with
  | rawServer s =>
    cases h
    exact returns_next fun _ => .refl q
  | server s =>
    cases h
    exact (returns_bind _ _ _).mpr (server_accept_extends s)
  | _ => cases h

theorem drop_extends (o : Object T) : (o.drop q).Returns (Extends q) := by
  cases o with
  | rawTcp s => exact returns_next fun _ => .refl q
  | rawServer s => exact returns_next fun _ => .refl q
  | channel d => exact returns_next fun _ => .refl q
  | tcp s => exact closing_extends (T := T) (.tcpSocketDrop s) q
  | server s => exact closing_extends (T := T) (.tcpServerSocketDrop s) q
  | timer t => exact closing_extends (T := T) (.timerDrop t) q
  | receiver r d => exact closing_extends (.receiverDrop r d) q

/-- **Operations outside `next_event`** push no data events. -/
theorem operation_extends {s s' : Epoll.System T} {l : Epoll.Label T} (hl : Operation l)
    (h : Epoll.Step ws host s l s') : Extends s.queue s'.queue := by
  cases h with
  | create _ hx => exact (creation_extends _ _ _).exec hx
  | convert _ _ hp hx => exact (convert_extends hp).exec hx
  | method _ hp hx => exact (method_extends hp hl).exec hx
  | accept _ _ hp hx => exact (accept_extends hp).exec hx
  | drop _ hx => exact (drop_extends _).exec hx
  | poll _ _ _ _ => exact hl.elim
  | client => exact hl.elim
  | foreignOpen _ => exact hl.elim
  | foreignClose _ _ => exact hl.elim

/-- What needs no queue leaves it alone, in any hands. -/
theorem unboxed_accept_queue {o : Object T}
    {p : Io (Option (Object T) × Object T × EventQueueImpl)} (ho : o.processFunc = none)
    (h : o.accept q = some p) : p.Returns fun r => r.2.2 = q := by
  cases o with
  | rawServer s =>
    cases h
    exact returns_next fun _ => rfl
  | server s => cases ho
  | _ => cases h

theorem unboxed_drop_queue {o : Object T} (ho : o.processFunc = none) :
    (o.drop q).Returns fun q' => q' = q := by
  cases o with
  | rawTcp s => exact returns_next fun _ => rfl
  | rawServer s => exact returns_next fun _ => rfl
  | channel d => exact returns_next fun _ => rfl
  | _ => cases ho

theorem sender_method_queue {o : Object T} {m : Epoll.Method T}
    {p : Io (Object T × EventQueueImpl)} (hm : BySender m) (h : o.method ws q m = some p) :
    p.Returns fun r => r.2 = q := by
  cases o with
  | channel d => exact unboxed_method_queue rfl h
  | receiver r d =>
    refine receiverMethod_queue h ?_
    intro hannounce
    rw [hannounce] at hm
    exact hm
  | _ =>
    cases m with
    | trySend t => cases h
    | cloneTransmitter => cases h
    | dropTransmitter => cases h
    | _ => exact hm.elim

theorem unboxed_creation_queue (this : Ptr) (info : SourceId) {c : Creation}
    {s : Epoll.System T} (hc : Elsewhere s (.create this c)) :
    (c.run host this info q).Returns fun r : Option (Object T) × EventQueueImpl =>
      r.2 = q := by
  cases c with
  | rawTcpSocket addr => exact returns_next fun _ => rfl
  | rawTcpServerSocket addr backlog => exact returns_next fun _ => rfl
  | channel => exact rfl
  | _ => exact hc.elim

/-- **What happens elsewhere** leaves the queue alone. -/
theorem elsewhere_queue {s s' : Epoll.System T} {l : Epoll.Label T} (hl : Elsewhere s l)
    (h : Epoll.Step ws host s l s') : s'.queue = s.queue := by
  have hunboxed : ∀ {i o}, Unboxed s i → s.objects i = some o → o.processFunc = none := by
    intro i o hi ho
    obtain ⟨o', ho', hnone⟩ := hi
    cases ho.symm.trans ho'
    exact hnone
  cases h with
  | create _ hx => exact (unboxed_creation_queue _ _ hl).exec hx
  | convert _ _ _ _ => exact hl.elim
  | method ho hp hx =>
    rcases hl with hi | hm
    · exact (unboxed_method_queue (hunboxed hi ho) hp).exec hx
    · exact (sender_method_queue hm hp).exec hx
  | accept ho _ hp hx => exact (unboxed_accept_queue (hunboxed hl ho) hp).exec hx
  | drop ho hx => exact (unboxed_drop_queue (hunboxed hl ho)).exec hx
  | poll _ _ _ _ => exact hl.elim
  | client => exact hl.elim
  | foreignOpen _ => rfl
  | foreignClose _ _ => rfl

end Revbio.EventLoop
