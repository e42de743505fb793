/-
Revbio.EventQueue.RefinementTheorems — `EventQueueImpl` against the FIFO
queue with deletion (`PolledFifo`) that it is meant to be.

The abstraction forgets the events that are marked as removed
(`EventQueueImpl.pending`). Pushes, removal and the poll loop of
`next_event` refine the reference. The first exit of `next_event` does
not: it hands out the front of the queue without a look at its mark. So
the results agree exactly as long as no call finds a removed event at the
front (`run_eq_refRun_iff`).
-/
import Revbio.Lib.PolledFifo
import Revbio.Linux.EventQueueImpl

namespace Revbio.EventQueueImpl

open PolledFifo (Answer Op)

/-! ## Sequences of operations -/

/-- The operations on an event queue. Events are built by the sources, all
of them valid. -/
inductive QueueOp where
  | pushBackEvent (kind : EventKind) (src : SourceId)
  | pushFrontEvent (kind : EventKind) (src : SourceId)
  | removePendingEvents (condition : Event → Bool)
  | nextEvent

/-- The results of the calls of `next_event` in a sequence of operations. -/
def run (q : EventQueueImpl) : List QueueOp → List Poll → List (IoResult Event)
  | [], _ => []
  | .pushBackEvent k src :: ops, answers => run (q.pushBackEvent (Event.new k src)) ops answers
  | .pushFrontEvent k src :: ops, answers =>
      run (q.pushFrontEvent (Event.new k src)) ops answers
  | .removePendingEvents c :: ops, answers => run (q.removePendingEvents c) ops answers
  | .nextEvent :: ops, answers =>
      match q.nextEvent answers with
      | some (result, q, answers) => result :: run q ops answers
      | none => []

/-- The first event of the queue, if there is one, has not been removed. -/
def FrontValid (q : EventQueueImpl) : Prop :=
  ∀ ev ∈ q.readyEvents.head?, ev.isValid = true

/-- Every call of `next_event` in the sequence is made with a valid event
at the front, or on an empty queue. -/
def FrontsValid (q : EventQueueImpl) : List QueueOp → List Poll → Prop
  | [], _ => True
  | .pushBackEvent k src :: ops, answers =>
      FrontsValid (q.pushBackEvent (Event.new k src)) ops answers
  | .pushFrontEvent k src :: ops, answers =>
      FrontsValid (q.pushFrontEvent (Event.new k src)) ops answers
  | .removePendingEvents c :: ops, answers => FrontsValid (q.removePendingEvents c) ops answers
  | .nextEvent :: ops, answers =>
      q.FrontValid ∧
        match q.nextEvent answers with
        | some (_, q, answers) => FrontsValid q ops answers
        | none => True

/-! ## The reference -/

/-- The reference queue: the events that have not been removed. -/
def pending (q : EventQueueImpl) : List Event := q.readyEvents.filter (·.isValid)

def QueueOp.toRef : QueueOp → Op Event
  | .pushBackEvent k src => .pushBack (Event.new k src)
  | .pushFrontEvent k src => .pushFront (Event.new k src)
  | .removePendingEvents c => .delete c
  | .nextEvent => .next

def Poll.toRef : Poll → Answer Event IoError
  | .failed err => .failed err
  | .ready pushed => .ready (pushed.map fun p => Event.new p.1 p.2)
  | .idle => .idle

/-- The results of the reference queue. -/
def refRun (evs : List Event) (ops : List QueueOp) (answers : List Poll) :
    List (IoResult Event) :=
  PolledFifo.run evs (ops.map QueueOp.toRef) (answers.map Poll.toRef)

/-! ## Pushes and removal -/

theorem pending_pushBackEvent (q : EventQueueImpl) (k : EventKind) (src : SourceId) :
    (q.pushBackEvent (Event.new k src)).pending = q.pending ++ [Event.new k src] := by
  simp [pending]

theorem pending_pushFrontEvent (q : EventQueueImpl) (k : EventKind) (src : SourceId) :
    (q.pushFrontEvent (Event.new k src)).pending = Event.new k src :: q.pending := by
  rw [pending, pushFrontEvent_readyEvents, List.filter_cons_of_pos rfl, pending]

/-- Marking is deleting: a marked event is not pending, and the condition is
the same on the events that are. -/
theorem pending_removePendingEvents (q : EventQueueImpl) (c : Event → Bool) :
    (q.removePendingEvents c).pending = q.pending.filter fun ev => !c ev := by
  simp only [pending, removePendingEvents]
  induction q.readyEvents with
  | nil => rfl
  | cons ev evs ih =>
    cases hc : c ev <;> cases hv : ev.isValid <;> simp [hc, hv, ih]

theorem pending_of_valid {q : EventQueueImpl} (h : ∀ ev ∈ q.readyEvents, ev.isValid = true) :
    q.pending = q.readyEvents :=
  List.filter_eq_self.mpr h

theorem pending_valid (q : EventQueueImpl) : ∀ ev ∈ q.pending, ev.isValid = true :=
  fun _ hev => (List.mem_filter.mp hev).2

/-! ## `next_event` -/

/-- A result of `next_event` as the reference gives it. -/
def refResult (r : IoResult Event × EventQueueImpl × List Poll) :
    IoResult Event × List Event × List (Answer Event IoError) :=
  (r.1, r.2.1.pending, r.2.2.map Poll.toRef)

/-- The poll loop, entered on an empty queue, is that of the reference: the
events a callback pushes are valid, so none is thrown away. -/
theorem nextEventLoop_refines {q : EventQueueImpl} (hq : q.readyEvents = [])
    (answers : List Poll) :
    (q.nextEventLoop answers).map refResult =
      PolledFifo.next [] (answers.map Poll.toRef) := by
  obtain ⟨fd, evs⟩ := q
  subst hq
  induction answers with
  | nil => rfl
  | cons answer answers ih =>
    cases answer with
    | failed err => rfl
    | idle => exact ih
    | ready pushed =>
      rw [nextEventLoop, pollEvents_ready]
      cases pushed with
      | nil => exact ih
      | cons p pushed =>
        have hrest : ∀ ev ∈ pushed.map fun p => Event.new p.1 p.2, ev.isValid = true := by
          simp only [List.mem_map]
          intro ev h
          obtain ⟨p', -, rfl⟩ := h
          rfl
        have hpending : pending ⟨fd, pushed.map fun p => Event.new p.1 p.2⟩ =
            pushed.map fun p => Event.new p.1 p.2 := pending_of_valid hrest
        simp only [List.nil_append, List.map_cons, Event.new_isValid, if_true, Option.map_some,
          refResult, hpending, Poll.toRef, PolledFifo.next]

/-- With a valid event at the front, or none, `next_event` is that of the
reference. -/
theorem nextEvent_refines {q : EventQueueImpl} (h : q.FrontValid) (answers : List Poll) :
    (q.nextEvent answers).map refResult =
      PolledFifo.next q.pending (answers.map Poll.toRef) := by
  cases hq : q.readyEvents with
  | nil =>
    have hempty : q.pending = [] := by rw [pending, hq, List.filter_nil]
    rw [nextEvent, hq, hempty]
    exact nextEventLoop_refines hq answers
  | cons first rest =>
    have hfirst : first.isValid = true := h first (by simp [hq])
    have hpending : q.pending = first :: rest.filter (·.isValid) := by
      rw [pending, hq, List.filter_cons_of_pos hfirst]
    rw [nextEvent, hq, hpending, PolledFifo.next]
    rfl

/-- Otherwise it returns the removed event. -/
theorem nextEvent_invalid {q : EventQueueImpl} (h : ¬ q.FrontValid) (answers : List Poll) :
    ∃ first q', first.isValid = false ∧ q.nextEvent answers = some (.ok first, q', answers) := by
  cases hq : q.readyEvents with
  | nil => exact absurd (by simp [FrontValid, hq]) h
  | cons first rest =>
    refine ⟨first, { q with readyEvents := rest }, ?_, by rw [nextEvent, hq]⟩
    simpa [FrontValid, hq] using h

/-! ## The refinement -/

/-- The reference never returns an event that has been removed. -/
theorem refRun_valid (q : EventQueueImpl) (ops : List QueueOp) (answers : List Poll) :
    ∀ ev, .ok ev ∈ refRun q.pending ops answers → ev.isValid = true := by
  refine PolledFifo.run_all q.pending_valid ?_ ?_
  · simp only [PolledFifo.Pushes, List.mem_map]
    intro _ h ev hev
    obtain ⟨op, -, rfl⟩ := h
    cases op <;> simp_all [QueueOp.toRef]
    all_goals subst hev; rfl
  · simp only [PolledFifo.Answers, List.mem_map]
    intro _ h items hitems ev hev
    obtain ⟨answer, -, rfl⟩ := h
    cases answer with
    | ready pushed =>
      cases hitems
      obtain ⟨p, -, rfl⟩ := List.mem_map.mp hev
      rfl
    | failed err => cases hitems
    | idle => cases hitems

/-- The results are those of the reference exactly as long as no call finds
a removed event at the front. -/
theorem run_eq_refRun_iff (q : EventQueueImpl) (ops : List QueueOp) (answers : List Poll) :
    q.run ops answers = refRun q.pending ops answers ↔ q.FrontsValid ops answers := by
  induction ops generalizing q answers with
  | nil => exact iff_of_true rfl trivial
  | cons op ops ih =>
    cases op with
    | pushBackEvent k src =>
      have := ih (q.pushBackEvent (Event.new k src)) answers
      rwa [pending_pushBackEvent] at this
    | pushFrontEvent k src =>
      have := ih (q.pushFrontEvent (Event.new k src)) answers
      rwa [pending_pushFrontEvent] at this
    | removePendingEvents c =>
      have := ih (q.removePendingEvents c) answers
      rwa [pending_removePendingEvents] at this
    | nextEvent =>
      by_cases hfront : q.FrontValid
      · have hnext := nextEvent_refines hfront answers
        cases hres : q.nextEvent answers with
        | none =>
          rw [hres, Option.map_none] at hnext
          simp [run, refRun, PolledFifo.run, QueueOp.toRef, FrontsValid, hres, ← hnext, hfront]
        | some r =>
          obtain ⟨result, q', answers'⟩ := r
          rw [hres, Option.map_some] at hnext
          have hih := ih q' answers'
          simp only [refRun] at hih
          simp [run, refRun, PolledFifo.run, QueueOp.toRef, FrontsValid, hres, ← hnext, hfront,
            refResult, hih]
      · refine iff_of_false (fun heq => ?_) fun h => hfront h.1
        obtain ⟨first, q', hinv, hres⟩ := nextEvent_invalid hfront answers
        have hmem : .ok first ∈ q.run (.nextEvent :: ops) answers := by
          simp [run, hres]
        rw [heq] at hmem
        simp [refRun_valid q _ answers first hmem] at hinv

end Revbio.EventQueueImpl
