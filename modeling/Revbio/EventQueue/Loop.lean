/-
Revbio.EventQueue.Loop — `next_event` in small steps.

Between `epoll_wait` and the end of `next_event` run the callbacks of the
sources, and other tasks run at any time. So a system built around an event
queue needs to know how far a call of `next_event` has come (`Phase`).
`LoopStep` is what the call does by itself; `epoll_wait` and the callback
it makes are steps of the system. `nextEvent_iff` ties the steps to the
function.

A callback finds the queue empty and pushes valid events only, so the
first event after it is valid and ends the loop (`LoopInv`). The second
round that the loop may take after a poll, with events left in the queue,
never happens.
-/
import Revbio.Linux.EventQueueImpl

namespace Revbio.EventLoop

open EventQueueImpl (Poll)

/-- Where a task is. -/
inductive Phase where
  /-- outside `next_event` -/
  | idle
  /-- about to enter `epoll_wait`, or in it -/
  | polling
  /-- in the callback behind `source`, in a part of it that comes later -/
  | calling (source : Ptr)
  /-- back from `poll_events` -/
  | checking
  deriving DecidableEq, Repr

/-- What a step of `next_event` shows. -/
inductive LoopLabel where
  | returns (result : IoResult Event)
  | goesOn

/-- The steps of `next_event` itself. -/
inductive LoopStep : Phase → EventQueueImpl → LoopLabel → Phase → EventQueueImpl → Prop where
  /-- an event is ready: it is handed out unseen -/
  | ready {q : EventQueueImpl} {first : Event} {rest : List Event} :
      q.readyEvents = first :: rest →
      LoopStep .idle q (.returns (.ok first)) .idle { q with readyEvents := rest }
  | mustPoll {q : EventQueueImpl} : q.readyEvents = [] →
      LoopStep .idle q .goesOn .polling q
  /-- `epoll_wait` fails -/
  | pollFailed {q : EventQueueImpl} {err : IoError} :
      LoopStep .polling q (.returns (.error err)) .idle q
  /-- `epoll_wait` reports nothing -/
  | pollIdle {q : EventQueueImpl} : LoopStep .polling q .goesOn .checking q
  | found {q : EventQueueImpl} {first : Event} {rest : List Event} :
      q.readyEvents = first :: rest → first.isValid = true →
      LoopStep .checking q (.returns (.ok first)) .idle { q with readyEvents := rest }
  | invalid {q : EventQueueImpl} {first : Event} {rest : List Event} :
      q.readyEvents = first :: rest → first.isValid = false →
      LoopStep .checking q .goesOn .polling { q with readyEvents := rest }
  | nothing {q : EventQueueImpl} : q.readyEvents = [] →
      LoopStep .checking q .goesOn .polling q

/-! ## The steps make up the function -/

/-- From `q` in `phase`, `next_event` returns `result` and leaves `q'`,
after polls with the given answers. -/
inductive Returns : Phase → EventQueueImpl → List Poll → IoResult Event → EventQueueImpl →
    Prop where
  | last {phase phase' : Phase} {q q' : EventQueueImpl} {result : IoResult Event} :
      LoopStep phase q (.returns result) phase' q' → phase ≠ .polling →
      Returns phase q [] result q'
  | goOn {phase phase' : Phase} {q q' q'' : EventQueueImpl} {answers : List Poll}
      {result : IoResult Event} :
      LoopStep phase q .goesOn phase' q' → phase ≠ .polling →
      Returns phase' q' answers result q'' → Returns phase q answers result q''
  | pollFailed {q q' : EventQueueImpl} {err : IoError} :
      LoopStep .polling q (.returns (.error err)) .idle q' →
      Returns .polling q [.failed err] (.error err) q'
  | pollIdle {q q' q'' : EventQueueImpl} {answers : List Poll} {result : IoResult Event} :
      LoopStep .polling q .goesOn .checking q' → Returns .checking q' answers result q'' →
      Returns .polling q (.idle :: answers) result q''
  /-- the callback of one descriptor -/
  | callback {q q'' : EventQueueImpl} {pushed : List (EventKind × SourceId)}
      {answers : List Poll} {result : IoResult Event} :
      Returns .checking (q.pollEvents (.ready pushed)).2 answers result q'' →
      Returns .polling q (.ready pushed :: answers) result q''

/-- The answers of `epoll_wait` that a call uses up on its way. -/
def Uses (phase : Phase) (q : EventQueueImpl) (answers : List Poll)
    (x : IoResult Event × EventQueueImpl × List Poll) : Prop :=
  ∃ used, answers = used ++ x.2.2 ∧ Returns phase q used x.1 x.2.1

theorem uses_found {q : EventQueueImpl} {first : Event} {rest : List Event}
    {answers : List Poll} {x : IoResult Event × EventQueueImpl × List Poll}
    (hq : q.readyEvents = first :: rest) (hvalid : first.isValid = true) :
    Uses .checking q answers x ↔ x = (.ok first, { q with readyEvents := rest }, answers) := by
  obtain ⟨result, q', left⟩ := x
  constructor
  · intro h
    obtain ⟨used, rfl, hreturns⟩ := h
    cases hreturns with
    | last hstep _ =>
      cases hstep with
      | found hq' _ =>
        cases hq.symm.trans hq'
        rfl
    | goOn hstep _ _ =>
      cases hstep with
      | invalid hq' hinvalid =>
        cases hq.symm.trans hq'
        simp [hvalid] at hinvalid
      | nothing hq' => cases hq.symm.trans hq'
  · intro h
    cases h
    exact ⟨[], rfl, .last (.found hq hvalid) nofun⟩

theorem uses_invalid {q : EventQueueImpl} {first : Event} {rest : List Event}
    {answers : List Poll} {x : IoResult Event × EventQueueImpl × List Poll}
    (hq : q.readyEvents = first :: rest) (hinvalid : first.isValid = false) :
    Uses .checking q answers x ↔ Uses .polling { q with readyEvents := rest } answers x := by
  obtain ⟨result, q', left⟩ := x
  constructor
  · intro h
    obtain ⟨used, hused, hreturns⟩ := h
    cases hreturns with
    | last hstep _ =>
      cases hstep with
      | found hq' hvalid =>
        cases hq.symm.trans hq'
        simp [hinvalid] at hvalid
    | goOn hstep _ hrest =>
      cases hstep with
      | invalid hq' _ =>
        cases hq.symm.trans hq'
        exact ⟨used, hused, hrest⟩
      | nothing hq' => cases hq.symm.trans hq'
  · intro h
    obtain ⟨used, hused, hreturns⟩ := h
    exact ⟨used, hused, .goOn (.invalid hq hinvalid) nofun hreturns⟩

theorem uses_nothing {q : EventQueueImpl} {answers : List Poll}
    {x : IoResult Event × EventQueueImpl × List Poll} (hq : q.readyEvents = []) :
    Uses .checking q answers x ↔ Uses .polling q answers x := by
  obtain ⟨result, q', left⟩ := x
  constructor
  · intro h
    obtain ⟨used, hused, hreturns⟩ := h
    cases hreturns with
    | last hstep _ =>
      cases hstep with
      | found hq' _ => cases hq.symm.trans hq'
    | goOn hstep _ hrest =>
      cases hstep with
      | invalid hq' _ => cases hq.symm.trans hq'
      | nothing _ => exact ⟨used, hused, hrest⟩
  · intro h
    obtain ⟨used, hused, hreturns⟩ := h
    exact ⟨used, hused, .goOn (.nothing hq) nofun hreturns⟩

/-- Without an answer a poll does not end. -/
theorem not_uses_nil {q : EventQueueImpl} {x : IoResult Event × EventQueueImpl × List Poll} :
    ¬ Uses .polling q [] x := by
  intro h
  obtain ⟨used, hused, hreturns⟩ := h
  obtain rfl : used = [] := (List.append_eq_nil_iff.mp hused.symm).1
  cases hreturns with
  | last _ hne => exact absurd rfl hne
  | goOn _ hne _ => exact absurd rfl hne

theorem uses_cons {q : EventQueueImpl} {answer : Poll} {answers : List Poll}
    {x : IoResult Event × EventQueueImpl × List Poll} :
    Uses .polling q (answer :: answers) x ↔
      match answer with
      | .failed err => x = (.error err, q, answers)
      | .ready pushed => Uses .checking (q.pollEvents (.ready pushed)).2 answers x
      | .idle => Uses .checking q answers x := by
  obtain ⟨result, q', left⟩ := x
  constructor
  · intro h
    obtain ⟨used, hused, hreturns⟩ := h
    cases hreturns with
    | last _ hne => exact absurd rfl hne
    | goOn _ hne _ => exact absurd rfl hne
    | pollFailed hstep =>
      cases hstep
      cases hused
      rfl
    | pollIdle hstep hrest =>
      cases hstep
      cases hused
      exact ⟨_, rfl, hrest⟩
    | callback hrest =>
      cases hused
      exact ⟨_, rfl, hrest⟩
  · intro h
    cases answer with
    | failed err =>
      cases h
      exact ⟨[.failed err], rfl, .pollFailed .pollFailed⟩
    | ready pushed =>
      obtain ⟨used, rfl, hreturns⟩ := h
      exact ⟨.ready pushed :: used, rfl, .callback hreturns⟩
    | idle =>
      obtain ⟨used, rfl, hreturns⟩ := h
      exact ⟨.idle :: used, rfl, .pollIdle .pollIdle hreturns⟩

/-- The loop after `poll_events`. -/
def afterPoll (q : EventQueueImpl) (answers : List Poll) :
    Option (IoResult Event × EventQueueImpl × List Poll) :=
  match q.readyEvents with
  | first :: rest =>
      if first.isValid then some (.ok first, { q with readyEvents := rest }, answers)
      else EventQueueImpl.nextEventLoop { q with readyEvents := rest } answers
  | [] => q.nextEventLoop answers

theorem nextEventLoop_cons (q : EventQueueImpl) (answer : Poll) (answers : List Poll) :
    q.nextEventLoop (answer :: answers) =
      match answer with
      | .failed err => some (.error err, q, answers)
      | .ready pushed => afterPoll (q.pollEvents (.ready pushed)).2 answers
      | .idle => afterPoll q answers := by
  cases answer <;> rfl

theorem afterPoll_iff {q : EventQueueImpl} {answers : List Poll}
    {x : IoResult Event × EventQueueImpl × List Poll}
    (ih : ∀ q, EventQueueImpl.nextEventLoop q answers = some x ↔ Uses .polling q answers x) :
    afterPoll q answers = some x ↔ Uses .checking q answers x := by
  unfold afterPoll
  split
  case h_1 first rest hq =>
    cases hvalid : first.isValid with
    | true =>
      rw [if_pos rfl, uses_found hq hvalid, Option.some_inj]
      exact eq_comm
    | false =>
      rw [if_neg Bool.false_ne_true, uses_invalid hq hvalid]
      exact ih _
  case h_2 hq =>
    rw [uses_nothing hq]
    exact ih q

theorem nextEventLoop_iff (q : EventQueueImpl) (answers : List Poll)
    (x : IoResult Event × EventQueueImpl × List Poll) :
    q.nextEventLoop answers = some x ↔ Uses .polling q answers x := by
  induction answers generalizing q with
  | nil =>
    constructor
    · intro h
      cases h
    · intro h
      exact absurd h not_uses_nil
  | cons answer answers ih =>
    rw [nextEventLoop_cons, uses_cons]
    cases answer with
    | failed err =>
      rw [Option.some_inj]
      exact eq_comm
    | ready pushed => exact afterPoll_iff ih
    | idle => exact afterPoll_iff ih

/-- The steps make up the function: they return what it returns. -/
theorem nextEvent_iff (q : EventQueueImpl) (answers : List Poll)
    (x : IoResult Event × EventQueueImpl × List Poll) :
    q.nextEvent answers = some x ↔ Uses .idle q answers x := by
  unfold EventQueueImpl.nextEvent
  split
  case h_1 first rest hq =>
    constructor
    · intro h
      cases h
      exact ⟨[], rfl, .last (.ready hq) nofun⟩
    · obtain ⟨result, q', left⟩ := x
      intro h
      obtain ⟨used, hused, hreturns⟩ := h
      cases hreturns with
      | last hstep _ =>
        cases hstep with
        | ready hq' =>
          cases hq.symm.trans hq'
          exact congrArg (fun l => some (_, _, l)) hused
      | goOn hstep _ _ =>
        cases hstep with
        | mustPoll hq' => cases hq.symm.trans hq'
  case h_2 hq =>
    rw [nextEventLoop_iff]
    constructor
    · intro h
      obtain ⟨used, hused, hreturns⟩ := h
      exact ⟨used, hused, .goOn (.mustPoll hq) nofun hreturns⟩
    · obtain ⟨result, q', left⟩ := x
      intro h
      obtain ⟨used, hused, hreturns⟩ := h
      cases hreturns with
      | last hstep _ =>
        cases hstep with
        | ready hq' => cases hq.symm.trans hq'
      | goOn hstep _ hrest =>
        cases hstep with
        | mustPoll _ => exact ⟨used, hused, hrest⟩

/-! ## Polls find the queue empty -/

/-- `next_event` itself only takes events from the front. -/
theorem LoopStep.suffix {phase phase' : Phase} {q q' : EventQueueImpl} {l : LoopLabel}
    (h : LoopStep phase q l phase' q') : q'.readyEvents <:+ q.readyEvents := by
  cases h with
  | ready hq => exact hq ▸ List.suffix_cons _ _
  | mustPoll => exact List.suffix_rfl
  | pollFailed => exact List.suffix_rfl
  | pollIdle => exact List.suffix_rfl
  | found hq => exact hq ▸ List.suffix_cons _ _
  | invalid hq => exact hq ▸ List.suffix_cons _ _
  | nothing => exact List.suffix_rfl

theorem LoopStep.fd {phase phase' : Phase} {q q' : EventQueueImpl} {l : LoopLabel}
    (h : LoopStep phase q l phase' q') : q'.fd = q.fd := by
  cases h <;> rfl

/-- What holds of the queue while `next_event` runs. -/
def LoopInv : Phase → EventQueueImpl → Prop
  | .idle, _ => True
  | .polling, q => q.readyEvents = []
  | .calling _, q => q.readyEvents = []
  | .checking, q => ∀ ev ∈ q.readyEvents, ev.isValid = true

theorem LoopInv.step {phase phase' : Phase} {q q' : EventQueueImpl} {l : LoopLabel}
    (h : LoopInv phase q) (hstep : LoopStep phase q l phase' q') : LoopInv phase' q' := by
  cases hstep with
  | ready => trivial
  | mustPoll hq => exact hq
  | pollFailed => trivial
  | pollIdle =>
    have hq : _ = [] := h
    simp [LoopInv, hq]
  | found => trivial
  | invalid hq hinvalid =>
    have hfirst := h _ (hq ▸ List.mem_cons_self)
    simp [hinvalid] at hfirst
  | nothing hq => exact hq

/-- A callback that pushes freshly built events. -/
theorem LoopInv.pushed {q : EventQueueImpl} (h : LoopInv .polling q) (src : SourceId)
    (kinds : List EventKind) : LoopInv .checking (q.pushAll src kinds) :=
  EventQueueImpl.pushAll_valid h src kinds

end Revbio.EventLoop
