/-
Revbio.EventQueue.DryTheorems — the event loop polls only when it has
nothing queued.

`next_event` polls with an empty queue, and what a callback pushes is
valid, so the first event after a poll is returned. The second round that
the loop could take with events left in the queue would need a callback
that finds events, or pushes a removed one (`DryInv`).
-/
import Revbio.EventQueue.OperationTheorems

namespace Revbio.EventLoop

open CallTree Prog Epoll Transition

variable {T : Type} {ws : WordSize} {host : Endian}

/-! ## Callbacks -/

/-- A callback pushes events of one source, at most one of them a
DataAvailableEvent. -/
def Announces (q q' : EventQueueImpl) : Prop :=
  ∃ src kinds, q' = q.pushAll src kinds ∧ kinds.countP isData ≤ 1

theorem announces_one {src : SourceId} {q q' : EventQueueImpl} (h : PushedOne src q q') :
    Announces q q' := by
  rcases h with rfl | ⟨k, rfl⟩
  · exact ⟨src, [], (q'.pushAll_nil src).symm, by simp⟩
  · exact ⟨src, [k], rfl, List.countP_le_length⟩

theorem announces_replicate {q : EventQueueImpl} (src : SourceId) (n : Nat) {k : EventKind}
    (hk : isData k = false) : Announces q (q.pushAll src (List.replicate n k)) :=
  ⟨src, _, rfl, by simp [List.countP_replicate, hk]⟩

theorem callback_announces {o : Object T} {q : EventQueueImpl} {mask : UInt32}
    {p : Io (Object T × EventQueueImpl)} (ho : ∀ r d, o ≠ .receiver r d)
    (h : o.processEpollEvents ws q mask = some p) : p.Returns fun r => Announces q r.2 := by
  cases o with
  | tcp s =>
    cases h
    refine (returns_bind _ _ _).mpr ((tcpSocket_pushes s q mask).mono ?_)
    intro r hr
    exact announces_one hr
  | server s =>
    cases h
    refine (returns_bind _ _ _).mpr ((tcpServerSocket_pushes s q mask).mono ?_)
    intro r hr
    exact announces_one hr
  | timer t =>
    cases h
    refine (returns_bind _ _ _).mpr ((timer_pushes t q mask).mono ?_)
    intro r hr
    obtain ⟨n, hn⟩ := hr
    show Announces q r.2
    rw [hn]
    exact announces_replicate t.eventSourceInfo n rfl
  | receiver r d => exact absurd rfl (ho r d)
  | _ => cases h

theorem announce_announces (r : Receiver) (d : SharedChannelData T) (q : EventQueueImpl) :
    (r.announce ws d q).Returns fun x => Announces q x.2.2 := by
  refine (receiver_pushes r d q).mono ?_
  intro x hx
  obtain ⟨n, hn⟩ := hx
  refine ⟨r.eventSourceInfo, _, hn, ?_⟩
  rw [List.countP_append, List.countP_replicate, if_neg (by decide)]
  split
  · decide
  · decide

/-! ## The invariant -/

/-- The DataAvailableEvents in a queue. -/
def dataEvents (q : EventQueueImpl) : Nat := (keys q).countP fun k => isData k.1

theorem Extends.dataEvents {q q' : EventQueueImpl} (h : Extends q q') :
    dataEvents q' = dataEvents q := by
  obtain ⟨new, hkeys, hnew⟩ := h
  have hnone : new.countP (fun k => isData k.1) = 0 := by
    rw [List.countP_eq_zero]
    intro k hk
    simp [hnew k hk]
  simp only [EventLoop.dataEvents, hkeys, List.countP_append, hnone, Nat.add_zero]

theorem Announces.dataEvents {q q' : EventQueueImpl} (h : Announces q q')
    (hq : q.readyEvents = []) : dataEvents q' ≤ 1 := by
  obtain ⟨src, kinds, rfl, hkinds⟩ := h
  have hkeys : keys (q.pushAll src kinds) = kinds.map fun k => (k, src) := by
    simp [keys, key, hq, Function.comp_def]
  rw [EventLoop.dataEvents, hkeys, List.countP_map]
  exact hkinds

theorem Announces.loopInv {q q' : EventQueueImpl} (h : Announces q q')
    (hq : q.readyEvents = []) : LoopInv .checking q' := by
  obtain ⟨src, kinds, rfl, -⟩ := h
  exact LoopInv.pushed hq src kinds

structure DryInv (s : TaskState T) : Prop where
  loop : LoopInv s.phase s.sys.queue
  data : dataEvents s.sys.queue ≤ 1

theorem DryInv.polling {s : TaskState T} (h : DryInv s) (hphase : s.phase = .polling) :
    s.sys.queue.readyEvents = [] := by
  have hloop := h.loop
  rw [hphase] at hloop
  exact hloop

theorem DryInv.calling {s : TaskState T} (h : DryInv s) {ptr : Ptr}
    (hphase : s.phase = .calling ptr) : s.sys.queue.readyEvents = [] := by
  have hloop := h.loop
  rw [hphase] at hloop
  exact hloop

theorem start_dry (opened : Fd → Bool) (epfd : Fd) :
    DryInv (TaskState.start opened epfd : TaskState T) :=
  ⟨trivial, Nat.zero_le 1⟩

theorem step_dry {s t : TaskState T} {l : TaskLabel T} (hs : DryInv s)
    (h : TaskStep ws host s l t) : DryInv t := by
  cases h with
  | loop hloop =>
    refine ⟨hs.loop.step hloop, ?_⟩
    exact Nat.le_trans (hloop.suffix.map key).sublist.countP_le hs.data
  | operate hphase hop hstep =>
    refine ⟨trivial, ?_⟩
    rw [(operation_extends hop hstep).dataEvents]
    exact hs.data
  | elsewhere helse hstep =>
    have hqueue := elsewhere_queue helse hstep
    constructor
    · rw [hqueue]
      exact hs.loop
    · rw [hqueue]
      exact hs.data
  | callback hphase _ _ hnot hp hx =>
    have hdry := hs.polling hphase
    have hpushed := (callback_announces hnot hp).exec hx
    exact ⟨hpushed.loopInv hdry, hpushed.dataEvents hdry⟩
  | @readEventfd fd ptr mask r d notified k hphase _ _ hx =>
    have hdry := hs.polling hphase
    refine ⟨?_, hs.data⟩
    cases notified with
    | true => exact hdry
    | false =>
      intro ev hev
      simp [hdry] at hev
  | announce hphase _ hx =>
    have hdry := hs.calling hphase
    have hpushed := (announce_announces _ _ _).exec hx
    exact ⟨hpushed.loopInv hdry, hpushed.dataEvents hdry⟩

theorem run_dry {s t : TaskState T} {tr : List (TaskLabel T)} (hs : DryInv s)
    (h : Run (TaskStep ws host) s tr t) : DryInv t :=
  h.invariant hs fun _ _ _ => step_dry

/-! ## Events are taken in the order they are pushed -/

/-- The events that `next_event` has returned. -/
def taken (tr : List (TaskLabel T)) : List Event :=
  tr.filterMap fun l => match l with
    | .loop (.returns (.ok ev)) => some ev
    | _ => none

theorem taken_snoc (tr : List (TaskLabel T)) (l : TaskLabel T) :
    taken (tr ++ [l]) = taken tr ++ taken [l] := by
  simp [taken]

/-- What is in the queue is taken or still there, and what is new comes
after it. -/
def InOrder (s : TaskState T) (tr : List (TaskLabel T)) (t : TaskState T) : Prop :=
  ∃ new, keys s.sys.queue ++ new = (taken tr).map key ++ keys t.sys.queue

theorem loop_inOrder {s : TaskState T} (hs : DryInv s) {l : LoopLabel} {phase : Phase}
    {queue : EventQueueImpl} (h : LoopStep s.phase s.sys.queue l phase queue) :
    InOrder s [.loop l] ⟨{ s.sys with queue }, phase⟩ := by
  obtain ⟨⟨objects, q, k⟩, p⟩ := s
  cases h with
  | ready hq => exact ⟨[], by simp [taken, keys, show q.readyEvents = _ from hq]⟩
  | mustPoll => exact ⟨[], by simp [taken]⟩
  | pollFailed => exact ⟨[], by simp [taken]⟩
  | pollIdle => exact ⟨[], by simp [taken]⟩
  | found hq => exact ⟨[], by simp [taken, keys, show q.readyEvents = _ from hq]⟩
  | invalid hq hinvalid =>
    have hvalid := hs.loop _ (show _ ∈ q.readyEvents from hq ▸ List.mem_cons_self)
    simp [hinvalid] at hvalid
  | nothing => exact ⟨[], by simp [taken]⟩

/-- Where nothing is taken. -/
theorem pushed_inOrder {s t : TaskState T} {l : TaskLabel T} (htaken : taken [l] = [])
    (h : ∃ new, keys t.sys.queue = keys s.sys.queue ++ new) : InOrder s [l] t := by
  obtain ⟨new, hnew⟩ := h
  exact ⟨new, by rw [htaken, hnew]; rfl⟩

theorem Announces.keys {q q' : EventQueueImpl} (h : Announces q q') :
    ∃ new, keys q' = EventLoop.keys q ++ new := by
  obtain ⟨src, kinds, rfl, -⟩ := h
  exact ⟨kinds.map fun k => (k, src), by simp [EventLoop.keys, key, Function.comp_def]⟩

theorem step_inOrder {s t : TaskState T} {l : TaskLabel T} (hs : DryInv s)
    (h : TaskStep ws host s l t) : InOrder s [l] t := by
  cases h with
  | loop hloop => exact loop_inOrder hs hloop
  | operate _ hop hstep =>
    obtain ⟨new, hnew, -⟩ := operation_extends hop hstep
    exact pushed_inOrder rfl ⟨new, hnew⟩
  | elsewhere helse hstep =>
    exact pushed_inOrder rfl ⟨[], by rw [elsewhere_queue helse hstep, List.append_nil]⟩
  | callback _ _ _ hnot hp hx =>
    exact pushed_inOrder rfl ((callback_announces hnot hp).exec hx).keys
  | readEventfd _ _ _ _ => exact pushed_inOrder rfl ⟨[], (List.append_nil _).symm⟩
  | announce _ _ hx => exact pushed_inOrder rfl ((announce_announces _ _ _).exec hx).keys

theorem run_inOrder {s t : TaskState T} {tr : List (TaskLabel T)} (hs : DryInv s)
    (h : Run (TaskStep ws host) s tr t) : InOrder s tr t := by
  induction h with
  | nil => exact ⟨[], by simp [taken]⟩
  | snoc hrun hstep ih =>
    obtain ⟨new, hnew⟩ := ih
    obtain ⟨new', hnew'⟩ := step_inOrder (run_dry hs hrun) hstep
    refine ⟨new ++ new', ?_⟩
    rw [taken_snoc, List.map_append, List.append_assoc, ← hnew', ← List.append_assoc, hnew,
      List.append_assoc]

/-! ## The event loop -/

/-- A part of a callback that comes later is under way. -/
def Calling (s : TaskState T) : Prop := ∃ ptr, s.phase = .calling ptr

structure Dry (ws : WordSize) (host : Endian) (s : TaskState T) : Prop where
  /-- `epoll_wait` is entered with nothing queued -/
  poll : s.phase = .polling → s.sys.queue.readyEvents = []
  /-- and so is every part of a callback -/
  callback : ∀ l t, TaskStep ws host s l t → InCallback l → s.sys.queue.readyEvents = []
  /-- what it pushes is taken before the next poll or callback -/
  taken : ∀ l t, TaskStep ws host s l t → InCallback l →
    ∀ tr u, Run (TaskStep ws host) t tr u → u.phase = .polling ∨ Calling u →
      keys t.sys.queue <+: (taken tr).map key
  /-- of each source at most one DataAvailableEvent is queued -/
  data : ∀ src, (s.sys.queue.readyEvents.filter fun ev =>
    isData ev.eventType ∧ ev.sourceInfo = src).length ≤ 1

theorem DryInv.callback {s t : TaskState T} {l : TaskLabel T} (hs : DryInv s)
    (h : TaskStep ws host s l t) (hl : InCallback l) : s.sys.queue.readyEvents = [] := by
  cases h with
  | loop _ => exact hl.elim
  | operate _ _ _ => exact hl.elim
  | elsewhere _ _ => exact hl.elim
  | callback hphase _ _ _ _ _ => exact hs.polling hphase
  | readEventfd hphase _ _ _ => exact hs.polling hphase
  | announce hphase _ _ => exact hs.calling hphase

/-- **The event loop polls only when it has nothing queued**, in every run
of a task, whatever its sources do and `epoll_wait` answers. -/
theorem polls_when_dry {opened : Fd → Bool} {epfd : Fd} {s : TaskState T}
    {tr : List (TaskLabel T)} (h : Run (TaskStep ws host) (TaskState.start opened epfd) tr s) :
    Dry ws host s := by
  have hs : DryInv s := run_dry (start_dry opened epfd) h
  refine ⟨hs.polling, fun l t hstep hl => hs.callback hstep hl, ?_, ?_⟩
  · intro l t hstep _ tr' u hrun hphase
    have ht := step_dry hs hstep
    have hu := run_dry ht hrun
    have hempty : u.sys.queue.readyEvents = [] := by
      rcases hphase with hpoll | ⟨ptr, hcall⟩
      · exact hu.polling hpoll
      · exact hu.calling hcall
    obtain ⟨new, hnew⟩ := run_inOrder ht hrun
    exact ⟨new, by simpa [keys, hempty] using hnew⟩
  · intro src
    refine Nat.le_trans ?_ hs.data
    rw [dataEvents, keys, List.countP_map, List.countP_eq_length_filter]
    refine (List.monotone_filter_right _ ?_).length_le
    intro ev hev
    exact (of_decide_eq_true hev).1

/-- A client that has connected at once and asks for its next event. -/
theorem polls_when_dry_connected : ∃ s : TaskState Unit,
    Run (TaskStep .w64 .little) (TaskState.start (fun fd => decide (fd < 4)) 3)
      [.operate (.create 1 (.tcpSocket ⟨.ipv4Addr 127 0 0 1, 80⟩)),
        .loop (.returns (.ok (Event.new .connectedEvent 7))), .loop .goesOn] s ∧
      Dry .w64 .little s := by
  have hx : ((Creation.tcpSocket ⟨.ipv4Addr 127 0 0 1, 80⟩).run .little 1 7 ⟨3, []⟩).Exec
      Kernel.allows (System.start (fun fd => decide (fd < 4)) ⟨3, []⟩ : System Unit).kernel
      (.returned (some (.tcp ⟨1, ⟨5, true, .connected⟩, 7, 0⟩ : Object Unit),
        ⟨3, [Event.new .connectedEvent 7]⟩)) _ :=
    ⟨(5 : Int), _, .inr ⟨by decide, rfl, rfl⟩, (0 : Int), _, rfl, (0x802 : BitVec 32), _, rfl,
      (0 : Int), _, rfl, (0 : Int), _, .inr ⟨rfl, by simp, rfl⟩, rfl, rfl⟩
  have hcreate : TaskStep .w64 .little (TaskState.start (fun fd => decide (fd < 4)) 3)
      (.operate (.create 1 (.tcpSocket ⟨.ipv4Addr 127 0 0 1, 80⟩))) _ :=
    .operate rfl trivial (.create rfl hx)
  have hrun := ((Run.nil.snoc hcreate).snoc (.loop (.ready rfl))).snoc (.loop (.mustPoll rfl))
  exact ⟨_, hrun, polls_when_dry hrun⟩

/-! ## The steps make up `next_event` -/

/-- A callback is part of a poll. -/
def Phase.atPoll : Phase → Phase
  | .calling _ => .polling
  | phase => phase

/-- After a callback that leads from `q` to `q'`. -/
theorem returns_callback {q q' q'' : EventQueueImpl} {answers : List EventQueueImpl.Poll}
    {result : IoResult Event} (hq : Announces q q')
    (h : Returns .checking q' answers result q'') :
    ∃ answers', Returns .polling q answers' result q'' := by
  obtain ⟨src, kinds, rfl, -⟩ := hq
  refine ⟨.ready (kinds.map fun k => (k, src)) :: answers, .callback ?_⟩
  rw [q.pollEvents_own src kinds]
  exact h

theorem step_returns {s t : TaskState T} {l : TaskLabel T} (h : TaskStep ws host s l t)
    (ht : t.phase ≠ .idle) {answers : List EventQueueImpl.Poll} {result : IoResult Event}
    {q : EventQueueImpl} (hreturns : Returns t.phase.atPoll t.sys.queue answers result q) :
    ∃ answers', Returns s.phase.atPoll s.sys.queue answers' result q := by
  obtain ⟨⟨objects, q₀, k₀⟩, p⟩ := s
  cases h with
  | loop hloop =>
    cases hloop with
    | ready => exact absurd rfl ht
    | pollFailed => exact absurd rfl ht
    | found => exact absurd rfl ht
    | mustPoll hq => exact ⟨answers, .goOn (.mustPoll hq) nofun hreturns⟩
    | pollIdle => exact ⟨.idle :: answers, .pollIdle .pollIdle hreturns⟩
    | invalid hq hinvalid => exact ⟨answers, .goOn (.invalid hq hinvalid) nofun hreturns⟩
    | nothing hq => exact ⟨answers, .goOn (.nothing hq) nofun hreturns⟩
  | operate _ _ _ => exact absurd rfl ht
  | elsewhere helse hstep =>
    have hqueue := elsewhere_queue helse hstep
    rw [hqueue] at hreturns
    exact ⟨answers, hreturns⟩
  | callback hphase _ _ hnot hp hx =>
    obtain rfl : p = .polling := hphase
    exact returns_callback ((callback_announces hnot hp).exec hx) hreturns
  | @readEventfd _ _ _ _ _ notified _ hphase _ _ _ =>
    obtain rfl : p = .polling := hphase
    cases notified with
    | true => exact ⟨answers, hreturns⟩
    | false => exact returns_callback ⟨0, [], (q₀.pushAll_nil 0).symm, by simp⟩ hreturns
  | announce hphase _ hx =>
    obtain rfl : p = .calling _ := hphase
    exact returns_callback ((announce_announces _ _ _).exec hx) hreturns

theorem run_returns {s t : TaskState T} {tr : List (TaskLabel T)}
    (h : Run (fun s l t => TaskStep ws host s l t ∧ t.phase ≠ .idle) s tr t)
    {answers : List EventQueueImpl.Poll} {result : IoResult Event} {q : EventQueueImpl}
    (hreturns : Returns t.phase.atPoll t.sys.queue answers result q) :
    ∃ answers', Returns s.phase.atPoll s.sys.queue answers' result q := by
  induction h generalizing answers with
  | nil => exact ⟨answers, hreturns⟩
  | snoc _ hstep ih =>
    obtain ⟨answers', hreturns'⟩ := step_returns hstep.1 hstep.2 hreturns
    exact ih hreturns'

/-- The last step of a call. -/
theorem last_returns {t u : TaskState T} {result : IoResult Event}
    (h : TaskStep ws host t (.loop (.returns result)) u) :
    ∃ answers, Returns t.phase.atPoll t.sys.queue answers result u.sys.queue := by
  obtain ⟨⟨objects, q, k⟩, p⟩ := t
  cases h with
  | loop hloop =>
    cases hloop with
    | ready hq => exact ⟨[], .last (.ready hq) nofun⟩
    | pollFailed => exact ⟨[.failed _], .pollFailed .pollFailed⟩
    | found hq hvalid => exact ⟨[], .last (.found hq hvalid) nofun⟩

/-- **What a call returns in a run is what `next_event` returns**, for some
answers of `epoll_wait`. -/
theorem nextEvent_of_run {s t u : TaskState T} {tr : List (TaskLabel T)}
    {result : IoResult Event} (hs : s.phase = .idle)
    (h : Run (fun s l t => TaskStep ws host s l t ∧ t.phase ≠ .idle) s tr t)
    (hlast : TaskStep ws host t (.loop (.returns result)) u) :
    ∃ answers, s.sys.queue.nextEvent answers = some (result, u.sys.queue, []) := by
  obtain ⟨answers, hend⟩ := last_returns hlast
  obtain ⟨answers', hreturns⟩ := run_returns h hend
  rw [hs] at hreturns
  exact ⟨answers', (nextEvent_iff _ _ _).mpr ⟨answers', (List.append_nil _).symm, hreturns⟩⟩

end Revbio.EventLoop
