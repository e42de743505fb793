/-
Revbio.Channel.AccessTheorems — the code of an operation, access by access,
and the step it makes when nothing comes in between.

`runOut` runs the rest of an operation without a stop. From the state in
which the mutex is taken it comes to the step of `Revbio.Channel.System`
(`step_of_code`), since on data of its own the code is that of
`Revbio.Linux.Channel`.
-/
import Revbio.Channel.Interleaving

namespace Revbio.Channel

open CallTree Prog

variable {T : Type} {ws : WordSize} {owned : T → Nat}

/-! ## One call at a time -/

theorem answer_nextFd (e : Call) (k : Kernel) : (Kernel.answer e k).2.nextFd = k.nextFd := by
  have hsys : ∀ c, (k.syscall c).2.nextFd = k.nextFd := by
    intro c
    cases c <;> simp only [Kernel.syscall]
    case readCounter fd =>
      unfold Kernel.read
      split
      · split <;> rfl
      · rfl
    case writeOne fd =>
      unfold Kernel.write
      split
      · split <;> rfl
      · rfl
    case close fd =>
      unfold Kernel.close
      split
      · split <;> rfl
      · rfl
  cases e <;> exact hsys _

/-- The calls do not look at `signalled`. -/
theorem answer_signalled (e : Call) (k : Kernel) (b : Bool) :
    Kernel.answer e { k with signalled := b || k.signalled } =
      ((Kernel.answer e k).1,
        { (Kernel.answer e k).2 with signalled := b || (Kernel.answer e k).2.signalled }) := by
  have hsys : ∀ c, Kernel.syscall { k with signalled := b || k.signalled } c =
      ((k.syscall c).1,
        { (k.syscall c).2 with signalled := b || (k.syscall c).2.signalled }) := by
    intro c
    cases c <;> simp only [Kernel.syscall, Bool.or_true]
    case readCounter fd =>
      unfold Kernel.read
      cases k.eventfd with
      | none => rfl
      | some e => dsimp only; split <;> rfl
    case writeOne fd =>
      unfold Kernel.write
      cases k.eventfd with
      | none => rfl
      | some e => dsimp only; split <;> rfl
    case close fd =>
      unfold Kernel.close
      cases k.eventfd with
      | none => rfl
      | some e => dsimp only; split <;> rfl
  cases e <;> exact hsys _

/-- A world in which the condition has been signalled. -/
def World.signal (b : Bool) (w : World T) : World T :=
  (w.1, { w.2 with signalled := b || w.2.signalled })

theorem op_signalled (op : Op T) (w : World T) (b : Bool) :
    op.answer (w.signal b) = ((op.answer w).1, (op.answer w).2.signal b) := by
  cases op with
  | call c => simp only [Op.answer, World.signal, answer_signalled]
  | load x => rfl
  | store x v => rfl
  | relock => rfl

theorem run_signalled {α : Type} (p : Code T α) (w : World T) (b : Bool) :
    p.run Op.answer (w.signal b) =
      ((p.run Op.answer w).1, (p.run Op.answer w).2.signal b) := by
  induction p generalizing w with
  | ret a => rfl
  | fail m => rfl
  | call op k ih => rw [run_call, run_call, op_signalled, ih]

theorem op_nextFd (op : Op T) (w : World T) : (op.answer w).2.2.nextFd = w.2.nextFd := by
  cases op with
  | call c => exact answer_nextFd c w.2
  | load x => rfl
  | store x v => rfl
  | relock => rfl

theorem signal_signal (t : Task) : t.signal.signal = t.signal := by
  cases t <;> rfl

/-- All of the rest of an operation, without a stop. -/
def ChannelState.runOut (s : ChannelState T) (a : Act T) (p : Code T (Publish T)) :
    Out T × ChannelState T :=
  let r := p.run Op.answer (s.world a.newFd)
  settle a r.1 (s.withWorld r.2)

theorem runOut_over (s : ChannelState T) (a : Act T) {p : Code T (Publish T)}
    {x : Exit (Publish T)} (h : p.outcome = some x) : s.runOut a p = settle a x s := by
  simp only [ChannelState.runOut, run_of_outcome h]
  rfl

/-- **One access at a time** comes to the same as all of them at once. -/
theorem runOut_call (s : ChannelState T) (a : Act T) (op : Op T)
    (k : op.Ret → Code T (Publish T)) :
    s.runOut a (.call op k) =
      (s.answer a.newFd op).2.runOut a (k (s.answer a.newFd op).1) := by
  have hnext := op_nextFd op (s.world a.newFd)
  generalize hw : (op.answer (s.world a.newFd)).2 = w at hnext
  have hnext : w.2.nextFd = a.newFd := hnext
  -- the world that the first one leaves, with the signal taken out of it
  have hclean : w = ((s.withWorld w).world a.newFd).signal w.2.signalled := by
    obtain ⟨d, eventfd, nextFd, signalled, stray⟩ := w
    simp_all [ChannelState.world, ChannelState.withWorld, ChannelState.kernel,
      ChannelState.withKernel, World.signal]
  have hrun := run_signalled (k (op.answer (s.world a.newFd)).1)
    ((s.withWorld w).world a.newFd) w.2.signalled
  rw [← hclean] at hrun
  simp only [ChannelState.runOut, ChannelState.answer, run_call, hw, hrun]
  congr 1
  simp only [ChannelState.withWorld, ChannelState.withKernel, World.signal]
  cases w.2.signalled <;> simp [signal_signal]

/-! ## On data of its own -/

theorem run_onData {α : Type} (p : Code T α) (d : SharedChannelData T) (k : Kernel) :
    (onData p d).run Kernel.answer k =
      match p.run Op.answer (d, k) with
      | (.returned a, w) => (.returned (a, w.1), w.2)
      | (.failed msg, w) => (.failed msg, w.2) := by
  induction p generalizing d k with
  | ret a => rfl
  | fail m => rfl
  | call op f ih =>
    cases op with
    | call c => exact ih _ d _
    | load x => exact ih _ d k
    | store x v => exact ih () _ k
    | relock => exact ih () d k

/-- A failure after which the data are as they were. -/
def FailsClean {α : Type} (p : Code T α) (d : SharedChannelData T) (k : Kernel) : Prop :=
  ∀ msg w, p.run Op.answer (d, k) = (.failed msg, w) → w.1 = d

/-- Code that does not fail at all. -/
theorem failsClean_of_never {α β : Type} {p : Code T α} {q : Io β}
    {split : β → α × SharedChannelData T} {d : SharedChannelData T} {k : Kernel}
    (hp : onData p d = q >>= fun b => .ret (split b))
    (hq : ∀ msg k', q.run Kernel.answer k ≠ (.failed msg, k')) : FailsClean p d k := by
  intro msg w h
  have hrun := run_onData p d k
  rw [hp, run_bind, h] at hrun
  cases hend : q.run Kernel.answer k with
  | mk x k' =>
    rw [hend] at hrun
    cases x with
    | returned b => cases hrun
    | failed msg' => exact absurd hend (hq msg' k')

theorem awakeFor_withKernel (s : ChannelState T) (a : Act T) (w : World T) :
    { (s.awakeFor a).withKernel w.2 with data := w.1 } = (s.withWorld w).awakeFor a := by
  unfold ChannelState.awakeFor
  split
  · rfl
  · simp only [ChannelState.withKernel, ChannelState.withWorld, ChannelState.awake, Task.signal,
      ite_self]

/-- An operation that is the one of `Revbio.Linux.Channel` on data of its
own makes the step of that one. -/
theorem exec_eq_runOut {α β : Type} {s s₀ : ChannelState T} {a : Act T} {fd : Fd} {q : Io β}
    {f : β → ChannelState T → Out T × ChannelState T} {p : Code T α} {g : α → Publish T}
    (split : β → α × SharedChannelData T) (hfd : a.newFd = fd) (hs : s.awakeFor a = s₀)
    (hp : onData p s.data = q >>= fun b => .ret (split b))
    (hfail : FailsClean p s.data (s.kernel fd))
    (hg : ∀ b t, t.data = s.data → f b t = g (split b).1 { t with data := (split b).2 }) :
    s₀.exec fd q f = s.runOut a (p >>= fun x => .ret (g x)) := by
  subst hfd hs
  have hkernel : (s.awakeFor a).kernel a.newFd = s.kernel a.newFd := by
    unfold ChannelState.awakeFor
    split <;> rfl
  have hdata : (s.awakeFor a).data = s.data := by
    unfold ChannelState.awakeFor
    split <;> rfl
  have hrun := run_onData p s.data (s.kernel a.newFd)
  rw [hp, run_bind] at hrun
  simp only [ChannelState.runOut, run_bind, ChannelState.world]
  cases hq : q.run Kernel.answer (s.kernel a.newFd) with
  | mk x k =>
    cases hp' : p.run Op.answer (s.data, s.kernel a.newFd) with
    | mk y w =>
      rw [hq, hp'] at hrun
      cases x with
      | returned b =>
        rw [exec_returned f (hkernel ▸ hq), hg b ((s.awakeFor a).withKernel k) hdata]
        cases y with
        | failed msg => cases hrun
        | returned r =>
          obtain ⟨hb, rfl⟩ := Prod.mk.inj hrun
          have hb := Exit.returned.inj hb
          rw [hb]
          exact congrArg (g r) (awakeFor_withKernel s a w)
      | failed msg =>
        rw [exec_failed f (hkernel ▸ hq)]
        cases y with
        | returned r => cases hrun
        | failed msg' =>
          obtain ⟨hmsg, rfl⟩ := Prod.mk.inj hrun
          cases hmsg
          have hw : w.1 = (s.awakeFor a).data := by rw [hdata, hfail msg w hp']
          simp only [settle, ← awakeFor_withKernel, hw]
          rfl

/-! ## Failures -/

theorem trySend_failsClean (t : T) (d : SharedChannelData T) (k : Kernel) :
    FailsClean (Accesses.trySend t) d k := by
  have hp : onData (Accesses.trySend t) d = Transmitter.trySend d t >>= fun b => .ret b := by
    rw [Accesses.trySend_onData, bind_ret]
  refine failsClean_of_never hp ?_
  intro msg k'
  rw [run_trySend]
  split_ifs <;> simp

theorem dropTransmitter_failsClean (d : SharedChannelData T) (k : Kernel) :
    FailsClean (Accesses.dropTransmitter ws) d k := by
  refine failsClean_of_never (Accesses.dropTransmitter_onData ws d) ?_
  intro msg k'
  rw [run_dropTransmitter]
  split_ifs <;> simp

/-- A receive on a dead channel fails before it writes anything. -/
theorem recvTurn_failsClean (d : SharedChannelData T) (k : Kernel) :
    FailsClean Accesses.recvTurn d k := by
  obtain ⟨queue, alive, senders, notified, fd⟩ := d
  intro msg w h
  unfold Accesses.recvTurn Accesses.mustWait at h
  cases queue with
  | nil =>
    by_cases hs : senders = 0
    · simp [hs, Op.answer] at h
      rw [← h.2, hs]
    · simp [hs, Op.answer] at h
  | cons t rest =>
    simp [Op.answer] at h

theorem receiverRecvTurn_failsClean (r : Receiver) (d : SharedChannelData T) (k : Kernel) :
    FailsClean (Accesses.receiverRecvTurn r) d k := by
  intro msg w h
  unfold Accesses.receiverRecvTurn at h
  rw [run_bind] at h
  cases hturn : Accesses.recvTurn.run Op.answer (d, k) with
  | mk x w' =>
    rw [hturn] at h
    cases x with
    | returned turn => cases h
    | failed msg' =>
      cases h
      exact recvTurn_failsClean d k msg w hturn

theorem recvOptTurn_failsClean (d : SharedChannelData T) (k : Kernel) :
    FailsClean Accesses.recvOptTurn d k := by
  refine failsClean_of_never (Accesses.recvOptTurn_onData d) ?_
  intro msg k'
  rw [run_recvOptTurn]
  split
  · simp
  · split_ifs <;> simp

theorem tryRecv_failsClean (d : SharedChannelData T) (k : Kernel) :
    FailsClean Accesses.tryRecv d k := by
  have hp : onData Accesses.tryRecv d = BlockingReceiver.tryRecv d >>= fun b => .ret b := by
    rw [Accesses.tryRecv_onData, bind_ret]
  refine failsClean_of_never hp ?_
  intro msg k'
  rw [run_tryRecv]
  split <;> simp

theorem fromBlockingReceiver_failsClean (this : Ptr) (info : SourceId) (q : EventQueueImpl)
    (d : SharedChannelData T) {k : Kernel} (hfd : k.nextFd ≠ -1) :
    FailsClean (Accesses.fromBlockingReceiver this info q) d k := by
  refine failsClean_of_never (Accesses.fromBlockingReceiver_onData this info q d) ?_
  intro msg k'
  rw [run_fromBlockingReceiver this info d q k hfd]
  split_ifs <;> simp

theorem dropReceiver_failsClean (r : Receiver) (q : EventQueueImpl) (d : SharedChannelData T)
    (k : Kernel) : FailsClean (Accesses.dropReceiver r q) d k := by
  refine failsClean_of_never (Accesses.dropReceiver_onData r q d) ?_
  intro msg k'
  rw [run_dropReceiver]
  split_ifs <;> simp

/-! ## Codes are the code of the steps -/

theorem awakeFor_of_running {s : ChannelState T} (a : Act T) (h : s.task = .running) :
    s.awakeFor a = s := by
  unfold ChannelState.awakeFor
  split
  · rfl
  · exact awake_eq h

theorem dropBlockingReceiver_quiet {d : SharedChannelData T} (h : ∀ t ∈ d.queue, owned t = 0) :
    onData (Accesses.dropBlockingReceiver ws owned) d =
      BlockingReceiver.drop Destructor.inert d >>= fun d => .ret ((), d) := by
  rw [Accesses.dropBlockingReceiver_onData, BlockingReceiver.drop_inert,
    BlockingReceiver.drop_of_quiet fun t ht => Destructor.transmitters_none (h t ht)]

/-- A receive: nothing is written before a wait. -/
theorem endRecv_eq (turn : Turn (T × SharedChannelData T)) {d : SharedChannelData T}
    (s : ChannelState T) (hs : s.data = d) :
    endRecv turn s =
      endRecv (turnWith (fun t => (t, (Accesses.turnData d turn).2)) (Accesses.turnData d turn).1)
        { s with data := (Accesses.turnData d turn).2 } := by
  subst hs
  cases turn <;> rfl

theorem endRecvOpt_eq (turn : Turn (Option T × SharedChannelData T)) {d : SharedChannelData T}
    (s : ChannelState T) (hs : s.data = d) :
    endRecvOpt turn s =
      endRecvOpt
        (turnWith (fun ret => (ret, (Accesses.turnData d turn).2)) (Accesses.turnData d turn).1)
        { s with data := (Accesses.turnData d turn).2 } := by
  subst hs
  cases turn with
  | wait => rfl
  | done r =>
    obtain ⟨ret, d⟩ := r
    cases ret <;> rfl

theorem endReceiverRecv_eq (turn : Turn (Option T × Receiver × SharedChannelData T))
    {d : SharedChannelData T} (s : ChannelState T) (hs : s.data = d) :
    endReceiverRecv turn s =
      endReceiverRecv
        (turnWith (fun ret => (ret.1, ret.2, (Accesses.receivedData d turn).2))
          (Accesses.receivedData d turn).1)
        { s with data := (Accesses.receivedData d turn).2 } := by
  subst hs
  cases turn with
  | wait => rfl
  | done r =>
    obtain ⟨ret, r, d⟩ := r
    cases ret <;> rfl

theorem endTryRecv_eq (r : TryRecvResult T × SharedChannelData T) (s : ChannelState T) :
    endTryRecv r s = endTryRecv (r.1, r.2) { s with data := r.2 } := by
  obtain ⟨ret, d'⟩ := r
  cases ret <;> rfl

/-- **The code of an operation, run alone, is the code of the step.** -/
theorem step_of_code {s : ChannelState T} {a : Act T} {p : Code T (Publish T)}
    (h : codeOf ws owned s a = some p) (hfresh : a.Fresh s)
    (hquiet : a = .dropBlockingReceiver → ∀ t ∈ s.data.queue, owned t = 0) :
    step ws s a = some (s.runOut a p) := by
  cases a with
  | spuriousWakeup => cases h
  | otherEvents evs => cases h
  | trySend tx t =>
    obtain ⟨hc, hp⟩ := Option.ite_none_right_eq_some.mp h
    cases hp
    simp only [step, if_pos hc]
    have hp : onData (Accesses.trySend t) s.data =
        Transmitter.trySend s.data t >>= fun b => .ret b := by
      rw [Accesses.trySend_onData, bind_ret]
    exact congrArg some (exec_eq_runOut id rfl rfl hp (trySend_failsClean t _ _)
      (g := fun ok s => (.sent ok, s)) fun _ _ _ => rfl)
  | clone tx new =>
    obtain ⟨hc, hp⟩ := Option.ite_none_right_eq_some.mp h
    cases hp
    have hnew : new ∉ s.live := hfresh
    rw [step, if_pos ⟨hc, hnew⟩]
    exact congrArg some (exec_eq_runOut _ rfl rfl (Accesses.clone_onData s.data)
      (by rintro _ _ ⟨⟩) (g := fun _ s => (.done, { s with live := new :: s.live }))
      fun _ _ _ => rfl)
  | dropTransmitter tx =>
    obtain ⟨hc, hp⟩ := Option.ite_none_right_eq_some.mp h
    cases hp
    simp only [step, if_pos hc]
    exact congrArg some (exec_eq_runOut _ rfl rfl (Accesses.dropTransmitter_onData ws s.data)
      (dropTransmitter_failsClean _ _)
      (g := fun _ s => (.done, { s with live := s.live.erase tx })) fun _ _ _ => rfl)
  | recv =>
    obtain ⟨hc, hp⟩ := Option.ite_none_right_eq_some.mp h
    cases hp
    simp only [step, if_pos hc]
    exact congrArg some (exec_eq_runOut _ rfl (awakeFor_of_running _ hc.2)
      (Accesses.recv_onData s.data) (recvTurn_failsClean _ _)
      (g := fun turn s => endRecv (turnWith (fun t => (t, s.data)) turn) s)
      fun b t => endRecv_eq b t)
  | recvOpt =>
    obtain ⟨hc, hp⟩ := Option.ite_none_right_eq_some.mp h
    cases hp
    simp only [step, if_pos hc]
    exact congrArg some (exec_eq_runOut _ rfl (awakeFor_of_running _ hc.2)
      (Accesses.recvOpt_onData s.data) (recvOptTurn_failsClean _ _)
      (g := fun turn s => endRecvOpt (turnWith (fun ret => (ret, s.data)) turn) s)
      fun b t => endRecvOpt_eq b t)
  | tryRecv =>
    obtain ⟨hc, hp⟩ := Option.ite_none_right_eq_some.mp h
    cases hp
    simp only [step, if_pos hc]
    have hp : onData Accesses.tryRecv s.data =
        BlockingReceiver.tryRecv s.data >>= fun b => .ret b := by
      rw [Accesses.tryRecv_onData, bind_ret]
    exact congrArg some (exec_eq_runOut id rfl (awakeFor_of_running _ hc.2) hp
      (tryRecv_failsClean _ _) (g := fun ret s => endTryRecv (ret, s.data) s)
      fun b t _ => endTryRecv_eq b t)
  | fromBlockingReceiver this info fd =>
    obtain ⟨hc, hp⟩ := Option.ite_none_right_eq_some.mp h
    cases hp
    simp only [step, if_pos hc]
    have hfd : (s.kernel fd).nextFd ≠ -1 := Fd.ne_none hc.2.2
    exact congrArg some (exec_eq_runOut (a := .fromBlockingReceiver this info fd) _ rfl
      (awakeFor_of_running _ hc.2.1)
      (Accesses.fromBlockingReceiver_onData this info s.events s.data)
      (fromBlockingReceiver_failsClean _ _ _ _ hfd)
      (g := fun (r : Receiver × EventQueueImpl) s' => (.pushed (pushedKinds s r.2),
        { s' with events := r.2, port := .attached r.1 })) fun _ _ _ => rfl)
  | reacquire =>
    obtain ⟨data, live, port, task, eventfd, stray, events⟩ := s
    simp only [codeOf] at h
    split at h
    · cases h
      exact congrArg some (exec_eq_runOut _ rfl rfl (Accesses.recvTurn_onData data)
        (recvTurn_failsClean _ _)
        (g := fun turn s => endRecv (turnWith (fun t => (t, s.data)) turn) s)
        fun b t => endRecv_eq b t)
    · cases h
      exact congrArg some (exec_eq_runOut _ rfl rfl (Accesses.recvOptTurn_onData data)
        (recvOptTurn_failsClean _ _)
        (g := fun turn s => endRecvOpt (turnWith (fun ret => (ret, s.data)) turn) s)
        fun b t => endRecvOpt_eq b t)
    · cases h
      exact congrArg some (exec_eq_runOut _ rfl rfl (Accesses.receiverRecvTurn_onData _ data)
        (receiverRecvTurn_failsClean _ _ _)
        (g := fun (turn : Turn (Option T × Receiver)) s =>
          endReceiverRecv (turnWith (fun (ret : Option T × Receiver) =>
            (ret.1, ret.2, s.data)) turn) s)
        fun b t => endReceiverRecv_eq b t)
    · cases h
  | receiverRecv =>
    obtain ⟨data, live, port, task, eventfd, stray, events⟩ := s
    simp only [codeOf] at h
    split at h
    · rename_i r
      obtain ⟨hcredit, hp⟩ := Option.ite_none_right_eq_some.mp h
      cases hp
      have hclean : ∀ k, FailsClean (Accesses.receiverRecv r) data k := by
        unfold Accesses.receiverRecv
        rw [if_pos hcredit]
        exact receiverRecvTurn_failsClean r data
      exact congrArg some (exec_eq_runOut _ rfl rfl (Accesses.receiverRecv_onData r data)
        (hclean _)
        (g := fun (turn : Turn (Option T × Receiver)) s =>
          endReceiverRecv (turnWith (fun (ret : Option T × Receiver) =>
            (ret.1, ret.2, s.data)) turn) s)
        fun b t => endReceiverRecv_eq b t)
    · cases h
  | callbackRead =>
    obtain ⟨data, live, port, task, eventfd, stray, events⟩ := s
    simp only [codeOf] at h
    split at h
    · obtain ⟨hpos, hp⟩ := Option.ite_none_right_eq_some.mp h
      cases hp
      simp only [step, if_pos hpos]
      exact congrArg some (exec_eq_runOut _ rfl rfl (Accesses.readEventfd_onData EPOLLIN data)
        (by rintro _ _ ⟨⟩)
        (g := fun (goOn : Bool) s =>
          (.done, { s with task := if goOn then .callback else .running }))
        fun _ t ht => by rw [← ht])
    · cases h
  | callbackLock =>
    obtain ⟨data, live, port, task, eventfd, stray, events⟩ := s
    simp only [codeOf] at h
    split at h
    · rename_i r
      cases h
      exact congrArg some (exec_eq_runOut _ rfl rfl (Accesses.announce_onData ws r events data)
        (by rintro _ _ ⟨⟩)
        (g := fun (res : Receiver × EventQueueImpl) s' =>
          (.pushed (pushedKinds ⟨data, live, .attached r, .callback, eventfd, stray, events⟩ res.2),
            { s' with events := res.2, port := .attached res.1 }))
        fun _ _ _ => rfl)
    · cases h
  | dropReceiver =>
    obtain ⟨data, live, port, task, eventfd, stray, events⟩ := s
    simp only [codeOf] at h
    split at h
    · rename_i r
      cases h
      exact congrArg some (exec_eq_runOut _ rfl rfl (Accesses.dropReceiver_onData r events data)
        (dropReceiver_failsClean r events data _)
        (g := fun events s => (.done, { s with events, port := .detached })) fun _ _ _ => rfl)
    · cases h
  | dropBlockingReceiver =>
    obtain ⟨hc, hp⟩ := Option.ite_none_right_eq_some.mp h
    cases hp
    simp only [step, if_pos hc]
    have hp := @dropBlockingReceiver_quiet _ ws _ _ (hquiet rfl)
    refine congrArg some (exec_eq_runOut _ rfl (awakeFor_of_running _ hc.2) hp ?_
      (g := fun _ s => (.done, { s with port := .dropped })) fun _ _ _ => rfl)
    refine failsClean_of_never hp ?_
    intro msg k' hx
    rw [BlockingReceiver.drop_inert] at hx
    cases hx

end Revbio.Channel
