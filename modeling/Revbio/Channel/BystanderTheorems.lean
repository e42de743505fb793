/-
Revbio.Channel.BystanderTheorems — what a step of one task leaves to the
others.

A task that has not got the mutex is about to take it, or it is the callback
on its way to the eventfd (`AtRest`), and what the others do does not change
that (`AtRest.doneBy`). What the receiving task does without the mutex
depends on nothing a sender changes: of the shared data it reads one field,
and that one keeps its value (`unlocked_step`).
-/
import Revbio.Channel.SectionTheorems

namespace Revbio.Channel

open CallTree Prog

variable {T : Type} {ws : WordSize} {owned : T → Nat}

/-! ## What a sender leaves to the others -/

/-- What another task may rely on, with a step of the sender `tx` from `s`
to `s'`. -/
structure SentBy (tx : TxId) (s s' : ChannelState T) : Prop where
  port : s'.port = s.port
  events : s'.events = s.events
  task : s'.task = s.task ∨ s'.task = s.task.signal
  eventfd : s'.eventfd = s.eventfd ∨
    ∃ e, s.eventfd = some e ∧ s'.eventfd = some { e with counter := e.counter + 1 }
  epollFd : s'.data.epollFd = s.data.epollFd
  live : ∀ tx', tx' ≠ tx → tx' ∈ s.live → tx' ∈ s'.live

theorem SentBy.task_eq {tx : TxId} {s s' : ChannelState T} (h : SentBy tx s s') {t : Task}
    (ht : s.task = t) (hsignal : t.signal = t) : s'.task = t := by
  rcases h.task with h | h
  · rw [h, ht]
  · rw [h, ht, hsignal]

theorem answer_reports {c : Call} (h : Reports c) (k : Kernel) : (Kernel.answer c k).2 = k :=
  h.each (P := fun c => (Kernel.answer c k).2 = k) rfl rfl (fun _ => rfl) fun _ => rfl

/-- **One access** of a sender. -/
theorem answer_sentBy (tx : TxId) (s : ChannelState T) (fd : Fd) {op : Op T}
    (h : SenderOp op) : SentBy tx s (s.answer fd op).2 := by
  have hsame : SentBy tx s s := ⟨rfl, rfl, .inl rfl, .inl rfl, rfl, fun _ _ h => h⟩
  unfold SenderOp at h
  split at h
  · exact hsame
  · rename_i x v
    refine ⟨rfl, rfl, .inl rfl, .inl rfl, ?_, fun _ _ h => h⟩
    cases x with
    | epollFd => exact absurd rfl h
    | _ => rfl
  · exact hsame
  · exact hsame
  · exact ⟨rfl, rfl, .inr rfl, .inl rfl, rfl, fun _ _ h => h⟩
  · rename_i fd'
    refine ⟨rfl, rfl, .inl ?_, ?_, rfl, fun _ _ h => h⟩
    · obtain ⟨data, live, port, task, eventfd, stray, events⟩ := s
      cases eventfd with
      | none => rfl
      | some e =>
        simp only [ChannelState.answer, Op.answer, Kernel.answer, Kernel.syscall, Kernel.write,
          ChannelState.world, ChannelState.kernel, ChannelState.withWorld, ChannelState.withKernel]
        split <;> rfl
    · obtain ⟨data, live, port, task, eventfd, stray, events⟩ := s
      cases eventfd with
      | none => exact .inl rfl
      | some e =>
        simp only [ChannelState.answer, Op.answer, Kernel.answer, Kernel.syscall, Kernel.write,
          ChannelState.world, ChannelState.kernel, ChannelState.withWorld, ChannelState.withKernel]
        split
        · exact .inr ⟨e, rfl, rfl⟩
        · exact .inl rfl
  · rename_i c _ _ _ _
    have hk := answer_reports h (s.kernel fd)
    simp only [ChannelState.answer, Op.answer, ChannelState.world, hk]
    exact hsame
  · exact h.elim

/-- **The code of the others** is not changed by what a sender does. -/
theorem codeOf_sentBy {tx : TxId} {s s' : ChannelState T} {a : Act T} {p : Code T (Publish T)}
    (h : codeOf ws owned s a = some p) (ha : a.agent ≠ .sender tx) (hs : SentBy tx s s') :
    codeOf ws owned s' a = some p := by
  have hport := hs.port
  have hrunning : s.task = .running → s'.task = .running := fun h => hs.task_eq h rfl
  cases a with
  | trySend tx' t =>
    obtain ⟨hc, hp⟩ := Option.ite_none_right_eq_some.mp h
    exact Option.ite_none_right_eq_some.mpr ⟨hs.live tx' (fun h => ha (h ▸ rfl)) hc, hp⟩
  | clone tx' new =>
    obtain ⟨hc, hp⟩ := Option.ite_none_right_eq_some.mp h
    exact Option.ite_none_right_eq_some.mpr ⟨hs.live tx' (fun h => ha (h ▸ rfl)) hc, hp⟩
  | dropTransmitter tx' =>
    obtain ⟨hc, hp⟩ := Option.ite_none_right_eq_some.mp h
    exact Option.ite_none_right_eq_some.mpr ⟨hs.live tx' (fun h => ha (h ▸ rfl)) hc, hp⟩
  | recv =>
    obtain ⟨hc, hp⟩ := Option.ite_none_right_eq_some.mp h
    exact Option.ite_none_right_eq_some.mpr ⟨⟨hport.trans hc.1, hrunning hc.2⟩, hp⟩
  | recvOpt =>
    obtain ⟨hc, hp⟩ := Option.ite_none_right_eq_some.mp h
    exact Option.ite_none_right_eq_some.mpr ⟨⟨hport.trans hc.1, hrunning hc.2⟩, hp⟩
  | tryRecv =>
    obtain ⟨hc, hp⟩ := Option.ite_none_right_eq_some.mp h
    exact Option.ite_none_right_eq_some.mpr ⟨⟨hport.trans hc.1, hrunning hc.2⟩, hp⟩
  | fromBlockingReceiver this info fd =>
    obtain ⟨hc, hp⟩ := Option.ite_none_right_eq_some.mp h
    refine Option.ite_none_right_eq_some.mpr ⟨⟨hport.trans hc.1, hrunning hc.2.1, hc.2.2⟩, ?_⟩
    simpa only [pushedKinds, hs.events] using hp
  | reacquire =>
    simp only [codeOf] at h ⊢
    split at h
    · rename_i htask hp
      rw [hs.task_eq htask rfl, hport, hp]
      exact h
    · rename_i htask hp
      rw [hs.task_eq htask rfl, hport, hp]
      exact h
    · rename_i htask hp
      rw [hs.task_eq htask rfl, hport, hp]
      exact h
    · cases h
  | receiverRecv =>
    simp only [codeOf] at h ⊢
    split at h
    · rename_i htask hp
      rw [hrunning htask, hport, hp]
      exact h
    · cases h
  | callbackRead =>
    simp only [codeOf] at h ⊢
    split at h
    · rename_i e htask hp he
      obtain ⟨hpos, hcode⟩ := Option.ite_none_right_eq_some.mp h
      rw [hrunning htask, hport, hp]
      rcases hs.eventfd with he' | ⟨e', he', hnew⟩
      · rw [he', he]
        exact h
      · rw [hnew]
        exact Option.ite_none_right_eq_some.mpr ⟨Nat.le_add_left 1 _, hcode⟩
    · cases h
  | callbackLock =>
    simp only [codeOf] at h ⊢
    split at h
    · rename_i htask hp
      rw [hs.task_eq htask rfl, hport, hp]
      simpa only [pushedKinds, hs.events] using h
    · cases h
  | dropReceiver =>
    simp only [codeOf] at h ⊢
    split at h
    · rename_i htask hp
      rw [hrunning htask, hport, hp]
      simpa only [hs.events] using h
    · cases h
  | dropBlockingReceiver =>
    obtain ⟨hc, hp⟩ := Option.ite_none_right_eq_some.mp h
    exact Option.ite_none_right_eq_some.mpr ⟨⟨by rw [hport]; exact hc.1, hrunning hc.2⟩, hp⟩
  | spuriousWakeup => cases h
  | otherEvents evs => cases h

/-- A sender's code depends on its Transmitter only. -/
theorem codeOf_live {s s' : ChannelState T} {a : Act T} {tx : TxId} (ha : a.agent = .sender tx)
    (hlive : s'.live = s.live) : codeOf ws owned s' a = codeOf ws owned s a := by
  cases a with
  | trySend tx' t => simp only [codeOf, hlive]
  | clone tx' new => simp only [codeOf, hlive]
  | dropTransmitter tx' => simp only [codeOf, hlive]
  | _ => cases ha

/-! ## Who waits, and what for -/

/-- A task in an operation that has not got the mutex is about to take it;
or it is the callback, which reads the eventfd without. -/
inductive AtRest (ws : WordSize) (owned : T → Nat) (s : ChannelState T) : Running T → Prop where
  | start {a : Act T} {p : Code T (Publish T)} :
      codeOf ws owned s a = some p → AtRest ws owned s ⟨a, p⟩
  | reading {k : Fd → Code T (Publish T)} :
      codeOf ws owned s .callbackRead = some (.call (.load .epollFd) k) →
      AtRest ws owned s ⟨.callbackRead, k s.data.epollFd⟩

theorem AtRest.sentBy {tx : TxId} {s s' : ChannelState T} {r : Running T}
    (h : AtRest ws owned s r) (hr : r.act.agent ≠ .sender tx) (hs : SentBy tx s s') :
    AtRest ws owned s' r := by
  cases h with
  | start h => exact .start (codeOf_sentBy h hr hs)
  | reading h =>
    have h := AtRest.reading (codeOf_sentBy h hr hs)
    rwa [hs.epollFd] at h

theorem AtRest.live {s s' : ChannelState T} {r : Running T} {tx : TxId}
    (h : AtRest ws owned s r) (hr : r.act.agent = .sender tx) (hlive : s'.live = s.live) :
    AtRest ws owned s' r := by
  cases h with
  | reading h => cases hr
  | start h => exact .start ((codeOf_live hr hlive).trans h)

/-- What a step of this task, from `s` to `s'`, leaves to the others. -/
def DoneBy (agent : Agent) (s s' : ChannelState T) : Prop :=
  match agent with
  | .sender tx => SentBy tx s s'
  | .receiver => s'.live = s.live

theorem AtRest.doneBy {agent : Agent} {s s' : ChannelState T} {r : Running T}
    (h : AtRest ws owned s r) (hr : r.act.agent ≠ agent) (hs : DoneBy agent s s') :
    AtRest ws owned s' r := by
  cases agent with
  | sender tx => exact h.sentBy hr hs
  | receiver =>
    cases hr' : r.act.agent with
    | sender tx => exact h.live hr' hs
    | receiver => exact absurd hr' hr

/-- The callback reads the descriptor, and then the eventfd. -/
theorem callbackRead_code {s : ChannelState T} {p : Code T (Publish T)}
    (h : codeOf ws owned s .callbackRead = some p) :
    p = .call (.load .epollFd) fun fd => .call (.call (.retry (.readCounter fd))) fun r =>
      .ret fun s => (.done, { s with
        task := if decide (r.1 = 8 ∧ r.2 = 1) then .callback else .running }) := by
  simp only [codeOf] at h
  split at h
  · obtain ⟨-, hp⟩ := Option.ite_none_right_eq_some.mp h
    cases hp
    rfl
  · cases h

/-- The state with the mutex taken is the state without. -/
theorem answer_takes {op : Op T} (h : op.mutexUse = .takes) :
    ∃ r, ∀ w : World T, op.answer w = (r, w) := by
  unfold Op.mutexUse at h
  split at h <;> first | exact ⟨(), fun _ => rfl⟩ | cases h

theorem answer_private {s s' : ChannelState T} {fd : Fd} {op : Op T} {r : op.Ret}
    (h : Private Op.answer op) (hr : s.answer fd op = (r, s')) :
    ∃ d, s' = { s with data := d } ∧ ∀ k, op.answer (s.data, k) = (r, (d, k)) := by
  obtain ⟨r', d, hop⟩ := h s.data
  simp only [ChannelState.answer, ChannelState.world, hop, Prod.mk.injEq] at hr
  obtain ⟨rfl, rfl⟩ := hr
  exact ⟨d, rfl, hop⟩

/-! ## The end of an operation -/

/-- What a sender's operation shows is fixed, and it changes what
Transmitters there are. -/
def Settles (a : Act T) (x : Exit (Publish T)) (o : Out T) (live : List TxId → List TxId) : Prop :=
  ∀ s, settle a x s = (o, { s with live := live s.live })

theorem leaves_of_publish {a : Act T} {x : Exit (Publish T)} {tx : TxId}
    (ha : a.agent = .sender tx) (hx : ∀ f, x = .returned f → SenderPublish tx f) :
    ∃ o live, Settles a x o live ∧ ∀ l tx', tx' ≠ tx → tx' ∈ l → tx' ∈ live l := by
  have hawake : ∀ s : ChannelState T, s.awakeFor a = s := by
    intro s
    cases a with
    | trySend tx t => rfl
    | clone tx new => rfl
    | dropTransmitter tx => rfl
    | _ => cases ha
  cases x with
  | returned f =>
    obtain ⟨o, live, hf, hlive⟩ := hx f rfl
    refine ⟨o, live, ?_, hlive⟩
    intro s
    simp only [settle, hawake, hf]
  | failed msg =>
    refine ⟨.failed msg, id, ?_, fun _ _ _ h => h⟩
    intro s
    simp only [settle, hawake, id]

theorem bySender_of_agent {a : Act T} {tx : TxId} (h : a.agent = .sender tx) :
    a.bySender = true := by
  cases a with
  | trySend tx t => rfl
  | clone tx new => rfl
  | dropTransmitter tx => rfl
  | _ => cases h

theorem bySender_of_receiver {a : Act T} (h : a.agent = .receiver) : a.bySender = false := by
  cases a with
  | trySend tx t => cases h
  | clone tx new => cases h
  | dropTransmitter tx => cases h
  | _ => rfl

/-! ## Outside the mutex -/

/-- What is done between operations needs no mutex. -/
theorem unlocked_of_outside {s s' : ChannelState T} {l : Label T}
    (h : codeOf ws owned s l.act = none) (hstep : Step ws s l s') : l.locked = false := by
  obtain ⟨data, live, port, task, eventfd, stray, events⟩ := s
  obtain ⟨a, o⟩ := l
  cases a with
  | spuriousWakeup => rfl
  | callbackRead => rfl
  | otherEvents evs => rfl
  | receiverRecv =>
    simp only [Step, step] at hstep
    simp only [codeOf] at h
    split at hstep
    · rename_i r
      have hcredit : ¬ r.availableMessages > 0 := by simpa using h
      have hrun : ∀ k, (r.recv data).run Kernel.answer k =
          (.returned (.done (none, r, data)), k) := by
        intro k
        simp only [Receiver.recv, if_neg hcredit, Prog.pure_eq, Prog.run_ret]
      rw [exec_returned _ (hrun _)] at hstep
      obtain ⟨rfl, rfl⟩ := Prod.mk.inj (Option.some.inj hstep)
      rfl
    · cases hstep
  | _ =>
    -- the other actions have code wherever they are possible
    exfalso
    simp only [Step, step] at hstep
    simp only [codeOf] at h
    split at hstep <;> simp_all

/-- **Without the mutex** the receiving task leaves the data alone and does
not look at them, the descriptor of the eventfd apart. -/
theorem unlocked_step {s s' : ChannelState T} {l : Label T} (h : l.locked = false)
    (hstep : Step ws s l s') :
    s'.data = s.data ∧ s'.live = s.live ∧ l.act.bySender = false ∧
      ∀ (data : SharedChannelData T) (live : List TxId), data.epollFd = s.data.epollFd →
        Step ws { s with data, live } l { s' with data, live } := by
  obtain ⟨data, live, port, task, eventfd, stray, events⟩ := s
  obtain ⟨a, o⟩ := l
  cases a with
  | spuriousWakeup =>
    simp only [Step, step] at hstep
    split at hstep
    · obtain ⟨rfl, rfl⟩ := Prod.mk.inj (Option.some.inj hstep)
      exact ⟨rfl, rfl, rfl, fun _ _ _ => rfl⟩
    · cases hstep
  | callbackRead =>
    simp only [Step, step] at hstep
    split at hstep
    · split at hstep
      · rename_i hpos
        rw [exec_returned _ (run_readEventfd _ _)] at hstep
        obtain ⟨rfl, rfl⟩ := Prod.mk.inj (Option.some.inj hstep)
        refine ⟨rfl, rfl, rfl, ?_⟩
        intro data' live' hfd
        simp only [Step, step, if_pos hpos]
        rw [exec_returned _ (run_readEventfd data' _), hfd]
        rfl
      · cases hstep
    · cases hstep
  | otherEvents evs =>
    obtain ⟨rfl, rfl⟩ := Prod.mk.inj (Option.some.inj hstep)
    exact ⟨rfl, rfl, rfl, fun _ _ _ => rfl⟩
  | receiverRecv =>
    cases ho : o with
    | noCredit =>
      subst ho
      cases step_effect hstep with
      | @noCredit r hport htask hzero =>
        cases hport
        cases htask
        have hcredit : ¬ r.availableMessages > 0 := by omega
        refine ⟨rfl, rfl, rfl, ?_⟩
        intro data' live' _
        have hrun : ∀ k, (r.recv data').run Kernel.answer k =
            (.returned (.done (none, r, data')), k) := by
          intro k
          simp only [Receiver.recv, if_neg hcredit, Prog.pure_eq, Prog.run_ret]
        simp only [Step, step]
        rw [exec_returned _ (hrun _)]
        rfl
    | _ =>
      subst ho
      cases h
  | _ => cases h

end Revbio.Channel
