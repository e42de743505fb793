/-
Revbio.Channel.InterleavingTheorems — a critical section might as well be
one step.

The receiving task touches the eventfd and its own state also while a
sender has the mutex, so the sections of a run access by access are not
simply one after the other. But a sender makes at most one call that
anybody can see, the write or the signal (`sender_code`): its section has
taken place at that call, or at its last one if there was none. What it
writes to the shared data nobody reads in between, since all others wait for
the mutex, and the one field that is read without it keeps its value
(`unlocked_step`).

`Linearized` says where the task with the mutex is in that account and
`AtRest` where the others are, and `sections_atomic` carries both through a
run: the sections of every run access by access are, in the same order and
with the same results, the sections of a run of `Revbio.Channel.System`.
-/
import Revbio.Channel.BystanderTheorems
import Revbio.Channel.ClientTheorems

namespace Revbio.Channel

open CallTree Prog Function

variable {T : Type} {ws : WordSize} {owned : T → Nat}

/-! ## What the sections come to -/

theorem locked_of_code {s s' : ChannelState T} {a : Act T} {o : Out T} {p : Code T (Publish T)}
    (h : codeOf ws owned s a = some p) (ha : a ≠ .callbackRead) (hstep : Step ws s ⟨a, o⟩ s') :
    (⟨a, o⟩ : Label T).locked = true := by
  cases a with
  | receiverRecv =>
    cases ho : o with
    | noCredit =>
      subst ho
      cases step_effect hstep with
      | noCredit hport htask hzero => simp [codeOf, hport, htask, hzero] at h
    | _ => rfl
  | spuriousWakeup => cases h
  | callbackRead => exact absurd rfl ha
  | otherEvents evs => cases h
  | _ => rfl

theorem locked_of_sender {a : Act T} {o : Out T} (ha : a.bySender = true) :
    (⟨a, o⟩ : Label T).locked = true := by
  cases a with
  | trySend tx t => rfl
  | clone tx new => rfl
  | dropTransmitter tx => rfl
  | _ => cases ha

@[simp] theorem completed_nil : completed ([] : List (CallLabel T)) = [] := rfl
@[simp] theorem completed_start (tr : List (CallLabel T)) (a : Act T) :
    completed (tr ++ [.start a]) = completed tr := by simp [completed]
@[simp] theorem completed_access (tr : List (CallLabel T)) (agent : Agent) :
    completed (tr ++ [.access agent]) = completed tr := by simp [completed]
@[simp] theorem completed_done (tr : List (CallLabel T)) (l : Label T) :
    completed (tr ++ [.done l]) = completed tr ++ [l] := by simp [completed]

theorem sections_snoc {tr : List (Label T)} {l : Label T} (h : l.locked = true) :
    sections (tr ++ [l]) = sections tr ++ [l] := by simp [sections, h]

theorem sections_outside {tr : List (Label T)} {l : Label T} (h : l.locked = false) :
    sections (tr ++ [l]) = sections tr := by simp [sections, h]

theorem byReceiver_sender {tr : List (Label T)} {l : Label T} (h : l.act.bySender = true) :
    byReceiver (tr ++ [l]) = byReceiver tr := by simp [byReceiver, h]

theorem byReceiver_snoc {tr : List (Label T)} {l : Label T} (h : l.act.bySender = false) :
    byReceiver (tr ++ [l]) = byReceiver tr ++ [l] := by simp [byReceiver, h]

/-! ## Where the section is -/

/-- The sender `tx` has the mutex, and `rest` is what is left of its
section. -/
structure Sending (c : CallState T) (tx : TxId) (a : Act T) (rest : Code T (Publish T)) :
    Prop where
  owner : c.owner = some (.sender tx)
  running : c.running (.sender tx) = some ⟨a, rest⟩
  agent : a.agent = .sender tx
  inSection : ∀ k, InSection rest (c.shared.data, k)
  within : rest.Within SenderOp (SenderPublish tx)

/-- The receiving task has the mutex. -/
structure Receiving (c : CallState T) (a : Act T) (rest : Code T (Publish T)) : Prop where
  owner : c.owner = some .receiver
  running : c.running .receiver = some ⟨a, rest⟩

/-- Where the task that has the mutex is: `t` is the state with its section
counted as a whole or not at all, `pending` the section, where it is
counted before it is over. -/
inductive Linearized (ws : WordSize) (owned : T → Nat) (c : CallState T) :
    List (Label T) → ChannelState T → Prop where
  | free : c.owner = none → Linearized ws owned c [] c.shared
  /-- the receiving task: nobody else changes anything -/
  | receiver {t : ChannelState T} {a : Act T} {p rest : Code T (Publish T)} :
      Receiving c a rest → a ≠ .callbackRead → InSection rest (c.shared.world a.newFd) →
      codeOf ws owned t a = some p → step ws t a = some (c.shared.runOut a rest) →
      t.live = c.shared.live → Linearized ws owned c [] t
  /-- the receiving task is about to take the mutex it has, and stays there -/
  | jammed {t : ChannelState T} {a : Act T} {rest : Code T (Publish T)} :
      Receiving c a rest → Jams rest (c.shared.world a.newFd) → Linearized ws owned c [] t
  /-- a sender that has made no call that shows: the section has not taken
  place, and the data are still `d` -/
  | before {tx : TxId} {a : Act T} {p rest : Code T (Publish T)} {d : SharedChannelData T} :
      Sending c tx a rest → codeOf ws owned c.shared a = some p →
      (∀ k, p.run Op.answer (d, k) = rest.run Op.answer (c.shared.data, k)) →
      d.epollFd = c.shared.data.epollFd → rest.OneEffect Op.answer →
      (∀ new, a = .clone tx new → rest.Finishing Op.answer) →
      Linearized ws owned c [] { c.shared with data := d }
  /-- a sender that has made it, and so is settled: the data will be `d` -/
  | after {tx : TxId} {a : Act T} {rest : Code T (Publish T)} {x : Exit (Publish T)}
      {d : SharedChannelData T} {o : Out T} {live : List TxId → List TxId} :
      Sending c tx a rest → rest.Finishing Op.answer →
      (∀ k, rest.run Op.answer (c.shared.data, k) = (x, (d, k))) →
      d.epollFd = c.shared.data.epollFd → Settles a x o live →
      Linearized ws owned c [⟨a, o⟩] { c.shared with data := d, live := live c.shared.live }

/-- It is about the task that has the mutex only. -/
theorem Linearized.congr {c c' : CallState T} {pending : List (Label T)} {t : ChannelState T}
    (h : Linearized ws owned c pending t) (hshared : c'.shared = c.shared)
    (howner : c'.owner = c.owner)
    (hrunning : ∀ agent, c.owner = some agent → c'.running agent = c.running agent) :
    Linearized ws owned c' pending t := by
  have hreceiving : ∀ {a rest}, Receiving c a rest → Receiving c' a rest := fun h =>
    ⟨howner.trans h.owner, (hrunning _ h.owner).trans h.running⟩
  have hsending : ∀ {tx a rest}, Sending c tx a rest → Sending c' tx a rest := fun h =>
    ⟨howner.trans h.owner, (hrunning _ h.owner).trans h.running, h.agent,
      hshared ▸ h.inSection, h.within⟩
  cases h with
  | free h => exact hshared ▸ .free (howner.trans h)
  | receiver hr ha hsec hcode hstep hlive =>
    exact .receiver (hreceiving hr) ha (hshared ▸ hsec) hcode (hshared ▸ hstep) (hshared ▸ hlive)
  | jammed hr hjam => exact .jammed (hreceiving hr) (hshared ▸ hjam)
  | before hs hcode hrun hfd hone hclone =>
    rw [← hshared]
    exact .before (hsending hs) (hshared ▸ hcode) (hshared ▸ hrun) (hshared ▸ hfd) hone hclone
  | after hs hfin hrun hfd hleaves =>
    rw [← hshared]
    exact .after (hsending hs) hfin (hshared ▸ hrun) (hshared ▸ hfd) hleaves

/-! ### One step -/

theorem reaches_signal {α : Type} {C D : Op T → Prop} {Q : Code T α → Prop} {p : Code T α}
    {w : World T} (b : Bool) :
    p.Reaches Op.answer C D Q (w.signal b) ↔ p.Reaches Op.answer C D Q w := by
  induction p generalizing w with
  | ret a => rfl
  | fail msg => rfl
  | call op k ih => simp only [Reaches, op_signalled, ih]

/-- After one access, in the state it leaves. -/
theorem reaches_answer {α : Type} {C D : Op T → Prop} {Q : Code T α → Prop} {p : Code T α}
    {s : ChannelState T} {fd : Fd} {op : Op T}
    (h : p.Reaches Op.answer C D Q (op.answer (s.world fd)).2) :
    p.Reaches Op.answer C D Q ((s.answer fd op).2.world fd) := by
  have hnext := op_nextFd op (s.world fd)
  simp only [ChannelState.answer]
  generalize (op.answer (s.world fd)).2 = w at h hnext
  obtain ⟨d, eventfd, nextFd, signalled, stray⟩ := w
  cases hnext
  have := (reaches_signal (p := p) (w := (d, ⟨eventfd, fd, false, stray⟩)) (C := C) (D := D)
    (Q := Q) signalled).mp (by simpa [World.signal] using h)
  exact this

/-- **The mutex is taken.** -/
theorem linearized_take {c : CallState T} {a : Act T} {op : Op T} {r : op.Ret}
    {k : op.Ret → Code T (Publish T)}
    (hcode : codeOf ws owned c.shared a = some (.call op k)) (hop : op.mutexUse = .takes)
    (hr : ∀ w : World T, op.answer w = (r, w)) :
    Linearized ws owned ⟨c.shared, some a.agent, update c.running a.agent (some ⟨a, k r⟩)⟩ []
      c.shared := by
  have ha : a ≠ .callbackRead := by
    rintro rfl
    cases callbackRead_code hcode
    cases hop
  have hrunning : update c.running a.agent (some ⟨a, k r⟩) a.agent = some ⟨a, k r⟩ := by simp
  cases hagent : a.agent with
  | receiver =>
    rw [hagent] at hrunning
    have hrecv : Receiving ⟨c.shared, some .receiver,
        update c.running .receiver (some ⟨a, k r⟩)⟩ a (k r) := ⟨rfl, hrunning⟩
    have hshape := codeOf_takes hcode ha (w := c.shared.world a.newFd) fun _ => rfl
    rcases hshape with ⟨⟨_, _, hp, -, hsec⟩, hquiet⟩ | ⟨rfl, _, _, hp, -, hjam⟩
    · cases hp
      have hfresh : a.Fresh c.shared := by
        cases a with
        | clone tx new => cases hagent
        | _ => trivial
      have hstep := step_of_code hcode hfresh hquiet
      rw [runOut_call] at hstep
      simp only [ChannelState.answer, hr] at hstep
      exact .receiver hrecv ha (hsec r) hcode hstep rfl
    · cases hp
      exact .jammed hrecv (hjam r)
  | sender tx =>
    rw [hagent] at hrunning
    obtain ⟨hone, hwithin, hclone⟩ := sender_code hcode hagent
    have hsec : ∀ κ, InSection (k r) (c.shared.data, κ) := by
      intro κ
      have hfd : 0 ≤ a.newFd → κ.nextFd = a.newFd := by
        cases a with
        | fromBlockingReceiver this info fd => cases hagent
        | _ => exact fun h => absurd h (show ¬ (0 : Int) ≤ -1 by decide)
      rcases codeOf_takes hcode ha (w := (c.shared.data, κ)) hfd with ⟨h, -⟩ | ⟨rfl, -⟩
      · obtain ⟨_, _, hp, -, hsec⟩ := h
        cases hp
        exact hsec r
      · cases hagent
    have hsend : Sending ⟨c.shared, some (.sender tx),
        update c.running (.sender tx) (some ⟨a, k r⟩)⟩ tx a (k r) :=
      ⟨rfl, hrunning, hagent, hsec, hwithin.2 r⟩
    refine .before hsend hcode ?_ rfl ?_ fun new h => (hclone new h).2 r
    · intro κ
      rw [run_call, hr]
    · exact hone.elim (fun h => h.2 r) fun h => (h r).oneEffect

/-- An access of the task that has the mutex and is not at its end. -/
theorem leaves_of_reaches {D : Op T → Prop} {Q : Code T (Publish T) → Prop} {op : Op T}
    {k : op.Ret → Code T (Publish T)} {w : World T}
    (h : (Prog.call op k).Reaches Op.answer (fun op => op.mutexUse = .leaves) D Q w)
    (hQ : D op → ¬ Q (k (op.answer w).1)) :
    op.mutexUse = .leaves ∧ (k (op.answer w).1).Reaches Op.answer
      (fun op => op.mutexUse = .leaves) D Q (op.answer w).2 :=
  h.resolve_left fun h => hQ h.1 h.2

theorem not_reaches {C D : Op T → Prop} {Q : Code T (Publish T) → Prop}
    {p : Code T (Publish T)} {x : Exit (Publish T)} (h : p.outcome = some x) (w : World T) :
    ¬ p.Reaches Op.answer C D Q w := by
  cases p with
  | call op k => cases h
  | _ => exact id

theorem runOut_finishing {s : ChannelState T} {a : Act T} {p : Code T (Publish T)}
    {x : Exit (Publish T)} {d : SharedChannelData T}
    (h : ∀ k, p.run Op.answer (s.data, k) = (x, (d, k))) :
    s.runOut a p = settle a x { s with data := d } := by
  simp only [ChannelState.runOut, ChannelState.world, h]
  rfl

/-- The step of a sender that is still before its call. -/
theorem step_of_before {s : ChannelState T} {tx : TxId} {a : Act T}
    {p rest : Code T (Publish T)} {d : SharedChannelData T} (ha : a.agent = .sender tx)
    (hcode : codeOf ws owned s a = some p)
    (hrun : ∀ k, p.run Op.answer (d, k) = rest.run Op.answer (s.data, k)) (hfresh : a.Fresh s) :
    step ws { s with data := d } a = some (s.runOut a rest) := by
  have hcode' : codeOf ws owned { s with data := d } a = some p :=
    (codeOf_live ha rfl).trans hcode
  have hfresh' : a.Fresh { s with data := d } := by
    cases a with
    | clone tx new => exact hfresh
    | _ => trivial
  rw [step_of_code hcode' hfresh' (by rintro rfl; cases ha)]
  simp only [ChannelState.runOut, ChannelState.world]
  exact congrArg some (by rw [← hrun]; rfl)

theorem within_epollFd {tx : TxId} {p : Code T (Publish T)}
    (h : p.Within SenderOp (SenderPublish tx)) (w : World T) :
    (p.run Op.answer w).2.1.epollFd = w.1.epollFd ∧
      ∀ f, (p.run Op.answer w).1 = .returned f → SenderPublish tx f := by
  refine h.run (I := fun w' : World T => w'.1.epollFd = w.1.epollFd) ?_ rfl
  intro op w' hop hw'
  cases op with
  | store x v =>
    cases x with
    | epollFd => exact absurd rfl hop
    | _ => exact hw'
  | _ => exact hw'

/-- A private access of a sender in its section. -/
theorem Sending.access {c : CallState T} {tx : TxId} {a : Act T} {op : Op T}
    {k : op.Ret → Code T (Publish T)} {r : op.Ret} {s' : ChannelState T}
    (h : Sending c tx a (.call op k)) (hop : Private Op.answer op)
    (hr : c.shared.answer a.newFd op = (r, s')) (hnone : (k r).outcome = none)
    {running : Agent → Option (Running T)} (hrunning : running (.sender tx) = some ⟨a, k r⟩) :
    ∃ d, s' = { c.shared with data := d } ∧
      (∀ κ, op.answer (c.shared.data, κ) = (r, (d, κ))) ∧
      Sending ⟨s', c.owner, running⟩ tx a (k r) := by
  obtain ⟨d, rfl, hanswer⟩ := answer_private hop hr
  refine ⟨d, rfl, hanswer, h.owner, hrunning, h.agent, ?_, h.within.2 r⟩
  intro κ
  have hsec := h.inSection κ
  rcases hsec with hend | ⟨-, hsec⟩
  · rw [hanswer] at hend
    exact absurd hnone hend.2
  · rwa [hanswer] at hsec

/-- An access in a section leaves the mutex where it is. -/
theorem owner_of_leaves {u : MutexUse} {agent : Agent} {owner owner' : Option Agent}
    (h : u = .leaves) (howner : u.owner agent owner = some owner') : owner' = owner := by
  subst h
  exact (Option.some.inj howner).symm

theorem owner_of_takes {u : MutexUse} {agent : Agent} {owner owner' : Option Agent}
    (h : u = .takes) (howner : u.owner agent owner = some owner') :
    owner = none ∧ owner' = some agent := by
  subst h
  obtain ⟨hfree, howner⟩ := Option.ite_none_right_eq_some.mp howner
  exact ⟨hfree, (Option.some.inj howner).symm⟩

theorem not_takes_of_owner {u : MutexUse} {agent agent' : Agent} {owner owner' : Option Agent}
    (h : owner = some agent') (howner : u.owner agent owner = some owner') : u ≠ .takes := by
  rintro rfl
  simp [MutexUse.owner, h] at howner

/-- **The one call that shows**: the section takes place. -/
theorem Sending.effect {c : CallState T} {tx : TxId} {a : Act T} {op : Op T}
    {k : op.Ret → Code T (Publish T)} {p : Code T (Publish T)} {r : op.Ret}
    {s' : ChannelState T} {d : SharedChannelData T} {running : Agent → Option (Running T)}
    (h : Sending c tx a (.call op k)) (hcode : codeOf ws owned c.shared a = some p)
    (hsame : ∀ κ, p.run Op.answer (d, κ) = (Prog.call op k).run Op.answer (c.shared.data, κ))
    (hone : (Prog.call op k).OneEffect Op.answer)
    (hclone : ∀ new, a = .clone tx new → (Prog.call op k).Finishing Op.answer)
    (hop : ¬ Private Op.answer op) (hr : c.shared.answer a.newFd op = (r, s'))
    (hnone : (k r).outcome = none) (hrunning : running (.sender tx) = some ⟨a, k r⟩) :
    ∃ o t, Step ws { c.shared with data := d } ⟨a, o⟩ t ∧
      Linearized ws owned ⟨s', c.owner, running⟩ [⟨a, o⟩] t := by
  have hfin : (k r).Finishing Op.answer := (hone.resolve_left fun h => hop h.1) r
  have hfresh : a.Fresh c.shared := by
    cases a with
    | clone tx' new =>
      cases h.agent
      exact absurd (hclone new rfl).1 hop
    | _ => trivial
  have hstep := step_of_before h.agent hcode hsame hfresh
  obtain ⟨x, d', hx⟩ := hfin.run_eq s'.data
  rw [runOut_call, hr, runOut_finishing hx] at hstep
  -- what it publishes is settled by now
  obtain ⟨hkeep, hpub⟩ := within_epollFd (h.within.2 r) (s'.world a.newFd)
  simp only [ChannelState.world, hx] at hkeep hpub
  obtain ⟨o, live, hsettle, -⟩ := leaves_of_publish h.agent hpub
  rw [hsettle] at hstep
  have hsec : ∀ κ, InSection (k r) (s'.data, κ) := by
    have hr₁ : (op.answer (c.shared.world a.newFd)).1 = r := congrArg Prod.fst hr
    have hs' : (op.answer (c.shared.world a.newFd)).2.1 = s'.data :=
      congrArg ChannelState.data (congrArg Prod.snd hr)
    obtain ⟨-, hsec⟩ := leaves_of_reaches (h.inSection (c.shared.kernel a.newFd))
      fun _ h => h (hr₁ ▸ hnone)
    have hsec : InSection (k r) (op.answer (c.shared.world a.newFd)).2 := hr₁ ▸ hsec
    have hw : (op.answer (c.shared.world a.newFd)).2 =
        (s'.data, (op.answer (c.shared.world a.newFd)).2.2) := by rw [← hs']
    rw [hw] at hsec
    exact hfin.reaches hsec
  exact ⟨o, _, hstep, .after ⟨h.owner, hrunning, h.agent, hsec, h.within.2 r⟩ hfin hx hkeep hsettle⟩

/-- **One access** of the task that has the mutex. It leaves the account as
it is, or it is the one at which the section takes place. -/
theorem linearized_access {c : CallState T} {agent : Agent} {a : Act T} {op : Op T}
    {r : op.Ret} {k : op.Ret → Code T (Publish T)} {owner : Option Agent} {s' t : ChannelState T}
    {pending : List (Label T)} (running : Agent → Option (Running T))
    (h : Linearized ws owned c pending t) (hagent : c.owner = some agent)
    (hrun : c.running agent = some ⟨a, .call op k⟩)
    (howner : op.mutexUse.owner agent c.owner = some owner)
    (hr : c.shared.answer a.newFd op = (r, s')) (hnone : (k r).outcome = none)
    (hrunning : running agent = some ⟨a, k r⟩) :
    owner = some agent ∧ DoneBy agent c.shared s' ∧
      (Linearized ws owned ⟨s', owner, running⟩ pending t ∨
        (pending = [] ∧ a.bySender = true ∧ ∃ o t', Step ws t ⟨a, o⟩ t' ∧
          Linearized ws owned ⟨s', owner, running⟩ [⟨a, o⟩] t')) := by
  have hr₁ : (op.answer (c.shared.world a.newFd)).1 = r := congrArg Prod.fst hr
  have hs' : (c.shared.answer a.newFd op).2 = s' := congrArg Prod.snd hr
  cases h with
  | free h => exact nomatch h.symm.trans hagent
  | receiver hrecv ha hsec hcode hstep hlive =>
    cases hrecv.owner.symm.trans hagent
    cases hrecv.running.symm.trans hrun
    obtain ⟨hleaves, hsec⟩ := leaves_of_reaches hsec fun _ h => h (hr₁ ▸ hnone)
    cases owner_of_leaves hleaves howner
    rw [runOut_call, hr] at hstep
    rw [hr₁] at hsec
    subst hs'
    exact ⟨hagent, rfl, .inl (.receiver ⟨hagent, hrunning⟩ ha (reaches_answer hsec) hcode hstep
      hlive)⟩
  | jammed hrecv hjam =>
    cases hrecv.owner.symm.trans hagent
    cases hrecv.running.symm.trans hrun
    have hnot := not_takes_of_owner hagent howner
    obtain ⟨hleaves, hjam⟩ := leaves_of_reaches hjam fun h => absurd h hnot
    cases owner_of_leaves hleaves howner
    rw [hr₁] at hjam
    subst hs'
    exact ⟨hagent, rfl, .inl (.jammed ⟨hagent, hrunning⟩ (reaches_answer hjam))⟩
  | @before tx _ p _ d hsend hcode hsame hfd hone hclone =>
    cases hsend.owner.symm.trans hagent
    cases hsend.running.symm.trans hrun
    obtain ⟨hleaves, hsec⟩ := leaves_of_reaches (hsend.inSection _) fun _ h => h (hr₁ ▸ hnone)
    cases owner_of_leaves hleaves howner
    have hdone : SentBy tx c.shared s' := hs' ▸ answer_sentBy tx c.shared _ hsend.within.1
    refine ⟨hagent, hdone, ?_⟩
    by_cases hprivate : Private Op.answer op
    · obtain ⟨d', rfl, hanswer, hsend'⟩ := hsend.access hprivate hr hnone hrunning
      refine .inl (.before (p := p) hsend' ((codeOf_live hsend.agent rfl).trans hcode) ?_
        (hfd.trans hdone.epollFd.symm) ?_ fun new h => (hclone new h).2 r)
      · intro κ
        rw [hsame κ, run_call, hanswer κ]
      · exact hone.elim (fun h => h.2 r) fun h => (h r).oneEffect
    · exact .inr ⟨rfl, bySender_of_agent hsend.agent,
        hsend.effect hcode hsame hone hclone hprivate hr hnone hrunning⟩
  | @after tx _ _ x d o live hsend hfin hsame hfd hsettle =>
    cases hsend.owner.symm.trans hagent
    cases hsend.running.symm.trans hrun
    obtain ⟨hleaves, -⟩ := leaves_of_reaches (hsend.inSection _) fun _ h => h (hr₁ ▸ hnone)
    cases owner_of_leaves hleaves howner
    have hdone : SentBy tx c.shared s' := hs' ▸ answer_sentBy tx c.shared _ hsend.within.1
    obtain ⟨d', rfl, hanswer, hsend'⟩ := hsend.access hfin.1 hr hnone hrunning
    refine ⟨hagent, hdone, .inl (.after hsend' (hfin.2 r) ?_ (hfd.trans hdone.epollFd.symm)
      hsettle)⟩
    intro κ
    rw [← hsame κ, run_call, hanswer κ]

theorem SentBy.withLive {tx : TxId} {s s' : ChannelState T} (h : SentBy tx s s')
    {live : List TxId} (hlive : ∀ tx', tx' ≠ tx → tx' ∈ s'.live → tx' ∈ live) :
    SentBy tx s { s' with live } :=
  { h with live := fun tx' hne htx => hlive tx' hne (h.live tx' hne htx) }

/-- At the end of a sender's operation. -/
theorem Sending.done {c : CallState T} {tx : TxId} {a : Act T} {op : Op T} {r : op.Ret}
    {k : op.Ret → Code T (Publish T)} {x : Exit (Publish T)} {s' : ChannelState T}
    (h : Sending c tx a (.call op k)) (hr : c.shared.answer a.newFd op = (r, s'))
    (hx : (k r).outcome = some x) : SentBy tx c.shared (settle a x s').2 := by
  have hpub : ∀ f, x = .returned f → SenderPublish tx f := by
    have := h.within.2 r
    cases hk : k r with
    | call op' k' => rw [hk] at hx; cases hx
    | ret f =>
      rw [hk] at hx this
      cases hx
      intro f' hf'
      cases hf'
      exact this
    | fail msg =>
      rw [hk] at hx
      cases hx
      nofun
  obtain ⟨o, live, hsettle, hlive⟩ := leaves_of_publish h.agent hpub
  rw [hsettle]
  have hs' : (c.shared.answer a.newFd op).2 = s' := congrArg Prod.snd hr
  have hdone : SentBy tx c.shared s' := hs' ▸ answer_sentBy tx c.shared _ h.within.1
  exact hdone.withLive (hlive _)

theorem owner_of_releases {u : MutexUse} {agent : Agent} {owner owner' : Option Agent}
    (h : u = .releases) (howner : u.owner agent owner = some owner') : owner' = none := by
  subst h
  exact (Option.some.inj howner).symm

/-- **The last step** of an operation: the section takes place now, or it
has before. -/
theorem linearized_finish {c : CallState T} {agent : Agent} {a : Act T} {op : Op T}
    {r : op.Ret} {k : op.Ret → Code T (Publish T)} {owner : Option Agent} {s' t : ChannelState T}
    {pending : List (Label T)} {x : Exit (Publish T)}
    (h : Linearized ws owned c pending t) (hagent : c.owner = some agent)
    (hrun : c.running agent = some ⟨a, .call op k⟩) (hact : a.agent = agent)
    (howner : op.mutexUse.owner agent c.owner = some owner)
    (hr : c.shared.answer a.newFd op = (r, s')) (hx : (k r).outcome = some x)
    (hfresh : a.Fresh s') :
    owner = none ∧ DoneBy agent c.shared (settle a x s').2 ∧
      ((pending = [] ∧ (⟨a, (settle a x s').1⟩ : Label T).locked = true ∧
          Step ws t ⟨a, (settle a x s').1⟩ (settle a x s').2) ∨
        (a.bySender = true ∧ pending = [⟨a, (settle a x s').1⟩] ∧ t = (settle a x s').2)) := by
  have hr₁ : (op.answer (c.shared.world a.newFd)).1 = r := congrArg Prod.fst hr
  have hlast : ∀ {w : World T}, (op.answer w).1 = r → InSection (.call op k) w →
      op.mutexUse = .releases := by
    intro w hw hsec
    rcases hsec with ⟨hop, -⟩ | ⟨-, hsec⟩
    · exact hop
    · rw [hw] at hsec
      exact absurd hsec (not_reaches hx _)
  cases h with
  | free h => exact nomatch h.symm.trans hagent
  | receiver hrecv ha hsec hcode hstep hlive =>
    cases hrecv.owner.symm.trans hagent
    cases hrecv.running.symm.trans hrun
    rw [runOut_call, hr, runOut_over _ _ hx] at hstep
    have hlive' := (step_effect (l := ⟨a, (settle a x s').1⟩) hstep).own_live
      (bySender_of_receiver hact)
    exact ⟨owner_of_releases (hlast hr₁ hsec) howner, hlive'.trans hlive,
      .inl ⟨rfl, locked_of_code hcode ha hstep, hstep⟩⟩
  | jammed hrecv hjam =>
    cases hrecv.owner.symm.trans hagent
    cases hrecv.running.symm.trans hrun
    have hnot := not_takes_of_owner hagent howner
    obtain ⟨-, hjam⟩ := leaves_of_reaches hjam fun h => absurd h hnot
    rw [hr₁] at hjam
    exact absurd hjam (not_reaches hx _)
  | before hsend hcode hsame hfd hone hclone =>
    cases hsend.owner.symm.trans hagent
    cases hsend.running.symm.trans hrun
    have hfresh' : a.Fresh c.shared := by
      cases a with
      | clone tx' new =>
        have hs' : (c.shared.answer (-1) op).2 = s' := congrArg Prod.snd hr
        subst hs'
        exact hfresh
      | _ => trivial
    have hstep := step_of_before hsend.agent hcode hsame hfresh'
    rw [runOut_call, hr, runOut_over _ _ hx] at hstep
    exact ⟨owner_of_releases (hlast hr₁ (hsend.inSection _)) howner, hsend.done hr hx,
      .inl ⟨rfl, locked_of_sender (bySender_of_agent hsend.agent), hstep⟩⟩
  | @after tx _ _ y d o live hsend hfin hsame hfd hsettle =>
    cases hsend.owner.symm.trans hagent
    cases hsend.running.symm.trans hrun
    have hdone := hsend.done hr hx
    obtain ⟨d', rfl, hanswer⟩ := answer_private hfin.1 hr
    have hend : x = y ∧ d' = d := by
      have := hsame (c.shared.kernel a.newFd)
      rw [run_call, hanswer, run_of_outcome hx] at this
      simpa using this
    obtain ⟨rfl, rfl⟩ := hend
    refine ⟨owner_of_releases (hlast hr₁ (hsend.inSection _)) howner, hdone,
      .inr ⟨bySender_of_agent hsend.agent, ?_, ?_⟩⟩
    · rw [hsettle]
    · rw [hsettle]

/-- **A step without the mutex** can be made with the section in its
place. -/
theorem linearized_unlocked {c : CallState T} {s' t : ChannelState T} {l : Label T}
    {pending : List (Label T)} (running : Agent → Option (Running T))
    (h : Linearized ws owned c pending t) (hnot : c.owner ≠ some .receiver)
    (hlocked : l.locked = false) (hstep : Step ws c.shared l s')
    (hrunning : ∀ tx, running (.sender tx) = c.running (.sender tx)) :
    ∃ t', Step ws t l t' ∧ Linearized ws owned ⟨s', c.owner, running⟩ pending t' := by
  obtain ⟨hdata, hlive, -, hcommute⟩ := unlocked_step hlocked hstep
  have hsending : ∀ {tx a rest}, Sending c tx a rest →
      Sending ⟨s', c.owner, running⟩ tx a rest := fun h =>
    ⟨h.owner, (hrunning _).trans h.running, h.agent, hdata.symm ▸ h.inSection, h.within⟩
  cases h with
  | free h => exact ⟨s', hstep, .free (c := ⟨s', c.owner, running⟩) h⟩
  | receiver hrecv => exact absurd hrecv.owner hnot
  | jammed hrecv => exact absurd hrecv.owner hnot
  | @before tx a p rest d hsend hcode hsame hfd hone hclone =>
    refine ⟨_, hcommute _ _ hfd, ?_⟩
    have := Linearized.before (hsending hsend) ((codeOf_live hsend.agent hlive).trans hcode)
      (hdata.symm ▸ hsame) (hdata.symm ▸ hfd) hone hclone
    rwa [← hlive]
  | after hsend hfin hsame hfd hsettle =>
    refine ⟨_, hcommute _ _ hfd, ?_⟩
    have := @Linearized.after _ ws owned _ _ _ _ _ _ _ _ (hsending hsend) hfin
      (hdata.symm ▸ hsame) (hdata.symm ▸ hfd) hsettle
    rwa [← hlive]

/-! ## Runs -/

/-- Every task is in an operation of its own, and waits if it has not got
the mutex. -/
def InOrder (ws : WordSize) (owned : T → Nat) (c : CallState T) : Prop :=
  ∀ agent r, c.running agent = some r →
    r.act.agent = agent ∧ (c.owner ≠ some agent → AtRest ws owned c.shared r)

/-- There is a run with every section in its place. -/
def Explained (ws : WordSize) (owned : T → Nat) (events : EventQueueImpl)
    (tr : List (CallLabel T)) (c : CallState T) : Prop :=
  InOrder ws owned c ∧
    ∃ pending tr' t, RunFrom ws events tr' t ∧ Linearized ws owned c pending t ∧
      sections (completed tr) ++ pending = sections tr' ∧
      byReceiver (completed tr) = byReceiver tr'

/-- The others go on waiting while one task makes a step. -/
theorem InOrder.step {c c' : CallState T} {agent : Agent} {r : Option (Running T)}
    (h : InOrder ws owned c) (hdone : DoneBy agent c.shared c'.shared)
    (hrunning : c'.running = update c.running agent r)
    (howner : ∀ other, other ≠ agent → c'.owner ≠ some other → c.owner ≠ some other)
    (hr : ∀ r', r = some r' →
      r'.act.agent = agent ∧ (c'.owner ≠ some agent → AtRest ws owned c'.shared r')) :
    InOrder ws owned c' := by
  intro other r' hr'
  rw [hrunning] at hr'
  by_cases hother : other = agent
  · subst hother
    exact hr r' (by simpa using hr')
  · rw [update_of_ne hother] at hr'
    obtain ⟨hact, hrest⟩ := h other r' hr'
    refine ⟨hact, ?_⟩
    intro hne
    exact (hrest (howner other hother hne)).doneBy (hact ▸ hother) hdone

theorem running_of_owner {c : CallState T} {pending : List (Label T)} {t : ChannelState T}
    (h : Linearized ws owned c pending t) {agent : Agent} (hagent : c.owner = some agent) :
    ∃ r, c.running agent = some r := by
  cases h with
  | free h => exact nomatch h.symm.trans hagent
  | receiver h =>
    cases h.owner.symm.trans hagent
    exact ⟨_, h.running⟩
  | jammed h =>
    cases h.owner.symm.trans hagent
    exact ⟨_, h.running⟩
  | before h =>
    cases h.owner.symm.trans hagent
    exact ⟨_, h.running⟩
  | after h =>
    cases h.owner.symm.trans hagent
    exact ⟨_, h.running⟩

theorem doneBy_refl (agent : Agent) (s : ChannelState T) : DoneBy agent s s := by
  cases agent with
  | sender tx => exact ⟨rfl, rfl, .inl rfl, .inl rfl, rfl, fun _ _ h => h⟩
  | receiver => rfl

theorem Linearized.of_free {c : CallState T} {pending : List (Label T)} {t : ChannelState T}
    (h : Linearized ws owned c pending t) (hfree : c.owner = none) :
    pending = [] ∧ t = c.shared := by
  cases h with
  | free => exact ⟨rfl, rfl⟩
  | receiver h => exact nomatch h.owner.symm.trans hfree
  | jammed h => exact nomatch h.owner.symm.trans hfree
  | before h => exact nomatch h.owner.symm.trans hfree
  | after h => exact nomatch h.owner.symm.trans hfree

theorem Linearized.pending {c : CallState T} {pending : List (Label T)} {t : ChannelState T}
    (h : Linearized ws owned c pending t) :
    pending.length ≤ 1 ∧
      (∀ l ∈ pending, c.owner = some l.act.agent ∧
        ∃ p, c.running l.act.agent = some ⟨l.act, p⟩) ∧
      (c.owner = none → t = c.shared) := by
  refine ⟨?_, ?_, fun hfree => (h.of_free hfree).2⟩
  · cases h <;> simp
  · intro l hl
    cases h with
    | after hs =>
      cases List.mem_singleton.mp hl
      rw [hs.agent]
      exact ⟨hs.owner, _, hs.running⟩
    | _ => cases hl

theorem explained_start {events : EventQueueImpl} {tr : List (CallLabel T)} {c : CallState T}
    {a : Act T} {p : Code T (Publish T)} (h : Explained ws owned events tr c)
    (hnone : c.running a.agent = none) (hcode : codeOf ws owned c.shared a = some p) :
    Explained ws owned events (tr ++ [.start a])
      { c with running := update c.running a.agent (some ⟨a, p⟩) } := by
  obtain ⟨hin, pending, tr', t, hrun, hlin, hsec, hrec⟩ := h
  have hfree : c.owner ≠ some a.agent := by
    intro hagent
    obtain ⟨r, hr⟩ := running_of_owner hlin hagent
    exact nomatch hnone.symm.trans hr
  refine ⟨hin.step (doneBy_refl a.agent c.shared) rfl (fun _ _ => id) ?_, pending, tr', t, hrun,
    hlin.congr rfl rfl ?_, by simpa using hsec, by simpa using hrec⟩
  · rintro r' ⟨⟩
    exact ⟨rfl, fun _ => .start hcode⟩
  · intro agent hagent
    exact update_of_ne (by rintro rfl; exact hfree hagent) _ _

theorem AtRest.cases {s : ChannelState T} {r : Running T} (h : AtRest ws owned s r) :
    codeOf ws owned s r.act = some r.rest ∨
      (r.act = .callbackRead ∧ ∃ k, codeOf ws owned s .callbackRead =
        some (.call (.load .epollFd) k) ∧ r.rest = k s.data.epollFd) := by
  cases h with
  | start h => exact .inl h
  | reading h => exact .inr ⟨rfl, _, h, rfl⟩

/-- Code that is not the callback's begins with the mutex, and does not end
with it. -/
theorem takes_of_start {s : ChannelState T} {a : Act T} {op : Op T}
    {k : op.Ret → Code T (Publish T)} (hcode : codeOf ws owned s a = some (.call op k))
    (ha : a ≠ .callbackRead) : op.mutexUse = .takes ∧ ∀ r, (k r).outcome = none := by
  have hnone : ∀ {r C D Q w}, (k r).Reaches Op.answer C D Q w → (k r).outcome = none := by
    intro r C D Q w h
    cases hx : (k r).outcome with
    | none => rfl
    | some x => exact absurd h (not_reaches hx w)
  have hshape := codeOf_takes hcode ha (w := s.world a.newFd) fun _ => rfl
  rcases hshape with ⟨⟨_, _, hp, hop, hsec⟩, -⟩ | ⟨-, _, _, hp, hop, hjam⟩
  · cases hp
    exact ⟨hop, fun r => hnone (hsec r)⟩
  · cases hp
    exact ⟨hop, fun r => hnone (hjam r)⟩

theorem explained_access {events : EventQueueImpl} {tr : List (CallLabel T)} {c : CallState T}
    {agent : Agent} {a : Act T} {op : Op T} {r : op.Ret} {k : op.Ret → Code T (Publish T)}
    {owner : Option Agent} {s : ChannelState T} (h : Explained ws owned events tr c)
    (hrunning : c.running agent = some ⟨a, .call op k⟩)
    (howner : op.mutexUse.owner agent c.owner = some owner)
    (hr : c.shared.answer a.newFd op = (r, s)) (hnone : (k r).outcome = none) :
    Explained ws owned events (tr ++ [.access agent])
      ⟨s, owner, update c.running agent (some ⟨a, k r⟩)⟩ := by
  obtain ⟨hin, pending, tr', t, hrun, hlin, hsec, hrec⟩ := h
  obtain ⟨hact, hrest⟩ := hin agent _ hrunning
  by_cases hagent : c.owner = some agent
  · -- the task that has the mutex
    obtain ⟨rfl, hdone, hlin'⟩ := linearized_access (update c.running agent (some ⟨a, k r⟩))
      hlin hagent hrunning howner hr hnone (update_self ..)
    have hin' : InOrder ws owned ⟨s, some agent, update c.running agent (some ⟨a, k r⟩)⟩ := by
      refine hin.step hdone rfl (fun other _ h => hagent ▸ h) ?_
      rintro r' ⟨⟩
      exact ⟨hact, fun h => absurd rfl h⟩
    rcases hlin' with hlin' | ⟨rfl, ha, o, t', hstep, hlin'⟩
    · exact ⟨hin', pending, tr', t, hrun, hlin', by simpa using hsec, by simpa using hrec⟩
    · refine ⟨hin', _, _, t', hrun.snoc hstep, hlin', ?_, ?_⟩
      · rw [sections_snoc (locked_of_sender ha), ← hsec, completed_access, List.append_nil]
      · rw [byReceiver_sender ha, completed_access, hrec]
  · rcases (hrest hagent).cases with hcode | ⟨ha, k', hcode, hk⟩
    · by_cases ha : a = .callbackRead
      · -- the callback, which needs none
        subst ha
        subst hact
        cases callbackRead_code hcode
        cases hr
        cases howner
        refine ⟨hin.step (doneBy_refl _ _) rfl (fun _ _ => id) ?_, pending, tr', t, hrun,
          hlin.congr rfl rfl ?_, by simpa using hsec, by simpa using hrec⟩
        · rintro r' ⟨⟩
          exact ⟨rfl, fun _ => .reading hcode⟩
        · intro other hother
          exact update_of_ne (by rintro rfl; exact hagent hother) _ _
      · -- a task that has waited for the mutex
        obtain ⟨hop, -⟩ := takes_of_start hcode ha
        obtain ⟨r', hanswer⟩ := answer_takes hop
        simp only [ChannelState.answer, hanswer, Prod.mk.injEq] at hr
        obtain ⟨rfl, rfl⟩ := hr
        obtain ⟨hfree, rfl⟩ := owner_of_takes hop howner
        obtain ⟨rfl, rfl⟩ := hlin.of_free hfree
        subst hact
        refine ⟨hin.step (doneBy_refl _ _) rfl (by simp [hfree]) ?_, [], tr', _, hrun,
          linearized_take hcode hop hanswer, by simpa using hsec, by simpa using hrec⟩
        rintro r' ⟨⟩
        exact ⟨rfl, fun h => absurd rfl h⟩
    · -- the callback has one access left
      cases callbackRead_code hcode
      cases hk
      cases hnone

/-- What the receiving task does without the mutex. -/
theorem explained_unlocked {events : EventQueueImpl} {tr : List (CallLabel T)}
    {c : CallState T} {l : Label T} {s : ChannelState T} {running : Agent → Option (Running T)}
    (h : Explained ws owned events tr c) (hnot : c.owner ≠ some .receiver)
    (hlocked : l.locked = false) (hstep : Step ws c.shared l s)
    (hrunning : running = update c.running .receiver none) :
    Explained ws owned events (tr ++ [.done l]) ⟨s, c.owner, running⟩ := by
  subst hrunning
  obtain ⟨hin, pending, tr', t, hrun, hlin, hsec, hrec⟩ := h
  obtain ⟨-, hlive, hby, -⟩ := unlocked_step hlocked hstep
  have hdone : DoneBy .receiver c.shared s := hlive
  obtain ⟨t', hstep', hlin'⟩ := linearized_unlocked (update c.running .receiver none) hlin hnot
    hlocked hstep fun tx => update_of_ne (by simp) _ _
  refine ⟨hin.step hdone rfl (fun _ _ => id) nofun, pending, _, t', hrun.snoc hstep', hlin',
    ?_, ?_⟩
  · rw [completed_done, sections_outside hlocked, sections_outside hlocked, hsec]
  · rw [completed_done, byReceiver_snoc hby, byReceiver_snoc hby, hrec]

theorem explained_finish {events : EventQueueImpl} {tr : List (CallLabel T)} {c : CallState T}
    {agent : Agent} {a : Act T} {op : Op T} {r : op.Ret} {k : op.Ret → Code T (Publish T)}
    {owner : Option Agent} {s : ChannelState T} {x : Exit (Publish T)}
    (h : Explained ws owned events tr c) (hrunning : c.running agent = some ⟨a, .call op k⟩)
    (howner : op.mutexUse.owner agent c.owner = some owner)
    (hr : c.shared.answer a.newFd op = (r, s)) (hx : (k r).outcome = some x)
    (hfresh : a.Fresh s) :
    Explained ws owned events (tr ++ [.done ⟨a, (settle a x s).1⟩])
      ⟨(settle a x s).2, owner, update c.running agent none⟩ := by
  obtain ⟨hin, pending, tr', t, hrun, hlin, hsec, hrec⟩ := h
  obtain ⟨hact, hrest⟩ := hin agent _ hrunning
  by_cases hagent : c.owner = some agent
  · -- the task that has the mutex
    obtain ⟨rfl, hdone, hend⟩ := linearized_finish hlin hagent hrunning hact howner hr hx hfresh
    have hin' : InOrder ws owned ⟨(settle a x s).2, none, update c.running agent none⟩ :=
      hin.step hdone rfl (fun other hne _ h => hne (Option.some.inj (h.symm.trans hagent))) nofun
    rcases hend with ⟨rfl, hlocked, hstep⟩ | ⟨ha, rfl, rfl⟩
    · refine ⟨hin', [], _, _, hrun.snoc hstep, .free rfl, ?_, ?_⟩
      · rw [completed_done, sections_snoc hlocked, sections_snoc hlocked, ← hsec]
        simp
      · rw [completed_done]
        simp only [byReceiver, List.filter_append] at hrec ⊢
        rw [hrec]
    · refine ⟨hin', [], tr', _, hrun, .free rfl, ?_, ?_⟩
      · rw [completed_done, sections_snoc (locked_of_sender ha), List.append_nil, hsec]
      · rw [completed_done, byReceiver_sender ha, hrec]
  · rcases (hrest hagent).cases with hcode | ⟨ha, k', hcode, hk⟩
    · exfalso
      by_cases ha : a = .callbackRead
      · subst ha
        cases callbackRead_code hcode
        cases hx
      · have := (takes_of_start hcode ha).2 r
        exact nomatch this.symm.trans hx
    · -- the callback has read the eventfd
      cases ha
      subst hact
      have hop : op.mutexUse = .leaves := by
        cases callbackRead_code hcode
        cases hk
        rfl
      cases owner_of_leaves hop howner
      have hstep : step ws c.shared .callbackRead = some (settle .callbackRead x s) := by
        have hload : c.shared.answer (Act.callbackRead : Act T).newFd (.load .epollFd) =
            (c.shared.data.epollFd, c.shared) := rfl
        rw [step_of_code hcode trivial nofun, runOut_call, hload, ← hk, runOut_call, hr,
          runOut_over _ _ hx]
      exact explained_unlocked ⟨hin, pending, tr', t, hrun, hlin, hsec, hrec⟩ hagent rfl hstep rfl

/-- **Every step.** -/
theorem explained_step {events : EventQueueImpl} {tr : List (CallLabel T)} {c c' : CallState T}
    {l : CallLabel T} (h : Explained ws owned events tr c) (hstep : CallStep ws owned c l c') :
    Explained ws owned events (tr ++ [l]) c' := by
  cases hstep with
  | start hnone hcode => exact explained_start h hnone hcode
  | access hrunning howner hr hnone => exact explained_access h hrunning howner hr hnone
  | finish hrunning howner hr hx hfresh => exact explained_finish h hrunning howner hr hx hfresh
  | outside hnone hcode hstep =>
    have hfree : c.owner ≠ some .receiver := by
      intro hagent
      obtain ⟨-, pending, tr', t, -, hlin, -⟩ := h
      obtain ⟨r, hr⟩ := running_of_owner hlin hagent
      exact nomatch hnone.symm.trans hr
    exact explained_unlocked h hfree (unlocked_of_outside hcode hstep) hstep
      (by rw [← hnone, update_eq_self])

theorem explained {events : EventQueueImpl} {tr : List (CallLabel T)} {c : CallState T}
    (h : CallRun ws owned events tr c) : Explained ws owned events tr c :=
  h.traceInvariant ⟨nofun, [], [], _, .nil, .free rfl, rfl, rfl⟩ fun _ _ _ _ => explained_step

theorem guarded {events : EventQueueImpl} {tr : List (CallLabel T)} {c : CallState T}
    (h : Explained ws owned events tr c) : Guarded c := by
  intro agent a op k hrunning htouches
  by_cases hagent : c.owner = some agent
  · exact .inl hagent
  · right
    obtain ⟨-, hrest⟩ := h.1 agent _ hrunning
    rcases (hrest hagent).cases with hcode | ⟨rfl, k', hcode, hk⟩
    · by_cases ha : a = .callbackRead
      · subst ha
        cases callbackRead_code hcode
        exact ⟨rfl, rfl⟩
      · have hop := (takes_of_start hcode ha).1
        cases op with
        | load x => cases hop
        | store x v => cases hop
        | _ => cases htouches
    · cases callbackRead_code hcode
      cases hk
      cases htouches

/-- **Critical sections are atomic.** In every run access by access a task
touches the shared data only while it has the mutex. The sections of the
run, in the order in which they ended and with the results they had, are the
sections of a run in which each is one step; the one of the task that has
the mutex may be there already. What the receiving task does is the same and
in the same order as well. With the mutex free both are in the same state. -/
theorem sections_atomic {events : EventQueueImpl} {tr : List (CallLabel T)} {c : CallState T}
    (h : CallRun ws owned events tr c) :
    Guarded c ∧ ∃ pending tr' t, RunFrom ws events tr' t ∧
      sections (completed tr) ++ pending = sections tr' ∧
      byReceiver (completed tr) = byReceiver tr' ∧
      pending.length ≤ 1 ∧
      (∀ l ∈ pending, c.owner = some l.act.agent ∧
        ∃ p, c.running l.act.agent = some ⟨l.act, p⟩) ∧
      (c.owner = none → t = c.shared) := by
  have hguarded := guarded (explained h)
  obtain ⟨-, pending, tr', t, hrun, hlin, hsec, hrec⟩ := explained h
  exact ⟨hguarded, pending, tr', t, hrun, hsec, hrec, hlin.pending⟩

theorem CallRun.access {events : EventQueueImpl} {tr : List (CallLabel T)} {c : CallState T}
    {a : Act T} {op : Op T} {k : op.Ret → Code T (Publish T)} {owner : Option Agent}
    (h : CallRun ws owned events tr c) (agent : Agent)
    (hrunning : c.running agent = some ⟨a, .call op k⟩)
    (howner : op.mutexUse.owner agent c.owner = some owner)
    (hnone : (k (c.shared.answer a.newFd op).1).outcome = none) :
    CallRun ws owned events (tr ++ [.access agent])
      ⟨(c.shared.answer a.newFd op).2, owner,
        update c.running agent (some ⟨a, k (c.shared.answer a.newFd op).1⟩)⟩ :=
  h.snoc (.access hrunning howner rfl hnone)

theorem CallRun.finish {events : EventQueueImpl} {tr : List (CallLabel T)} {c : CallState T}
    {a : Act T} {op : Op T} {k : op.Ret → Code T (Publish T)} {owner : Option Agent}
    {x : Exit (Publish T)} (h : CallRun ws owned events tr c) (agent : Agent) (o : Out T)
    (hrunning : c.running agent = some ⟨a, .call op k⟩)
    (howner : op.mutexUse.owner agent c.owner = some owner)
    (hx : (k (c.shared.answer a.newFd op).1).outcome = some x)
    (hfresh : a.Fresh (c.shared.answer a.newFd op).2)
    (ho : (settle a x (c.shared.answer a.newFd op).2).1 = o) :
    CallRun ws owned events (tr ++ [.done ⟨a, o⟩])
      ⟨(settle a x (c.shared.answer a.newFd op).2).2, owner, update c.running agent none⟩ :=
  ho ▸ h.snoc (.finish hrunning howner rfl hx hfresh)

/-- A sender takes the mutex, and before it has signalled the receiving task
is woken for no reason. -/
def wokenMeanwhile : List (CallLabel Nat) :=
  [.start .recv, .access .receiver, .access .receiver, .access .receiver, .done ⟨.recv, .waits⟩,
    .start (.trySend 0 7), .access (.sender 0), .access (.sender 0), .access (.sender 0),
    .access (.sender 0), .access (.sender 0), .access (.sender 0), .access (.sender 0),
    .done ⟨.spuriousWakeup, .done⟩, .access (.sender 0), .access (.sender 0),
    .done ⟨.trySend 0 7, .sent true⟩]

theorem wokenMeanwhile_run (ws : WordSize) (owned : Nat → Nat) (events : EventQueueImpl) :
    ∃ c, CallRun ws owned events wokenMeanwhile c ∧ c.owner = none := by
  have h₀ : CallRun ws owned events [] ⟨initial Nat events, none, fun _ => none⟩ := .nil
  have h₁ := h₀.snoc (.start (a := .recv) rfl rfl)
  have h₂ := ((CallRun.access h₁ .receiver rfl rfl rfl).access .receiver rfl rfl rfl).access
    .receiver rfl rfl rfl
  have h₃ := h₂.finish .receiver .waits rfl rfl rfl trivial rfl
  have h₄ := h₃.snoc (.start (a := .trySend 0 7) rfl rfl)
  have h₅ := ((CallRun.access h₄ (.sender 0) rfl rfl rfl).access (.sender 0) rfl rfl rfl).access
    (.sender 0) rfl rfl rfl
  have h₆ := ((h₅.access (.sender 0) rfl rfl rfl).access (.sender 0) rfl rfl rfl).access
    (.sender 0) rfl rfl rfl
  have h₇ := h₆.access (.sender 0) rfl rfl rfl
  have h₈ := h₇.snoc (.outside (l := ⟨.spuriousWakeup, .done⟩) rfl rfl rfl)
  have h₉ := (CallRun.access h₈ (.sender 0) rfl rfl rfl).access (.sender 0) rfl rfl rfl
  exact ⟨_, h₉.finish (.sender 0) (.sent true) rfl rfl rfl trivial rfl, rfl⟩

theorem sections_atomic_wokenMeanwhile :
    ∃ tr' s, RunFrom .w64 ⟨3, []⟩ tr' s ∧
      sections tr' = [⟨.recv, .waits⟩, ⟨.trySend 0 7, .sent true⟩] := by
  obtain ⟨c, hc, hfree⟩ := wokenMeanwhile_run .w64 (fun _ => 0) ⟨3, []⟩
  obtain ⟨-, pending, tr', t, hrun, hsec, -, -, hpend, -⟩ := sections_atomic hc
  have hnone : pending = [] := List.eq_nil_iff_forall_not_mem.mpr fun l hl =>
    nomatch hfree.symm.trans (hpend l hl).1
  subst hnone
  exact ⟨tr', t, hrun, by rw [← hsec]; rfl⟩

end Revbio.Channel
