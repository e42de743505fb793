/-
Revbio.Channel.SectionTheorems — what the code of an operation looks like
from outside.

It takes the mutex first and gives it back last, and does not use it in
between (`codeOf_takes`). The one exception is the destructor of a
`BlockingReceiver` that meets a message with a Transmitter in it: that one
comes to a second lock.

Of what a sender does in its section at most one call can be seen without
the mutex, the write or the signal (`sender_code`).
-/
import Revbio.Channel.AccessTheorems

namespace Revbio.Channel

open CallTree Prog

variable {T : Type} {ws : WordSize} {owned : T → Nat}

/-! ## Sections -/

/-- Run from `w`, the code gives the mutex back with its last step, and does
not use it before. -/
def InSection {α : Type} (p : Code T α) (w : World T) : Prop :=
  p.Reaches Op.answer (fun op => op.mutexUse = .leaves) (fun op => op.mutexUse = .releases)
    (fun rest => rest.outcome ≠ none) w

/-- Run from `w`, the code comes to take the mutex, and does not use it
before. -/
def Jams {α : Type} (p : Code T α) (w : World T) : Prop :=
  p.Reaches Op.answer (fun op => op.mutexUse = .leaves) (fun op => op.mutexUse = .takes)
    (fun _ => True) w

/-- The code takes the mutex first. -/
def TakesThen {α : Type} (Q : Code T α → World T → Prop) (p : Code T α) (w : World T) : Prop :=
  ∃ op k, p = .call op k ∧ op.mutexUse = .takes ∧ ∀ r, Q (k r) w

section Sections

variable {α β : Type} {w : World T}

theorem inSection_leaves {op : Op T} {k : op.Ret → Code T α} (hop : op.mutexUse = .leaves) :
    InSection (.call op k) w ↔ InSection (k (op.answer w).1) (op.answer w).2 := by
  simp [InSection, Reaches, hop]

theorem inSection_releases {op : Op T} {k : op.Ret → Code T α} (hop : op.mutexUse = .releases) :
    InSection (.call op k) w ↔ (k (op.answer w).1).outcome ≠ none := by
  simp [InSection, Reaches, hop]

@[simp] theorem inSection_load {x : Field} {k : x.Val T → Code T α} :
    InSection (.call (.load x) k) w ↔ InSection (k (dataGet w.1 x)) w := inSection_leaves rfl

@[simp] theorem inSection_store {x : Field} {v : x.Val T} {k : Unit → Code T α} :
    InSection (.call (.store x v) k) w ↔ InSection (k ()) (dataSet w.1 x v, w.2) :=
  inSection_leaves rfl

@[simp] theorem inSection_unlock {k : Unit → Code T α} :
    InSection (.call (.call (.once .mutexUnlock)) k) w ↔ (k ()).outcome ≠ none :=
  inSection_releases rfl

@[simp] theorem inSection_wait {k : Unit → Code T α} :
    InSection (.call (.call (.once .mutexWait)) k) w ↔ (k ()).outcome ≠ none :=
  inSection_releases rfl

@[simp] theorem inSection_retry {c : Syscall} {k : c.Ret → Code T α} :
    InSection (.call (.call (.retry c)) k) w ↔
      InSection (k (w.2.syscall c).1) (w.1, (w.2.syscall c).2) :=
  inSection_leaves rfl

theorem inSection_ite {c : Prop} [Decidable c] {p q : Code T α} (hp : c → InSection p w)
    (hq : ¬ c → InSection q w) : InSection (if c then p else q) w := by
  split
  · exact hp ‹_›
  · exact hq ‹_›

theorem inSection_notNotified {c : Bool} {f : Bool → Code T α} :
    InSection (Accesses.notNotified c >>= f) w ↔
      InSection (f (c && !w.1.receiverNotified)) w := by
  cases c with
  | true => exact inSection_load
  | false => rfl

theorem inSection_signalReceiver {f : Unit → Code T α} (h : ∀ w', InSection (f ()) w') :
    InSection (Accesses.signalReceiver >>= f) w := by
  unfold Accesses.signalReceiver
  simp only [Accesses.load, Accesses.store, Accesses.sys, Accesses.retry, call_bind, ret_bind,
    inSection_load]
  split
  · exact (inSection_leaves rfl).mpr (inSection_store.mpr (h _))
  · simp only [call_bind, inSection_load, inSection_retry, Kernel.syscall, dataGet]
    exact inSection_store.mpr (h _)

theorem inSection_bind {p : Code T α} {f : α → Code T β}
    (h : InSection p w) (hf : ∀ a, (f a).outcome ≠ none) : InSection (p >>= f) w := by
  induction p generalizing w with
  | ret a => exact h.elim
  | fail msg => exact h.elim
  | call op k ih =>
    rcases h with ⟨hop, hend⟩ | ⟨hop, hrest⟩
    · refine .inl ⟨hop, ?_⟩
      show (k (op.answer w).1 >>= f).outcome ≠ none
      cases hk : k (op.answer w).1 with
      | ret a => exact hf a
      | fail msg => nofun
      | call op' k' => exact absurd (by rw [hk]; rfl) hend
    · exact .inr ⟨hop, ih _ hrest⟩

theorem takesThen_bind {p : Code T α} {f : α → Code T β} (h : TakesThen InSection p w)
    (hf : ∀ a, (f a).outcome ≠ none) : TakesThen InSection (p >>= f) w := by
  obtain ⟨op, k, rfl, hop, hk⟩ := h
  exact ⟨op, _, rfl, hop, fun r => inSection_bind (hk r) hf⟩

theorem takesThen_relock {Q : Code T α → World T → Prop} {f : Unit → Code T α}
    (h : Q (f ()) w) : TakesThen Q (Accesses.relock >>= f) w :=
  ⟨_, _, rfl, rfl, fun _ => h⟩

theorem trySend_section (t : T) (w : World T) : TakesThen InSection (Accesses.trySend t) w := by
  unfold Accesses.trySend
  simp only [Accesses.load, Accesses.store, Accesses.sys, call_bind, ret_bind]
  refine ⟨_, _, rfl, rfl, fun _ => ?_⟩
  simp only [inSection_load, dataGet]
  refine inSection_ite (fun _ => by simp [outcome]) fun _ => ?_
  simp only [inSection_load, inSection_store, inSection_notNotified]
  refine inSection_ite (fun _ => ?_) fun _ => by simp [outcome]
  exact inSection_signalReceiver fun _ => by simp [outcome]

theorem dropTransmitter_section (w : World T) :
    TakesThen InSection (Accesses.dropTransmitter ws) w := by
  unfold Accesses.dropTransmitter
  simp only [Accesses.load, Accesses.store, Accesses.sys, call_bind, ret_bind]
  refine ⟨_, _, rfl, rfl, fun _ => ?_⟩
  simp only [inSection_load, inSection_store, inSection_notNotified]
  refine inSection_ite (fun _ => ?_) fun _ => by simp [outcome]
  exact inSection_signalReceiver fun _ => by simp [outcome]

theorem clone_section (w : World T) : TakesThen InSection Accesses.clone w := by
  unfold Accesses.clone
  simp only [Accesses.load, Accesses.store, Accesses.sys, call_bind, ret_bind]
  exact ⟨_, _, rfl, rfl, fun _ => by simp [outcome]⟩

theorem recvTurn_inSection (w : World T) : InSection Accesses.recvTurn w := by
  obtain ⟨⟨queue, alive, senders, notified, fd⟩, k⟩ := w
  unfold Accesses.recvTurn Accesses.mustWait
  cases queue with
  | nil => by_cases hs : senders = 0 <;> simp [hs, outcome]
  | cons t rest => simp [outcome]

theorem recvOptTurn_inSection (w : World T) : InSection Accesses.recvOptTurn w := by
  obtain ⟨⟨queue, alive, senders, notified, fd⟩, k⟩ := w
  unfold Accesses.recvOptTurn Accesses.mustWait
  cases queue with
  | nil =>
    by_cases hs : senders = 0 <;>
      simp [hs, outcome]
  | cons t rest => simp [outcome]

theorem tryRecv_section (w : World T) : TakesThen InSection Accesses.tryRecv w := by
  obtain ⟨⟨queue, alive, senders, notified, fd⟩, k⟩ := w
  unfold Accesses.tryRecv
  refine ⟨_, _, rfl, rfl, fun _ => ?_⟩
  show InSection (Accesses.load .queue >>= _) _
  cases queue <;> simp [outcome]

theorem receiverRecvTurn_inSection (r : Receiver) (w : World T) :
    InSection (Accesses.receiverRecvTurn r) w :=
  inSection_bind (recvTurn_inSection w) fun _ => nofun

theorem inSection_registerFd {q : EventQueueImpl} {fd : Fd} {events : UInt32} {p : Ptr}
    {f : Unit → Code T α} :
    InSection (Accesses.calls (q.registerFd fd events p) >>= f) w ↔ InSection (f ()) w :=
  (inSection_leaves rfl).trans Iff.rfl

theorem fromBlockingReceiver_section (this : Ptr) (info : SourceId) (q : EventQueueImpl)
    {w : World T} (hfd : w.2.nextFd ≠ -1) :
    TakesThen InSection (Accesses.fromBlockingReceiver this info q) w := by
  unfold Accesses.fromBlockingReceiver
  simp only [Accesses.load, Accesses.store, Accesses.sys, Accesses.retry, call_bind, ret_bind]
  refine ⟨_, _, rfl, rfl, fun _ => ?_⟩
  simp only [inSection_load]
  refine inSection_ite (fun _ => ?_) fun _ => by simp [outcome]
  refine (inSection_leaves rfl).mpr (inSection_ite (fun h => absurd h hfd) fun _ => ?_)
  simp only [inSection_store, inSection_registerFd, inSection_load]
  refine inSection_ite (fun _ => ?_) fun _ => by simp [outcome]
  refine inSection_retry.mpr (inSection_ite (fun h => ?_) fun _ => ?_)
  · exact absurd h (show ¬ (8 : Int) = -1 by decide)
  · simp [outcome]

theorem announce_section (r : Receiver) (q : EventQueueImpl) (w : World T) :
    TakesThen InSection (Accesses.announce ws r q) w := by
  unfold Accesses.announce
  simp only [Accesses.load, Accesses.store, Accesses.sys, call_bind, ret_bind]
  exact ⟨_, _, rfl, rfl, fun _ => by simp [outcome]⟩

theorem dropReceiver_section (r : Receiver) (q : EventQueueImpl) (w : World T) :
    TakesThen InSection (Accesses.dropReceiver r q) w := by
  unfold Accesses.dropReceiver
  simp only [Accesses.load, Accesses.store, Accesses.sys, call_bind, ret_bind]
  refine ⟨_, _, rfl, rfl, fun _ => ?_⟩
  simp only [inSection_load]
  refine inSection_ite (fun _ => ?_) fun _ => by simp [outcome]
  refine inSection_load.mpr ((inSection_leaves rfl).mpr ?_)
  simp [outcome]

/-! The queue is cleared in the section, if that can be done. -/

theorem destroyAll_quiet {queue : List T} (h : ∀ t ∈ queue, owned t = 0) :
    Accesses.destroyAll ws owned queue = .ret () := by
  induction queue with
  | nil => rfl
  | cons t rest ih =>
    rw [Accesses.destroyAll, h t (List.mem_cons_self ..)]
    exact ih fun t ht => h t (List.mem_cons_of_mem _ ht)

/-- A message with a Transmitter in it. -/
theorem destroyAll_jams {queue : List T} (h : ∃ t ∈ queue, owned t ≠ 0)
    (f : Unit → Code T α) (w : World T) : Jams (Accesses.destroyAll ws owned queue >>= f) w := by
  induction queue with
  | nil => simp at h
  | cons t rest ih =>
    rw [Accesses.destroyAll]
    cases hn : owned t with
    | zero => exact ih (by simpa [hn] using h)
    | succ n => exact .inl ⟨rfl, trivial⟩

theorem dropBlockingReceiver_section {w : World T} (h : ∀ t ∈ w.1.queue, owned t = 0) :
    TakesThen InSection (Accesses.dropBlockingReceiver ws owned) w := by
  unfold Accesses.dropBlockingReceiver
  simp only [Accesses.load, Accesses.store, Accesses.sys, call_bind, ret_bind]
  refine ⟨_, _, rfl, rfl, fun _ => ?_⟩
  simp only [inSection_store, inSection_load, dataSet, dataGet, destroyAll_quiet h]
  simp [outcome]

theorem dropBlockingReceiver_jams {w : World T} (h : ∃ t ∈ w.1.queue, owned t ≠ 0)
    (f : Unit → Code T α) : TakesThen Jams (Accesses.dropBlockingReceiver ws owned >>= f) w := by
  unfold Accesses.dropBlockingReceiver
  simp only [Accesses.load, Accesses.store, Accesses.sys, call_bind, ret_bind]
  refine ⟨_, _, rfl, rfl, fun _ => .inr ⟨rfl, .inr ⟨rfl, ?_⟩⟩⟩
  show Jams ((Accesses.destroyAll ws owned w.1.queue >>= _) >>= f) _
  rw [bind_bind]
  exact destroyAll_jams h _ _

end Sections

/-- What an operation does to the mutex: it takes it first, and gives it
back at its end, unless it is the destructor of a `BlockingReceiver` that
meets a message with a Transmitter in it. -/
theorem codeOf_takes {s : ChannelState T} {a : Act T} {p : Code T (Publish T)}
    (h : codeOf ws owned s a = some p) (ha : a ≠ .callbackRead) {w : World T}
    (hfd : 0 ≤ a.newFd → w.2.nextFd = a.newFd) :
    (TakesThen InSection p w ∧ (a = .dropBlockingReceiver → ∀ t ∈ w.1.queue, owned t = 0)) ∨
      (a = .dropBlockingReceiver ∧ TakesThen Jams p w) := by
  have hret : ∀ {α : Type} (g : α → Publish T) (a : α),
      (Prog.ret (g a) : Code T (Publish T)).outcome ≠ none := fun _ _ => Option.some_ne_none _
  have hsection {a : Act T} {p : Code T (Publish T)} (hne : a ≠ .dropBlockingReceiver)
      (htakes : TakesThen InSection p w) :
      (TakesThen InSection p w ∧ (a = .dropBlockingReceiver → ∀ t ∈ w.1.queue, owned t = 0)) ∨
        (a = .dropBlockingReceiver ∧ TakesThen Jams p w) := .inl ⟨htakes, fun h => absurd h hne⟩
  cases a with
  | callbackRead => exact absurd rfl ha
  | spuriousWakeup => cases h
  | otherEvents evs => cases h
  | trySend tx t =>
    obtain ⟨-, hp⟩ := Option.ite_none_right_eq_some.mp h
    cases hp
    exact hsection (by simp) (takesThen_bind (trySend_section t w) (hret _))
  | clone tx new =>
    obtain ⟨-, hp⟩ := Option.ite_none_right_eq_some.mp h
    cases hp
    exact hsection (by simp) (takesThen_bind (clone_section w) (hret _))
  | dropTransmitter tx =>
    obtain ⟨-, hp⟩ := Option.ite_none_right_eq_some.mp h
    cases hp
    exact hsection (by simp) (takesThen_bind (dropTransmitter_section w) (hret _))
  | recv =>
    obtain ⟨-, hp⟩ := Option.ite_none_right_eq_some.mp h
    cases hp
    exact hsection (by simp)
      (takesThen_bind ⟨_, _, rfl, rfl, fun _ => recvTurn_inSection w⟩ (hret _))
  | recvOpt =>
    obtain ⟨-, hp⟩ := Option.ite_none_right_eq_some.mp h
    cases hp
    exact hsection (by simp)
      (takesThen_bind ⟨_, _, rfl, rfl, fun _ => recvOptTurn_inSection w⟩ (hret _))
  | tryRecv =>
    obtain ⟨-, hp⟩ := Option.ite_none_right_eq_some.mp h
    cases hp
    exact hsection (by simp) (takesThen_bind (tryRecv_section w) (hret _))
  | fromBlockingReceiver this info fd =>
    obtain ⟨hc, hp⟩ := Option.ite_none_right_eq_some.mp h
    cases hp
    have hfd : w.2.nextFd ≠ -1 := hfd hc.2.2 ▸ Fd.ne_none hc.2.2
    exact hsection (by simp)
      (takesThen_bind (fromBlockingReceiver_section this info s.events hfd) (hret _))
  | reacquire =>
    simp only [codeOf] at h
    split at h
    · cases h
      exact hsection (by simp) (takesThen_relock (inSection_bind (recvTurn_inSection w) (hret _)))
    · cases h
      exact hsection (by simp)
        (takesThen_relock (inSection_bind (recvOptTurn_inSection w) (hret _)))
    · cases h
      exact hsection (by simp)
        (takesThen_relock (inSection_bind (receiverRecvTurn_inSection _ w) (hret _)))
    · cases h
  | receiverRecv =>
    simp only [codeOf] at h
    split at h
    · rename_i r _ _
      obtain ⟨hcredit, hp⟩ := Option.ite_none_right_eq_some.mp h
      cases hp
      have htakes : TakesThen InSection (Accesses.receiverRecv r) w := by
        unfold Accesses.receiverRecv
        rw [if_pos hcredit]
        exact ⟨_, _, rfl, rfl, fun _ => receiverRecvTurn_inSection r w⟩
      exact hsection (by simp) (takesThen_bind htakes (hret _))
    · cases h
  | callbackLock =>
    simp only [codeOf] at h
    split at h
    · cases h
      exact hsection (by simp) (takesThen_bind (announce_section _ s.events w) (hret _))
    · cases h
  | dropReceiver =>
    simp only [codeOf] at h
    split at h
    · cases h
      exact hsection (by simp) (takesThen_bind (dropReceiver_section _ s.events w) (hret _))
    · cases h
  | dropBlockingReceiver =>
    obtain ⟨-, hp⟩ := Option.ite_none_right_eq_some.mp h
    cases hp
    by_cases howned : ∀ t ∈ w.1.queue, owned t = 0
    · exact .inl ⟨takesThen_bind (dropBlockingReceiver_section howned) (hret _), fun _ => howned⟩
    · exact .inr ⟨rfl, dropBlockingReceiver_jams (by simpa using howned) _⟩

/-! ## What a sender does -/

/-- What the code of a sender consists of. -/
def SenderOp : Op T → Prop
  | .load _ => True
  | .store x _ => x ≠ .epollFd
  | .call (.once .mutexLock) => True
  | .call (.once .mutexUnlock) => True
  | .call (.once .mutexSignal) => True
  | .call (.retry (.writeOne _)) => True
  | .call c => Reports c
  | .relock => False

/-- At its end a sender changes what Transmitters there are, and leaves
those of the others alone. -/
def SenderPublish (tx : TxId) (f : Publish T) : Prop :=
  ∃ (o : Out T) (live : List TxId → List TxId),
    (∀ s, f s = (o, { s with live := live s.live })) ∧
      ∀ l tx', tx' ≠ tx → tx' ∈ l → tx' ∈ live l

theorem calls_within {α : Type} {C : Call → Prop} {D : Op T → Prop} {P : α → Prop} {p : Io α}
    (h : p.Within C P) (hD : ∀ c, C c → D (.call c)) : (Accesses.calls p).Within D P := by
  induction p with
  | ret a => exact h
  | fail msg => trivial
  | call c k ih => exact ⟨hD c h.1, fun r => ih r (h.2 r)⟩

theorem reports_senderOp (c : Call) (h : Reports c) : SenderOp (.call c : Op T) :=
  h.each (P := fun c => SenderOp (.call c : Op T)) trivial trivial (fun _ => trivial)
    fun _ => trivial

theorem lastError_senderOp :
    (Accesses.calls lastError : Code T IoError).Within SenderOp fun _ => True :=
  calls_within lastError_reports reports_senderOp

theorem within_store {α : Type} {x : Field} {v : x.Val T} {k : Unit → Code T α} {P : α → Prop}
    (hx : x ≠ .epollFd) (hk : (k ()).Within SenderOp P) :
    (Prog.call (.store x v) k : Code T α).Within SenderOp P :=
  within_call hx fun _ => hk

theorem notNotified_within (c : Bool) :
    (Accesses.notNotified c : Code T Bool).Within SenderOp fun _ => True := by
  cases c with
  | true => exact within_call trivial fun _ => trivial
  | false => trivial

theorem signalReceiver_within :
    (Accesses.signalReceiver : Code T Unit).Within SenderOp fun _ => True := by
  unfold Accesses.signalReceiver
  simp only [Accesses.load, Accesses.store, Accesses.sys, Accesses.retry, call_bind, ret_bind]
  refine within_call trivial fun _ => within_ite ?_ ?_
  · exact within_call trivial fun _ => within_store (by simp) trivial
  · refine within_call trivial fun _ => within_call trivial fun _ => within_ite ?_ ?_
    · exact within_call trivial fun _ => within_bind lastError_senderOp fun _ _ => trivial
    · exact within_store (by simp) trivial

theorem trySend_within (t : T) :
    (Accesses.trySend t).Within SenderOp fun _ => True := by
  unfold Accesses.trySend
  simp only [Accesses.load, Accesses.store, Accesses.sys, call_bind, ret_bind]
  refine within_call trivial fun _ => within_call trivial fun _ => within_ite ?_ ?_
  · exact within_call trivial fun _ => trivial
  · refine within_call trivial fun _ => within_store (by simp) <| within_call trivial fun _ => ?_
    refine within_bind (notNotified_within _) fun _ _ => within_ite ?_ ?_
    · exact within_bind signalReceiver_within fun _ _ => within_call trivial fun _ => trivial
    · exact within_call trivial fun _ => trivial

theorem dropTransmitter_within :
    (Accesses.dropTransmitter ws : Code T Unit).Within SenderOp fun _ => True := by
  unfold Accesses.dropTransmitter
  simp only [Accesses.load, Accesses.store, Accesses.sys, call_bind, ret_bind]
  refine within_call trivial fun _ => within_call trivial fun _ => within_store (by simp) ?_
  refine within_call trivial fun _ => within_bind (notNotified_within _) fun _ _ =>
    within_ite ?_ ?_
  · exact within_bind signalReceiver_within fun _ _ => within_call trivial fun _ => trivial
  · exact within_call trivial fun _ => trivial

theorem clone_within : (Accesses.clone : Code T Unit).Within SenderOp fun _ => True := by
  unfold Accesses.clone
  simp only [Accesses.load, Accesses.store, Accesses.sys, call_bind, ret_bind]
  exact within_call trivial fun _ => within_call trivial fun _ => within_store (by simp) <|
    within_call trivial fun _ => trivial

/-! ### One call that others can see -/

theorem private_load (x : Field) : Private Op.answer (.load x : Op T) :=
  fun d => ⟨dataGet d x, d, fun _ => rfl⟩

theorem private_store (x : Field) (v : x.Val T) : Private Op.answer (.store x v) :=
  fun d => ⟨(), dataSet d x v, fun _ => rfl⟩

theorem private_lock : Private Op.answer (.call (.once .mutexLock) : Op T) :=
  fun d => ⟨(), d, fun _ => rfl⟩

theorem private_unlock : Private Op.answer (.call (.once .mutexUnlock) : Op T) :=
  fun d => ⟨(), d, fun _ => rfl⟩

theorem private_reports (c : Call) (h : Reports c) : Private Op.answer (.call c : Op T) :=
  h.each (P := fun c => Private Op.answer (.call c : Op T)) (fun d => ⟨_, d, fun _ => rfl⟩)
    (fun d => ⟨_, d, fun _ => rfl⟩) (fun _ d => ⟨_, d, fun _ => rfl⟩)
    fun _ d => ⟨_, d, fun _ => rfl⟩

theorem lastError_finishing : (Accesses.calls lastError : Code T IoError).Finishing Op.answer := by
  have hcalls : ∀ {α : Type} {P : α → Prop} (p : Io α), p.Within Reports P →
      (Accesses.calls p : Code T α).Finishing Op.answer := by
    intro α P p h
    induction p with
    | ret a => trivial
    | fail msg => trivial
    | call c k ih => exact ⟨private_reports c h.1, fun r => ih r (h.2 r)⟩
  exact hcalls lastError lastError_reports

theorem unlock_finishing {α : Type} (a : α) :
    (Prog.call (.call (.once .mutexUnlock)) fun _ => .ret a : Code T α).Finishing Op.answer :=
  finishing_call private_unlock fun _ => trivial

theorem notNotified_finishing (c : Bool) :
    (Accesses.notNotified c : Code T Bool).Finishing Op.answer := by
  cases c with
  | true => exact finishing_call (private_load _) fun _ => trivial
  | false => trivial

theorem signalReceiver_oneEffect : (Accesses.signalReceiver : Code T Unit).OneEffect Op.answer := by
  unfold Accesses.signalReceiver
  simp only [Accesses.load, Accesses.store, Accesses.sys, Accesses.retry, call_bind, ret_bind]
  refine oneEffect_private (private_load _) fun _ => oneEffect_ite ?_ ?_
  · exact oneEffect_call fun _ => finishing_call (private_store _ _) fun _ => trivial
  · refine oneEffect_private (private_load _) fun _ => oneEffect_call fun _ => finishing_ite ?_ ?_
    · exact finishing_call private_unlock fun _ => lastError_finishing.bind fun _ => trivial
    · exact finishing_call (private_store _ _) fun _ => trivial

theorem trySend_oneEffect (t : T) : (Accesses.trySend t).OneEffect Op.answer := by
  unfold Accesses.trySend
  simp only [Accesses.load, Accesses.store, Accesses.sys, call_bind, ret_bind]
  refine oneEffect_private private_lock fun _ => oneEffect_private (private_load _) fun _ =>
    oneEffect_ite (unlock_finishing _).oneEffect ?_
  refine oneEffect_private (private_load _) fun _ => oneEffect_private (private_store _ _) fun _ =>
    oneEffect_private (private_load _) fun _ => ?_
  refine (notNotified_finishing _).bind_oneEffect fun _ => oneEffect_ite ?_ ?_
  · exact signalReceiver_oneEffect.bind fun _ => unlock_finishing _
  · exact (unlock_finishing _).oneEffect

theorem dropTransmitter_oneEffect :
    (Accesses.dropTransmitter ws : Code T Unit).OneEffect Op.answer := by
  unfold Accesses.dropTransmitter
  simp only [Accesses.load, Accesses.store, Accesses.sys, call_bind, ret_bind]
  refine oneEffect_private private_lock fun _ => oneEffect_private (private_load _) fun _ =>
    oneEffect_private (private_store _ _) fun _ => oneEffect_private (private_load _) fun _ => ?_
  refine (notNotified_finishing _).bind_oneEffect fun _ => oneEffect_ite ?_ ?_
  · exact signalReceiver_oneEffect.bind fun _ => unlock_finishing _
  · exact (unlock_finishing _).oneEffect

theorem clone_finishing : (Accesses.clone : Code T Unit).Finishing Op.answer := by
  unfold Accesses.clone
  simp only [Accesses.load, Accesses.store, Accesses.sys, call_bind, ret_bind]
  exact finishing_call private_lock fun _ => finishing_call (private_load _) fun _ =>
    finishing_call (private_store _ _) fun _ => unlock_finishing _

/-- **The code of a sender**: it makes one call that others can see, a
`clone` none, and keeps to what a sender does. -/
theorem sender_code {s : ChannelState T} {a : Act T} {p : Code T (Publish T)} {tx : TxId}
    (h : codeOf ws owned s a = some p) (ha : a.agent = .sender tx) :
    p.OneEffect Op.answer ∧ p.Within SenderOp (SenderPublish tx) ∧
      (∀ new, a = .clone tx new → p.Finishing Op.answer) := by
  cases a with
  | trySend tx' t =>
    obtain ⟨-, hp⟩ := Option.ite_none_right_eq_some.mp h
    cases hp
    refine ⟨(trySend_oneEffect t).bind fun _ => trivial, ?_, nofun⟩
    refine within_bind (trySend_within t) fun ok _ => ?_
    exact ⟨.sent ok, id, fun _ => rfl, fun _ _ _ h => h⟩
  | clone tx' new =>
    obtain ⟨-, hp⟩ := Option.ite_none_right_eq_some.mp h
    cases hp
    have hfin := clone_finishing.bind (f := fun _ : Unit => (.ret fun s =>
      (.done, { s with live := new :: s.live }) : Code T (Publish T))) fun _ => trivial
    refine ⟨hfin.oneEffect, ?_, fun _ _ => hfin⟩
    refine within_bind clone_within fun _ _ => ?_
    exact ⟨.done, (new :: ·), fun _ => rfl, fun _ _ _ h => List.mem_cons_of_mem _ h⟩
  | dropTransmitter tx' =>
    obtain ⟨-, hp⟩ := Option.ite_none_right_eq_some.mp h
    cases hp
    cases ha
    refine ⟨dropTransmitter_oneEffect.bind fun _ => trivial, ?_, nofun⟩
    refine within_bind dropTransmitter_within fun _ _ => ?_
    exact ⟨.done, (·.erase tx), fun _ => rfl, fun _ _ hne h => (List.mem_erase_of_ne hne).mpr h⟩
  | _ => cases ha

end Revbio.Channel
