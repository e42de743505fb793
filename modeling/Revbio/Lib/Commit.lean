/-
Revbio.Lib.Commit — programs that make one call that matters, and why
others may come between their calls.

The called side is in two parts. A call is private when it is about the
first part alone: what it answers and what it does there does not depend on
the second part, and the second part is left alone. A program with no other
calls has its end fixed before it starts, as far as the second part goes
(`Finishing.run_eq`). `OneEffect` allows one call that does something there,
with private ones before and after it. Such a program might as well run at
the moment of that call: what comes before it shows in the first part only,
and what comes after it is settled by then. So what others do to the second
part in between they cannot tell from the order.

`Reaches` is about a program run from a state: it makes calls of one kind
until it comes to one of another.
-/
import Revbio.Lib.CallTree

namespace CallTree.Prog

variable {E : Type} {R : E → Type} {α β δ κ : Type}

/-- How a program that is over has ended. -/
def outcome : Prog E R α → Option (Exit α)
  | .ret a => some (.returned a)
  | .fail m => some (.failed m)
  | .call _ _ => none

theorem run_of_outcome {answer : (e : E) → κ → R e × κ} {p : Prog E R α} {x : Exit α}
    (h : p.outcome = some x) (s : κ) : p.run answer s = (x, s) := by
  cases p with
  | call e k => cases h
  | _ =>
    cases h
    rfl

/-! ## Calls that reach a point -/

/-- Run from `s`, the program makes calls that satisfy `C`, and then one
that satisfies `D`; what is left of it after that one satisfies `Q`. -/
def Reaches (answer : (e : E) → κ → R e × κ) (C D : E → Prop) (Q : Prog E R α → Prop) :
    Prog E R α → κ → Prop
  | .ret _, _ => False
  | .fail _, _ => False
  | .call e k, s =>
      (D e ∧ Q (k (answer e s).1)) ∨
        (C e ∧ (k (answer e s).1).Reaches answer C D Q (answer e s).2)

/-! ## One call that matters -/

variable {answer : (e : E) → δ × κ → R e × (δ × κ)}

/-- A call that is about the first part alone. -/
def Private (answer : (e : E) → δ × κ → R e × (δ × κ)) (e : E) : Prop :=
  ∀ d, ∃ r d', ∀ k, answer e (d, k) = (r, (d', k))

/-- The program makes private calls only. -/
def Finishing (answer : (e : E) → δ × κ → R e × (δ × κ)) : Prog E R α → Prop
  | .ret _ => True
  | .fail _ => True
  | .call e k => Private answer e ∧ ∀ r, (k r).Finishing answer

/-- On every way through, the program makes at most one other call. -/
def OneEffect (answer : (e : E) → δ × κ → R e × (δ × κ)) : Prog E R α → Prop
  | .ret _ => True
  | .fail _ => True
  | .call e k =>
      (Private answer e ∧ ∀ r, (k r).OneEffect answer) ∨ ∀ r, (k r).Finishing answer

theorem Finishing.oneEffect {p : Prog E R α} (h : p.Finishing answer) : p.OneEffect answer := by
  induction p with
  | ret a => trivial
  | fail m => trivial
  | call e k ih => exact .inl ⟨h.1, fun r => ih r (h.2 r)⟩

theorem finishing_call {e : E} {k : R e → Prog E R α} (he : Private answer e)
    (hk : ∀ r, (k r).Finishing answer) : (Prog.call e k).Finishing answer := ⟨he, hk⟩

theorem finishing_ite {c : Prop} [Decidable c] {p q : Prog E R α} (hp : p.Finishing answer)
    (hq : q.Finishing answer) : (if c then p else q).Finishing answer := by
  split
  · exact hp
  · exact hq

theorem oneEffect_private {e : E} {k : R e → Prog E R α} (he : Private answer e)
    (hk : ∀ r, (k r).OneEffect answer) : (Prog.call e k).OneEffect answer := .inl ⟨he, hk⟩

theorem oneEffect_call {e : E} {k : R e → Prog E R α}
    (hk : ∀ r, (k r).Finishing answer) : (Prog.call e k).OneEffect answer := .inr hk

theorem oneEffect_ite {c : Prop} [Decidable c] {p q : Prog E R α} (hp : p.OneEffect answer)
    (hq : q.OneEffect answer) : (if c then p else q).OneEffect answer := by
  split
  · exact hp
  · exact hq

theorem Finishing.bind {p : Prog E R α} {f : α → Prog E R β} (hp : p.Finishing answer)
    (hf : ∀ a, (f a).Finishing answer) : (p >>= f).Finishing answer := by
  induction p with
  | ret a => exact hf a
  | fail m => trivial
  | call e k ih => exact ⟨hp.1, fun r => ih r (hp.2 r)⟩

theorem OneEffect.bind {p : Prog E R α} {f : α → Prog E R β} (hp : p.OneEffect answer)
    (hf : ∀ a, (f a).Finishing answer) : (p >>= f).OneEffect answer := by
  induction p with
  | ret a => exact (hf a).oneEffect
  | fail m => trivial
  | call e k ih =>
    obtain ⟨he, hk⟩ | hk := hp
    · exact .inl ⟨he, fun r => ih r (hk r)⟩
    · exact .inr fun r => (hk r).bind hf

theorem Finishing.bind_oneEffect {p : Prog E R α} {f : α → Prog E R β}
    (hp : p.Finishing answer) (hf : ∀ a, (f a).OneEffect answer) :
    (p >>= f).OneEffect answer := by
  induction p with
  | ret a => exact hf a
  | fail m => trivial
  | call e k ih => exact .inl ⟨hp.1, fun r => ih r (hp.2 r)⟩

/-- The end is fixed, and the second part is left alone. -/
theorem Finishing.run_eq {p : Prog E R α} (h : p.Finishing answer) (d : δ) :
    ∃ x d', ∀ k, p.run answer (d, k) = (x, (d', k)) := by
  induction p generalizing d with
  | ret a => exact ⟨.returned a, d, fun _ => rfl⟩
  | fail m => exact ⟨.failed m, d, fun _ => rfl⟩
  | call e k ih =>
    obtain ⟨r, d₁, hr⟩ := h.1 d
    obtain ⟨x, d', hx⟩ := ih r (h.2 r) d₁
    refine ⟨x, d', ?_⟩
    intro s
    rw [run_call, hr s, hx s]

/-- Where it gets to does not depend on the second part. -/
theorem Finishing.reaches {C D : E → Prop} {Q : Prog E R α → Prop} {p : Prog E R α}
    (h : p.Finishing answer) {d : δ} {k : κ} (hp : p.Reaches answer C D Q (d, k)) (k' : κ) :
    p.Reaches answer C D Q (d, k') := by
  induction p generalizing d with
  | ret a => exact hp
  | fail m => exact hp
  | call e f ih =>
    obtain ⟨r, d', hr⟩ := h.1 d
    simp only [Reaches, hr] at hp ⊢
    exact hp.imp_right fun hp => ⟨hp.1, ih r (h.2 r) hp.2⟩

end CallTree.Prog
