/-
Revbio.Lib.CallTree — finite programs over a signature of calls, and what
they do under a model of the called side.

A signature is a type `E` of calls with an answer type `R e` for each. A
`Prog E R α` returns a value, fails with a message, or makes one call and
goes on with its answer. It says nothing about what a call does: the same
program is read under different models of the called side.

* `Prog.run` — under a FUNCTION `(e : E) → κ → R e × κ`, the deterministic
  reading;
* `Prog.Exec` — under a RELATION `κ → (e : E) → R e → κ → Prop`, every
  answer the model allows;
* `Prog.wp` — the weakest precondition of the relational reading, which
  `wp_sound` ties to `Exec`;
* `Prog.Returns` — what holds of the returned value whatever the calls
  answer, for facts that do not depend on the called side;
* `Prog.Within` — the same for programs that keep to a set of calls, with a
  frame rule for calls that leave the called side alone.

Failure is an exit of its own and keeps the state of the called side: a
lock that is held when a program fails is still held.
-/
import Mathlib.Init

namespace CallTree

/-- A finite program over the calls `E`. -/
inductive Prog (E : Type) (R : E → Type) (α : Type) : Type where
  | ret (a : α)
  | fail (msg : String)
  | call (e : E) (k : R e → Prog E R α)

/-- How a program ends: with a value, or by failing. -/
inductive Exit (α : Type) : Type where
  | returned (a : α)
  | failed (msg : String)
  deriving DecidableEq, Repr

namespace Prog

variable {E : Type} {R : E → Type} {α β κ : Type}

protected def bind : Prog E R α → (α → Prog E R β) → Prog E R β
  | .ret a, f => f a
  | .fail m, _ => .fail m
  | .call e k, f => .call e fun r => (k r).bind f

instance : Monad (Prog E R) where
  pure := .ret
  bind := Prog.bind

@[simp] theorem pure_eq (a : α) : (pure a : Prog E R α) = .ret a := rfl

@[simp] theorem ret_bind (a : α) (f : α → Prog E R β) :
    (Prog.ret a >>= f) = f a := rfl

@[simp] theorem fail_bind (m : String) (f : α → Prog E R β) :
    ((Prog.fail m : Prog E R α) >>= f) = .fail m := rfl

@[simp] theorem call_bind (e : E) (k : R e → Prog E R α) (f : α → Prog E R β) :
    (Prog.call e k >>= f) = .call e fun r => k r >>= f := rfl

theorem bind_ret (p : Prog E R α) : (p >>= Prog.ret) = p := by
  induction p with
  | ret a => rfl
  | fail m => rfl
  | call e k ih => exact congrArg (Prog.call e) (funext ih)

theorem bind_bind {γ : Type} (p : Prog E R α) (f : α → Prog E R β) (g : β → Prog E R γ) :
    (p >>= f) >>= g = p >>= fun a => f a >>= g := by
  induction p with
  | ret a => rfl
  | fail m => rfl
  | call e k ih => exact congrArg (Prog.call e) (funext ih)

/-! ## Deterministic reading -/

/-- Run a program against a function that answers every call. -/
def run (answer : (e : E) → κ → R e × κ) : Prog E R α → κ → Exit α × κ
  | .ret a, s => (.returned a, s)
  | .fail m, s => (.failed m, s)
  | .call e k, s => (k (answer e s).1).run answer (answer e s).2

/-- What no answer breaks, no run breaks. -/
theorem run_invariant {answer : (e : E) → κ → R e × κ} {I : κ → Prop}
    (hI : ∀ e s, I s → I (answer e s).2) (p : Prog E R α) {s : κ} (hs : I s) :
    I (p.run answer s).2 := by
  induction p generalizing s with
  | ret a => exact hs
  | fail m => exact hs
  | call e k ih => exact ih _ (hI e s hs)

variable (answer : (e : E) → κ → R e × κ)

@[simp] theorem run_ret (a : α) (s : κ) :
    (Prog.ret a : Prog E R α).run answer s = (.returned a, s) := rfl

@[simp] theorem run_fail (m : String) (s : κ) :
    (Prog.fail m : Prog E R α).run answer s = (.failed m, s) := rfl

@[simp] theorem run_call (e : E) (k : R e → Prog E R α) (s : κ) :
    (Prog.call e k).run answer s = (k (answer e s).1).run answer (answer e s).2 := rfl

/-- Sequencing: the second program runs from the state the first one left,
unless the first one failed. -/
theorem run_bind (p : Prog E R α) (f : α → Prog E R β) (s : κ) :
    (p >>= f).run answer s =
      match p.run answer s with
      | (.returned a, s') => (f a).run answer s'
      | (.failed m, s') => (.failed m, s') := by
  induction p generalizing s with
  | ret a => rfl
  | fail m => rfl
  | call e k ih => exact ih _ _

/-! ## Relational reading -/

/-- The program started in `s` can end with `x` in `s'`. -/
def Exec (allows : κ → (e : E) → R e → κ → Prop) : Prog E R α → κ → Exit α → κ → Prop
  | .ret a, s, x, s' => x = .returned a ∧ s' = s
  | .fail m, s, x, s' => x = .failed m ∧ s' = s
  | .call e k, s, x, s' => ∃ r s₁, allows s e r s₁ ∧ (k r).Exec allows s₁ x s'

/-- Every end the program can reach from `s` satisfies `Q`. -/
def wp (allows : κ → (e : E) → R e → κ → Prop) :
    Prog E R α → (Exit α → κ → Prop) → κ → Prop
  | .ret a, Q, s => Q (.returned a) s
  | .fail m, Q, s => Q (.failed m) s
  | .call e k, Q, s => ∀ r s₁, allows s e r s₁ → (k r).wp allows Q s₁

variable {allows : κ → (e : E) → R e → κ → Prop}

theorem exec_ret (a : α) (s s' : κ) (x : Exit α) :
    (Prog.ret a : Prog E R α).Exec allows s x s' ↔ x = .returned a ∧ s' = s := Iff.rfl

theorem exec_call (e : E) (k : R e → Prog E R α) (s s' : κ) (x : Exit α) :
    (Prog.call e k).Exec allows s x s' ↔
      ∃ r s₁, allows s e r s₁ ∧ (k r).Exec allows s₁ x s' := Iff.rfl

/-- A sequence returns when both parts do. -/
theorem exec_bind (p : Prog E R α) (f : α → Prog E R β) (s s' : κ) (b : β) :
    (p >>= f).Exec allows s (.returned b) s' ↔
      ∃ a s₁, p.Exec allows s (.returned a) s₁ ∧ (f a).Exec allows s₁ (.returned b) s' := by
  induction p generalizing s with
  | ret a =>
    simp only [ret_bind, exec_ret, Exit.returned.injEq]
    constructor
    · exact fun h => ⟨a, s, ⟨rfl, rfl⟩, h⟩
    · intro h'
      obtain ⟨a, s₁, ⟨rfl, rfl⟩, h⟩ := h'
      exact h
  | fail m => simp [Exec]
  | call e k ih =>
    simp only [call_bind, exec_call, ih]
    constructor
    · intro h
      obtain ⟨r, s₁, hr, a, s₂, hp, hf⟩ := h
      exact ⟨a, s₂, ⟨r, s₁, hr, hp⟩, hf⟩
    · intro h
      obtain ⟨a, s₂, ⟨r, s₁, hr, hp⟩, hf⟩ := h
      exact ⟨r, s₁, hr, a, s₂, hp, hf⟩

@[simp] theorem wp_ret (a : α) (Q : Exit α → κ → Prop) (s : κ) :
    (Prog.ret a : Prog E R α).wp allows Q s = Q (.returned a) s := rfl

@[simp] theorem wp_fail (m : String) (Q : Exit α → κ → Prop) (s : κ) :
    (Prog.fail m : Prog E R α).wp allows Q s = Q (.failed m) s := rfl

@[simp] theorem wp_call (e : E) (k : R e → Prog E R α) (Q : Exit α → κ → Prop) (s : κ) :
    (Prog.call e k).wp allows Q s = ∀ r s₁, allows s e r s₁ → (k r).wp allows Q s₁ := rfl

/-- Consequence rule. -/
theorem wp_mono {p : Prog E R α} {Q Q' : Exit α → κ → Prop}
    (hQ : ∀ x s, Q x s → Q' x s) {s : κ} (h : p.wp allows Q s) : p.wp allows Q' s := by
  induction p generalizing s with
  | ret a => exact hQ _ _ h
  | fail m => exact hQ _ _ h
  | call e k ih => exact fun r s₁ hr => ih r (h r s₁ hr)

/-- Sequencing rule: establish, after the first program, what the second
one needs; a failure of the first one ends the whole program. -/
theorem wp_bind (p : Prog E R α) (f : α → Prog E R β) (Q : Exit β → κ → Prop) (s : κ) :
    (p >>= f).wp allows Q s =
      p.wp allows (fun x s' => match x with
        | .returned a => (f a).wp allows Q s'
        | .failed m => Q (.failed m) s') s := by
  induction p generalizing s with
  | ret a => rfl
  | fail m => rfl
  | call e k ih =>
    simp only [call_bind, wp_call]
    exact forall_congr fun r => forall_congr fun s₁ => by rw [ih r s₁]

/-- A precondition holds of every end the program reaches. -/
theorem wp_sound {p : Prog E R α} {Q : Exit α → κ → Prop} {s s' : κ} {x : Exit α}
    (h : p.wp allows Q s) (hx : p.Exec allows s x s') : Q x s' := by
  induction p generalizing s with
  | ret a =>
    obtain ⟨rfl, rfl⟩ := hx
    exact h
  | fail m =>
    obtain ⟨rfl, rfl⟩ := hx
    exact h
  | call e k ih =>
    obtain ⟨r, s₁, hr, hk⟩ := hx
    exact ih r (h r s₁ hr) hk

/-- What no call breaks, no program breaks. -/
theorem exec_invariant {I : κ → Prop} (hI : ∀ s e r s', I s → allows s e r s' → I s')
    {p : Prog E R α} {s s' : κ} {x : Exit α} (hx : p.Exec allows s x s') (hs : I s) : I s' := by
  induction p generalizing s with
  | ret a =>
    obtain ⟨-, rfl⟩ := hx
    exact hs
  | fail m =>
    obtain ⟨-, rfl⟩ := hx
    exact hs
  | call e k ih =>
    obtain ⟨r, s₁, hr, hk⟩ := hx
    exact ih r hk (hI s e r s₁ hs hr)

/-- What a finer called side does, seen by a coarser one. -/
theorem exec_map {κ' : Type} {fine : κ' → (e : E) → R e → κ' → Prop} {view : κ' → κ}
    (hview : ∀ k e r k', fine k e r k' → allows (view k) e r (view k'))
    {p : Prog E R α} {k k' : κ'} {x : Exit α} (hx : p.Exec fine k x k') :
    p.Exec allows (view k) x (view k') := by
  induction p generalizing k with
  | ret a =>
    obtain ⟨rfl, rfl⟩ := hx
    exact ⟨rfl, rfl⟩
  | fail m =>
    obtain ⟨rfl, rfl⟩ := hx
    exact ⟨rfl, rfl⟩
  | call e prog ih =>
    obtain ⟨r, k₁, hr, hk⟩ := hx
    exact ⟨r, view k₁, hview k e r k₁ hr, ih r hk⟩

/-- What a coarser called side allows, a finer one can do. -/
theorem exec_lift {κ' : Type} {fine : κ' → (e : E) → R e → κ' → Prop} {view : κ' → κ}
    (hview : ∀ k e r s, allows (view k) e r s → ∃ k', fine k e r k' ∧ view k' = s)
    {p : Prog E R α} {k : κ'} {s : κ} {x : Exit α} (hx : p.Exec allows (view k) x s) :
    ∃ k', p.Exec fine k x k' ∧ view k' = s := by
  induction p generalizing k with
  | ret a =>
    obtain ⟨rfl, rfl⟩ := hx
    exact ⟨k, ⟨rfl, rfl⟩, rfl⟩
  | fail m =>
    obtain ⟨rfl, rfl⟩ := hx
    exact ⟨k, ⟨rfl, rfl⟩, rfl⟩
  | call e prog ih =>
    obtain ⟨r, s₁, hr, hk⟩ := hx
    obtain ⟨k₁, hr', rfl⟩ := hview k e r s₁ hr
    obtain ⟨k', hk', hs⟩ := ih r hk
    exact ⟨k', ⟨r, k₁, hr', hk'⟩, hs⟩

/-! ## Whatever the calls answer -/

/-- Every value the program can return satisfies `P`. -/
def Returns (P : α → Prop) : Prog E R α → Prop
  | .ret a => P a
  | .fail _ => True
  | .call _ k => ∀ r, (k r).Returns P

@[simp] theorem returns_ret (P : α → Prop) (a : α) :
    (Prog.ret a : Prog E R α).Returns P ↔ P a := Iff.rfl

@[simp] theorem returns_fail (P : α → Prop) (m : String) :
    (Prog.fail m : Prog E R α).Returns P ↔ True := Iff.rfl

@[simp] theorem returns_call (P : α → Prop) (e : E) (k : R e → Prog E R α) :
    (Prog.call e k).Returns P ↔ ∀ r, (k r).Returns P := Iff.rfl

theorem returns_bind (P : β → Prop) (p : Prog E R α) (f : α → Prog E R β) :
    (p >>= f).Returns P ↔ p.Returns fun a => (f a).Returns P := by
  induction p with
  | ret a => rfl
  | fail m => rfl
  | call e k ih => exact forall_congr' fun r => ih r

theorem Returns.mono {P Q : α → Prop} {p : Prog E R α} (h : p.Returns P)
    (hPQ : ∀ a, P a → Q a) : p.Returns Q := by
  induction p with
  | ret a => exact hPQ a h
  | fail m => trivial
  | call e k ih => exact fun r => ih r (h r)

theorem returns_true (p : Prog E R α) : p.Returns fun _ => True := by
  induction p with
  | ret a => trivial
  | fail m => trivial
  | call e k ih => exact fun r => ih r

theorem Returns.and {P Q : α → Prop} {p : Prog E R α} (hP : p.Returns P) (hQ : p.Returns Q) :
    p.Returns fun a => P a ∧ Q a := by
  induction p with
  | ret a => exact ⟨hP, hQ⟩
  | fail m => trivial
  | call e k ih => exact fun r => ih r (hP r) (hQ r)

/-- After a first part of which nothing needs to be known. -/
theorem returns_next {P : β → Prop} {p : Prog E R α} {f : α → Prog E R β}
    (h : ∀ a, (f a).Returns P) : (p >>= f).Returns P :=
  (returns_bind P p f).mpr ((returns_true p).mono fun a _ => h a)

theorem Returns.exec {P : α → Prop} {p : Prog E R α} (h : p.Returns P) {s s' : κ} {a : α}
    (hx : p.Exec allows s (.returned a) s') : P a := by
  induction p generalizing s with
  | ret b =>
    obtain ⟨hb, -⟩ := hx
    cases hb
    exact h
  | fail m =>
    obtain ⟨hm, -⟩ := hx
    cases hm
  | call e k ih =>
    obtain ⟨r, s₁, -, hk⟩ := hx
    exact ih r (h r) hk

theorem Returns.run {P : α → Prop} {p : Prog E R α} (h : p.Returns P)
    {answer : (e : E) → κ → R e × κ} {s s' : κ} {a : α}
    (hx : p.run answer s = (.returned a, s')) : P a := by
  induction p generalizing s with
  | ret b =>
    cases hx
    exact h
  | fail m => cases hx
  | call e k ih => exact ih _ (h _) hx

/-! ## Programs that keep to a set of calls -/

/-- Every call the program can make satisfies `C`, and every value it can
return satisfies `P`. -/
def Within (C : E → Prop) (P : α → Prop) : Prog E R α → Prop
  | .ret a => P a
  | .fail _ => True
  | .call e k => C e ∧ ∀ r, (k r).Within C P

variable {C D : E → Prop} {P Q : α → Prop}

theorem within_ret {a : α} (h : P a) : (Prog.ret a : Prog E R α).Within C P := h

theorem within_fail (m : String) : (Prog.fail m : Prog E R α).Within C P := trivial

theorem within_call {e : E} {k : R e → Prog E R α} (he : C e)
    (hk : ∀ r, (k r).Within C P) : (Prog.call e k).Within C P := ⟨he, hk⟩

/-- Whichever branch is taken. -/
theorem within_ite {c : Prop} [Decidable c] {p q : Prog E R α} (hp : p.Within C P)
    (hq : q.Within C P) : (if c then p else q).Within C P := by
  split
  · exact hp
  · exact hq

theorem within_bind {P : α → Prop} {Q : β → Prop} {p : Prog E R α} {f : α → Prog E R β}
    (hp : p.Within C P) (hf : ∀ a, P a → (f a).Within C Q) : (p >>= f).Within C Q := by
  induction p with
  | ret a => exact hf a hp
  | fail m => trivial
  | call e k ih => exact ⟨hp.1, fun r => ih r (hp.2 r)⟩

theorem Within.mono {p : Prog E R α} (h : p.Within C P) (hC : ∀ e, C e → D e)
    (hP : ∀ a, P a → Q a) : p.Within D Q := by
  induction p with
  | ret a => exact hP a h
  | fail m => trivial
  | call e k ih => exact ⟨hC e h.1, fun r => ih r (h.2 r)⟩

/-- **Invariant rule** for a set of calls: what these calls keep, a program
that makes no others keeps. -/
theorem Within.exec {I : κ → Prop} {p : Prog E R α} (h : p.Within C P)
    (hI : ∀ s e r s', C e → I s → allows s e r s' → I s') {s s' : κ} {x : Exit α}
    (hx : p.Exec allows s x s') (hs : I s) : I s' ∧ ∀ a, x = .returned a → P a := by
  induction p generalizing s with
  | ret a =>
    obtain ⟨rfl, rfl⟩ := hx
    refine ⟨hs, ?_⟩
    intro b hb
    cases hb
    exact h
  | fail m =>
    obtain ⟨rfl, rfl⟩ := hx
    exact ⟨hs, by simp⟩
  | call e k ih =>
    obtain ⟨r, s₁, hr, hk⟩ := hx
    exact ih r (h.2 r) hk (hI s e r s₁ h.1 hs hr)

/-- The same where the answers are given by a function. -/
theorem Within.run {answer : (e : E) → κ → R e × κ} {I : κ → Prop} {p : Prog E R α}
    (h : p.Within C P) (hI : ∀ e s, C e → I s → I (answer e s).2) {s : κ} (hs : I s) :
    I (p.run answer s).2 ∧ ∀ a, (p.run answer s).1 = .returned a → P a := by
  induction p generalizing s with
  | ret a =>
    refine ⟨hs, ?_⟩
    intro b hb
    cases hb
    exact h
  | fail m => exact ⟨hs, nofun⟩
  | call e k ih => exact ih _ (h.2 _) (hI e s h.1 hs)

/-- **Progress rule** for a set of calls: where these calls always have an
answer, a program that makes no others has an end. -/
theorem Within.exists_exec {p : Prog E R α} (h : p.Within C P)
    (hC : ∀ s e, C e → ∃ r s', allows s e r s') (s : κ) : ∃ x s', p.Exec allows s x s' := by
  induction p generalizing s with
  | ret a => exact ⟨.returned a, s, rfl, rfl⟩
  | fail m => exact ⟨.failed m, s, rfl, rfl⟩
  | call e k ih =>
    obtain ⟨r, s₁, hr⟩ := hC s e h.1
    obtain ⟨x, s', hx⟩ := ih r (h.2 r) s₁
    exact ⟨x, s', r, s₁, hr, hx⟩

theorem Within.returns {p : Prog E R α} (h : p.Within C P) : p.Returns P := by
  induction p with
  | ret a => exact h
  | fail m => trivial
  | call e k ih => exact fun r => ih r (h.2 r)

/-- **Frame rule**: a program whose calls all leave the called side alone
leaves it alone. -/
theorem Within.frame {p : Prog E R α} (h : p.Within C P)
    (hframe : ∀ s e r s', C e → allows s e r s' → s' = s) (s : κ) :
    p.wp allows (fun x s' => s' = s ∧ ∀ a, x = .returned a → P a) s := by
  induction p with
  | ret a =>
    refine ⟨rfl, ?_⟩
    intro b hb
    cases hb
    exact h
  | fail m => exact ⟨rfl, by simp⟩
  | call e k ih =>
    intro r s₁ hr
    rw [hframe s e r s₁ h.1 hr]
    exact ih r (h.2 r)

end Prog

end CallTree
