/-
Revbio.Lib.CallTrace — the calls of a program, one by one.

`Revbio.Lib.CallTree` says where a program can end. Some properties are
about the way there: that a call is not made too early, too often or twice.
There are two ways to speak of them.

* `Prog.Traced` — the calls with their answers, in order, whatever the
  called side is. A property of the order of calls is kept as an account of
  the calls so far; `Traced.exec` turns it into the relational reading, in
  which the account is the state of the called side.
* `Prog.Makes` — a call is made in a given state of the called side.
  `Prog.Fit` is the weakest precondition of "every call is fit for the
  state it is made in, and every end satisfies `Q`".
-/
import Revbio.Lib.CallTree

namespace CallTree

/-- A call with its answer. -/
abbrev Answered {E : Type} (R : E → Type) : Type := (e : E) × R e

namespace Prog

variable {E : Type} {R : E → Type} {α β κ μ : Type}

/-! ## Traces -/

/-- The program can make these calls, get these answers, and end so. -/
def Traced : Prog E R α → List (Answered R) → Exit α → Prop
  | .ret a, tr, x => tr = [] ∧ x = .returned a
  | .fail m, tr, x => tr = [] ∧ x = .failed m
  | .call e k, tr, x => ∃ r tr', tr = ⟨e, r⟩ :: tr' ∧ (k r).Traced tr' x

theorem traced_call (e : E) (k : R e → Prog E R α) (tr : List (Answered R)) (x : Exit α) :
    (Prog.call e k).Traced tr x ↔ ∃ r tr', tr = ⟨e, r⟩ :: tr' ∧ (k r).Traced tr' x := Iff.rfl

/-- A sequence is traced part by part; a failure of the first part is the
end of it. -/
theorem traced_bind (p : Prog E R α) (f : α → Prog E R β) (tr : List (Answered R))
    (x : Exit β) :
    (p >>= f).Traced tr x ↔
      (∃ a tr₁ tr₂, tr = tr₁ ++ tr₂ ∧ p.Traced tr₁ (.returned a) ∧ (f a).Traced tr₂ x) ∨
      ∃ msg, x = .failed msg ∧ p.Traced tr (.failed msg) := by
  induction p generalizing tr with
  | ret a =>
    constructor
    · exact fun h => .inl ⟨a, [], tr, rfl, ⟨rfl, rfl⟩, h⟩
    · rintro (⟨_, _, tr₂, rfl, ⟨rfl, ⟨⟩⟩, h⟩ | ⟨_, _, _, h⟩)
      · exact h
      · cases h
  | fail m =>
    constructor
    · intro h
      obtain ⟨rfl, rfl⟩ := h
      exact .inr ⟨m, rfl, rfl, rfl⟩
    · rintro (⟨_, _, _, _, ⟨_, h⟩, _⟩ | ⟨_, rfl, rfl, ⟨⟩⟩)
      · cases h
      · exact ⟨rfl, rfl⟩
  | call e k ih =>
    simp only [call_bind, traced_call, ih]
    constructor
    · rintro ⟨r, tr', rfl, ⟨a, tr₁, tr₂, rfl, hp, hf⟩ | ⟨msg, rfl, hp⟩⟩
      · exact .inl ⟨a, _, tr₂, rfl, ⟨r, tr₁, rfl, hp⟩, hf⟩
      · exact .inr ⟨msg, rfl, r, tr', rfl, hp⟩
    · rintro (⟨a, _, tr₂, rfl, ⟨r, tr₁, rfl, hp⟩, hf⟩ | ⟨msg, rfl, r, tr', rfl, hp⟩)
      · exact ⟨r, tr₁ ++ tr₂, rfl, .inl ⟨a, tr₁, tr₂, rfl, hp, hf⟩⟩
      · exact ⟨r, tr', rfl, .inr ⟨msg, rfl, hp⟩⟩

/-- A program makes only the calls it keeps to. -/
theorem Within.traced {C : E → Prop} {P : α → Prop} {p : Prog E R α} (h : p.Within C P)
    {tr : List (Answered R)} {x : Exit α} (htr : p.Traced tr x) : ∀ c ∈ tr, C c.1 := by
  induction p generalizing tr with
  | ret a =>
    obtain ⟨rfl, -⟩ := htr
    exact List.forall_mem_nil _
  | fail m =>
    obtain ⟨rfl, -⟩ := htr
    exact List.forall_mem_nil _
  | call e k ih =>
    obtain ⟨r, tr', rfl, hk⟩ := htr
    exact List.forall_mem_cons.mpr ⟨h.1, ih r (h.2 r) hk⟩

/-- An account of the calls, brought up to date call by call. -/
def account (note : μ → (e : E) → R e → μ) (m : μ) (tr : List (Answered R)) : μ :=
  tr.foldl (fun m c => note m c.1 c.2) m

/-- A called side that answers anything and only keeps the account. -/
def Accounts (note : μ → (e : E) → R e → μ) (m : μ) (e : E) (r : R e) (m' : μ) : Prop :=
  m' = note m e r

variable {note : μ → (e : E) → R e → μ}

@[simp] theorem account_nil (m : μ) : account note m [] = m := rfl

@[simp] theorem account_cons (m : μ) (c : Answered R) (tr : List (Answered R)) :
    account note m (c :: tr) = account note (note m c.1 c.2) tr := rfl

@[simp] theorem account_append (m : μ) (tr tr' : List (Answered R)) :
    account note m (tr ++ tr') = account note (account note m tr) tr' :=
  List.foldl_append

/-- What holds of the account at every end holds of the account of every
trace. -/
theorem Traced.exec {p : Prog E R α} {tr : List (Answered R)} {x : Exit α} (m : μ)
    (h : p.Traced tr x) : p.Exec (Accounts note) m x (account note m tr) := by
  induction p generalizing m tr with
  | ret a =>
    obtain ⟨rfl, rfl⟩ := h
    exact ⟨rfl, rfl⟩
  | fail msg =>
    obtain ⟨rfl, rfl⟩ := h
    exact ⟨rfl, rfl⟩
  | call e k ih =>
    obtain ⟨r, tr', rfl, hk⟩ := h
    exact ⟨r, note m e r, rfl, ih r _ hk⟩

theorem Traced.wp {p : Prog E R α} {tr : List (Answered R)} {x : Exit α} {m : μ}
    {Q : Exit α → μ → Prop} (h : p.Traced tr x) (hp : p.wp (Accounts note) Q m) :
    Q x (account note m tr) :=
  wp_sound hp (h.exec m)

/-! ## Calls in a state -/

/-- Started in `s`, the program can come to make the call `c` in `t`. -/
def Makes (allows : κ → (e : E) → R e → κ → Prop) : Prog E R α → κ → E → κ → Prop
  | .ret _, _, _, _ => False
  | .fail _, _, _, _ => False
  | .call e k, s, c, t => (c = e ∧ t = s) ∨ ∃ r s₁, allows s e r s₁ ∧ (k r).Makes allows s₁ c t

/-- Every call the program makes from `s` is fit for the state it is made
in, and every end it can reach satisfies `Q`. -/
def Fit (allows : κ → (e : E) → R e → κ → Prop) (ok : κ → E → Prop) :
    Prog E R α → (Exit α → κ → Prop) → κ → Prop
  | .ret a, Q, s => Q (.returned a) s
  | .fail m, Q, s => Q (.failed m) s
  | .call e k, Q, s => ok s e ∧ ∀ r s₁, allows s e r s₁ → (k r).Fit allows ok Q s₁

variable {allows : κ → (e : E) → R e → κ → Prop} {ok : κ → E → Prop}

@[simp] theorem fit_ret (a : α) (Q : Exit α → κ → Prop) (s : κ) :
    (Prog.ret a : Prog E R α).Fit allows ok Q s = Q (.returned a) s := rfl

@[simp] theorem fit_fail (m : String) (Q : Exit α → κ → Prop) (s : κ) :
    (Prog.fail m : Prog E R α).Fit allows ok Q s = Q (.failed m) s := rfl

@[simp] theorem fit_call (e : E) (k : R e → Prog E R α) (Q : Exit α → κ → Prop) (s : κ) :
    (Prog.call e k).Fit allows ok Q s =
      (ok s e ∧ ∀ r s₁, allows s e r s₁ → (k r).Fit allows ok Q s₁) := rfl

theorem fit_mono {p : Prog E R α} {Q Q' : Exit α → κ → Prop}
    (hQ : ∀ x s, Q x s → Q' x s) {s : κ} (h : p.Fit allows ok Q s) :
    p.Fit allows ok Q' s := by
  induction p generalizing s with
  | ret a => exact hQ _ _ h
  | fail m => exact hQ _ _ h
  | call e k ih => exact ⟨h.1, fun r s₁ hr => ih r (h.2 r s₁ hr)⟩

/-- Sequencing rule. -/
theorem fit_bind (p : Prog E R α) (f : α → Prog E R β) (Q : Exit β → κ → Prop) (s : κ) :
    (p >>= f).Fit allows ok Q s =
      p.Fit allows ok (fun x s' => match x with
        | .returned a => (f a).Fit allows ok Q s'
        | .failed m => Q (.failed m) s') s := by
  induction p generalizing s with
  | ret a => rfl
  | fail m => rfl
  | call e k ih =>
    simp only [call_bind, fit_call]
    exact congrArg (ok s e ∧ ·) (forall_congr fun r => forall_congr fun s₁ => by rw [ih r s₁])

/-- The calls are fit. -/
theorem fit_makes {p : Prog E R α} {Q : Exit α → κ → Prop} {s t : κ} {c : E}
    (h : p.Fit allows ok Q s) (hc : p.Makes allows s c t) : ok t c := by
  induction p generalizing s with
  | ret a => exact hc.elim
  | fail m => exact hc.elim
  | call e k ih =>
    rcases hc with ⟨rfl, rfl⟩ | ⟨r, s₁, hr, hk⟩
    · exact h.1
    · exact ih r (h.2 r s₁ hr) hk

/-- The ends are as promised. -/
theorem fit_sound {p : Prog E R α} {Q : Exit α → κ → Prop} {s s' : κ} {x : Exit α}
    (h : p.Fit allows ok Q s) (hx : p.Exec allows s x s') : Q x s' := by
  induction p generalizing s with
  | ret a =>
    obtain ⟨rfl, rfl⟩ := hx
    exact h
  | fail m =>
    obtain ⟨rfl, rfl⟩ := hx
    exact h
  | call e k ih =>
    obtain ⟨r, s₁, hr, hk⟩ := hx
    exact ih r (h.2 r s₁ hr) hk

/-- A program makes only the calls it keeps to. -/
theorem Within.makes {C : E → Prop} {P : α → Prop} {p : Prog E R α} (h : p.Within C P)
    {s t : κ} {c : E} (hc : p.Makes allows s c t) : C c := by
  induction p generalizing s with
  | ret a => exact hc.elim
  | fail m => exact hc.elim
  | call e k ih =>
    rcases hc with ⟨rfl, rfl⟩ | ⟨r, s₁, -, hk⟩
    · exact h.1
    · exact ih r (h.2 r) hk

/-- **Frame rule**: calls that are always fit and leave the called side
alone. -/
theorem Within.fit_frame {C : E → Prop} {P : α → Prop} {p : Prog E R α} (h : p.Within C P)
    (hfit : ∀ s e, C e → ok s e) (hframe : ∀ s e r s', C e → allows s e r s' → s' = s)
    (s : κ) :
    p.Fit allows ok (fun x s' => s' = s ∧ ∀ a, x = .returned a → P a) s := by
  induction p with
  | ret a =>
    refine ⟨rfl, ?_⟩
    intro b hb
    cases hb
    exact h
  | fail m => exact ⟨rfl, by simp⟩
  | call e k ih =>
    refine ⟨hfit s e h.1, ?_⟩
    intro r s₁ hr
    rw [hframe s e r s₁ h.1 hr]
    exact ih r (h.2 r)

end Prog

end CallTree
