/-
Revbio.Lib.Ownership — objects that own slots of a table, where a slot
can carry a back pointer to its owner.

A table maps every slot number to `free` or `held`, and a held slot may be
watched: then the table keeps the name of the object to call. The objects
keep records of their own: `Holdings` says for each object which slot it
counts on and which watch it believes the slot to have. `Owned` is the
agreement of the two sides, and it excludes a watch that names an object
without a slot (`Owned.watched`).

What one object does to its own slot is `Acts`; `Acts.owned` is the one
lemma by which any such sequence of actions keeps the agreement. What is
left are the changes of the set of objects: an object hands its slot on
(`Owned.move`), or goes away without it (`Owned.forget`), which is safe for
an unwatched slot only.

`Covered` is the other half of the accounts: every held slot has an owner
that will give it back, slots of outsiders apart. It is kept in the same
way (`Acts.covered`), except that an object that goes away with its slot
breaks it.

`Does` carries this to programs whose calls work on the table: started by
object `i` with holding `h`, the program acts on nothing but that holding,
and when it returns `a` the holding is `post a`. Its rules follow the shape
of a program.
-/
import Mathlib.Logic.Function.Basic
import Revbio.Lib.CallTree

namespace Ownership

universe u v

/-- One entry of the table. -/
inductive Slot (ι : Type u) where
  | free
  | held (watch : Option ι)
  deriving DecidableEq, Repr

abbrev Table (ι : Type u) (δ : Type v) := δ → Slot ι

/-- A slot with its watch, as one object sees it. -/
abbrev Holding (ι : Type u) (δ : Type v) := Option (δ × Option ι)

abbrev Holdings (ι : Type u) (δ : Type v) := ι → Holding ι δ

variable {ι : Type u} {δ : Type v}

structure Owned (T : Table ι δ) (H : Holdings ι δ) : Prop where
  /-- the table has what an object counts on -/
  held : ∀ ⦃i d w⦄, H i = some (d, w) → T d = .held w
  /-- no slot has two owners -/
  unique : ∀ ⦃i j d w w'⦄, H i = some (d, w) → H j = some (d, w') → i = j
  /-- objects have themselves called -/
  self : ∀ ⦃i d j⦄, H i = some (d, some j) → j = i
  /-- a watch names the owner of its slot -/
  watched : ∀ ⦃d j⦄, T d = .held (some j) → H j = some (d, some j)

/-- Every slot that is held is some object's, or one of those in `F`, which
are nobody's. -/
structure Covered (T : Table ι δ) (H : Holdings ι δ) (F : δ → Prop) : Prop where
  covered : ∀ d, T d ≠ .free → (∃ i w, H i = some (d, w)) ∨ F d
  apart : ∀ d, F d → T d ≠ .free ∧ ∀ i w, H i ≠ some (d, w)

/-- Nothing is owned, and nothing is watched. -/
theorem Owned.empty {T : Table ι δ} (h : ∀ d j, T d ≠ .held (some j)) :
    Owned T fun _ => none where
  held _ _ _ h := nomatch h
  unique _ _ _ _ _ h := nomatch h
  self _ _ _ h := nomatch h
  watched d j hd := absurd hd (h d j)

section Rules

variable {T : Table ι δ} {H : Holdings ι δ}
variable {i j : ι} {d : δ} {w w' : Option ι}

open Function (update)

variable [DecidableEq ι]

/-- An object hands on what it has, unless that is watched. -/
theorem Owned.move {h' : Holding ι δ} (h : Owned T H) (hi : H i = h')
    (hw : ∀ d k, h' ≠ some (d, some k)) (hj : H j = none) :
    Owned T (update (update H i none) j h') := by
  constructor
  case held => grind [h.held]
  case unique => grind [h.unique]
  case self => grind [h.self]
  case watched => grind [h.watched, h.held]

/-- An object without a watched slot can go away. -/
theorem Owned.forget (h : Owned T H) (hi : ∀ d k, H i ≠ some (d, some k)) :
    Owned T (update H i none) := by
  constructor
  case held => grind [h.held]
  case unique => grind [h.unique]
  case self => grind [h.self]
  case watched => grind [h.watched]

variable [DecidableEq δ]

/-- An object without a slot takes a free one. -/
theorem Owned.acquire (h : Owned T H) (hi : H i = none) (hd : T d = .free) :
    Owned (update T d (.held none)) (update H i (some (d, none))) := by
  -- a free slot is nobody's
  have hfree : ∀ ⦃k w⦄, H k ≠ some (d, w) := fun k w hk => by
    simpa [hd] using h.held hk
  constructor
  case held => grind [h.held]
  case unique => grind [h.unique]
  case self => grind [h.self]
  case watched => grind [h.watched]

/-- An object gives its slot back, and the watch goes with it. -/
theorem Owned.release (h : Owned T H) (hi : H i = some (d, w)) :
    Owned (update T d .free) (update H i none) := by
  -- the other owners have other slots
  have hother : ∀ ⦃k w'⦄, H k = some (d, w') → k = i := fun k w' hk => h.unique hk hi
  constructor
  case held => grind [h.held]
  case unique => grind [h.unique]
  case self => grind [h.self]
  case watched => grind [h.watched, h.self]

/-- An object sets the watch of its slot: to itself, or to none. -/
theorem Owned.rewatch (h : Owned T H) (hi : H i = some (d, w)) (hw' : w' = none ∨ w' = some i) :
    Owned (update T d (.held w')) (update H i (some (d, w'))) := by
  have hother : ∀ ⦃k w'⦄, H k = some (d, w') → k = i := fun k w' hk => h.unique hk hi
  constructor
  case held => grind [h.held]
  case unique => grind [h.unique]
  case self => grind [h.self]
  case watched => grind [h.watched, h.self]

omit [DecidableEq ι] in
/-- A slot that no object has comes and goes. -/
theorem Owned.foreign (h : Owned T H) (hd : ∀ i w, H i ≠ some (d, w)) {s : Slot ι}
    (hs : ∀ j, s ≠ .held (some j)) : Owned (update T d s) H := by
  constructor
  case held => grind [h.held]
  case unique => grind [h.unique]
  case self => grind [h.self]
  case watched => grind [h.watched]

/-! ## The actions of one object on its slot -/

/-- Object `i` goes from holding `h` with table `T` to the last two
arguments by actions on its own slot. -/
inductive Acts (i : ι) (h : Holding ι δ) (T : Table ι δ) :
    Holding ι δ → Table ι δ → Prop where
  | refl : Acts i h T h T
  | acquire {T' : Table ι δ} {d : δ} : Acts i h T none T' → T' d = .free →
      Acts i h T (some (d, none)) (update T' d (.held none))
  | release {T' : Table ι δ} {d : δ} {w : Option ι} : Acts i h T (some (d, w)) T' →
      Acts i h T none (update T' d .free)
  | watch {T' : Table ι δ} {d : δ} {w : Option ι} : Acts i h T (some (d, w)) T' →
      Acts i h T (some (d, some i)) (update T' d (.held (some i)))
  | unwatch {T' : Table ι δ} {d : δ} {w : Option ι} : Acts i h T (some (d, w)) T' →
      Acts i h T (some (d, none)) (update T' d (.held none))

omit [DecidableEq ι] in
theorem Acts.trans {h h' h'' : Holding ι δ} {T' T'' : Table ι δ}
    (h₁ : Acts i h T h' T') (h₂ : Acts i h' T' h'' T'') : Acts i h T h'' T'' := by
  induction h₂ with
  | refl => exact h₁
  | acquire _ hd ih => exact ih.acquire hd
  | release _ ih => exact ih.release
  | watch _ ih => exact ih.watch
  | unwatch _ ih => exact ih.unwatch

/-- **Agreement rule**: whatever one object does to its own slot keeps the
agreement of all. -/
theorem Acts.owned {h h' : Holding ι δ} {T' : Table ι δ} (ha : Acts i h T h' T')
    (hO : Owned T H) (hi : H i = h) : Owned T' (update H i h') := by
  induction ha with
  | refl => rwa [← hi, Function.update_eq_self]
  | acquire _ hd ih => simpa using (ih.acquire (Function.update_self ..) hd)
  | release _ ih => simpa using ih.release (Function.update_self ..)
  | watch _ ih => simpa using ih.rewatch (Function.update_self ..) (.inr rfl)
  | unwatch _ ih => simpa using ih.rewatch (Function.update_self ..) (.inl rfl)

/-! ## Nothing is lost -/

omit [DecidableEq ι] [DecidableEq δ] in
theorem Covered.empty {F : δ → Prop} (h : ∀ d, T d ≠ .free ↔ F d) :
    Covered T (fun _ : ι => none) F where
  covered d hd := .inr ((h d).mp hd)
  apart d hd := ⟨(h d).mpr hd, by simp⟩

variable {F : δ → Prop}

omit [DecidableEq δ] in
/-- One object changes its holding: what is held afterwards is its own, or
was there before and not its own, and what was not its own is still there. -/
theorem Covered.change {T' : Table ι δ} {h' : Holding ι δ} (h : Covered T H F)
    (hafter : ∀ d, T' d ≠ .free → (∃ w, h' = some (d, w)) ∨
      (T d ≠ .free ∧ ∀ w, H i ≠ some (d, w)))
    (hbefore : ∀ d, T d ≠ .free → (∀ w, H i ≠ some (d, w)) →
      T' d ≠ .free ∧ ∀ w, h' ≠ some (d, w)) : Covered T' (update H i h') F := by
  constructor
  case covered =>
    intro d hd
    rcases hafter d hd with ⟨w, hw⟩ | ⟨hT, hi⟩
    · exact .inl ⟨i, w, by rw [Function.update_self, hw]⟩
    · rcases h.covered d hT with ⟨k, w, hk⟩ | hF
      · refine .inl ⟨k, w, ?_⟩
        have hki : k ≠ i := by
          intro hki
          exact hi w (hki ▸ hk)
        rw [Function.update_of_ne hki, hk]
      · exact .inr hF
  case apart =>
    intro d hF
    obtain ⟨hT, hnone⟩ := h.apart d hF
    obtain ⟨hT', hh'⟩ := hbefore d hT (hnone i)
    refine ⟨hT', ?_⟩
    intro k w
    by_cases hki : k = i
    · subst hki
      rw [Function.update_self]
      exact hh' w
    · rw [Function.update_of_ne hki]
      exact hnone k w

omit [DecidableEq δ] in
theorem Covered.move {h' : Holding ι δ} (h : Covered T H F) (hi : H i = h') (hj : H j = none) :
    Covered T (update (update H i none) j h') F := by
  constructor
  case covered =>
    intro d hd
    rcases h.covered d hd with ⟨k, w, hk⟩ | hF
    · left
      by_cases hki : k = i
      · exact ⟨j, w, by rw [Function.update_self, ← hi, ← hki, hk]⟩
      · have hkj : k ≠ j := by
          intro hkj
          simp [hkj, hj] at hk
        exact ⟨k, w, by rw [Function.update_of_ne hkj, Function.update_of_ne hki, hk]⟩
    · exact .inr hF
  case apart => grind [h.apart]

theorem Covered.acquire (h : Covered T H F) (hi : H i = none) (hd : T d = .free) :
    Covered (update T d (.held none)) (update H i (some (d, none))) F := by
  refine h.change ?_ ?_
  · intro d' hd'
    by_cases hdd : d' = d
    · exact .inl ⟨none, by rw [hdd]⟩
    · exact .inr (by grind)
  · grind

theorem Covered.release (h : Covered T H F) (hi : H i = some (d, w)) :
    Covered (update T d .free) (update H i none) F := by
  refine h.change ?_ ?_
  · grind
  · grind

theorem Covered.rewatch (h : Covered T H F) (hi : H i = some (d, w)) :
    Covered (update T d (.held w')) (update H i (some (d, w'))) F := by
  refine h.change ?_ ?_
  · grind
  · grind

omit [DecidableEq ι] in
/-- Slots of no object are made. -/
theorem Covered.opened (h : Covered T H F) (hd : ∀ i w, H i ≠ some (d, w)) {s : Slot ι}
    (hs : s ≠ .free) : Covered (update T d s) H fun d' => d' = d ∨ F d' := by
  constructor
  case covered => grind [h.covered]
  case apart => grind [h.apart]

omit [DecidableEq ι] in
/-- And given back. -/
theorem Covered.closed (h : Covered T H F) :
    Covered (update T d .free) H fun d' => d' ≠ d ∧ F d' := by
  constructor
  case covered => grind [h.covered]
  case apart => grind [h.apart]

/-- **Accounting rule**: whatever one object does to its own slot keeps
every slot accounted for. -/
theorem Acts.covered {h h' : Holding ι δ} {T' : Table ι δ} (ha : Acts i h T h' T')
    (hC : Covered T H F) (hi : H i = h) : Covered T' (update H i h') F := by
  induction ha with
  | refl => rwa [← hi, Function.update_eq_self]
  | acquire _ hd ih => simpa using ih.acquire (Function.update_self ..) hd
  | release _ ih => simpa using ih.release (Function.update_self ..)
  | watch _ ih => simpa using ih.rewatch (Function.update_self ..)
  | unwatch _ ih => simpa using ih.rewatch (Function.update_self ..)

end Rules

/-! ## Programs of one object -/

section Programs

open CallTree Prog

variable {E : Type} {R : E → Type} {α β ι δ : Type} [DecidableEq δ]
variable {allows : Table ι δ → (e : E) → R e → Table ι δ → Prop}
variable {i : ι} {h h' : Holding ι δ} {post : α → Holding ι δ}

/-- Object `i` runs `p` with holding `h`. -/
def Does (allows : Table ι δ → (e : E) → R e → Table ι δ → Prop) (i : ι)
    (h : Holding ι δ) (p : Prog E R α) (post : α → Holding ι δ) : Prop :=
  ∀ T, p.wp allows (fun x T' => ∀ a, x = .returned a → Acts i h T (post a) T') T

theorem Does.exec {p : Prog E R α} (hp : Does allows i h p post) {T T' : Table ι δ} {a : α}
    (hx : p.Exec allows T (.returned a) T') : Acts i h T (post a) T' :=
  wp_sound (hp T) hx a rfl

/-- What is done before counts. -/
theorem Does.after {p : Prog E R α} {T₀ T : Table ι δ} (hp : Does allows i h' p post)
    (ha : Acts i h T₀ h' T) :
    p.wp allows (fun x T' => ∀ a, x = .returned a → Acts i h T₀ (post a) T') T :=
  wp_mono (fun _ _ hQ a hx => ha.trans (hQ a hx)) (hp T)

theorem does_ret {a : α} (ha : h = post a) :
    Does allows i h (.ret a : Prog E R α) post := by
  intro T b hb
  cases hb
  exact ha ▸ .refl

theorem does_fail (m : String) : Does allows i h (.fail m : Prog E R α) post := by
  intro T a ha
  cases ha

/-- **Call rule.** -/
theorem does_call {e : E} {f : R e → Prog E R α}
    (hr : ∀ T r T', allows T e r T' → ∃ h', Acts i h T h' T' ∧ Does allows i h' (f r) post) :
    Does allows i h (.call e f) post := by
  intro T r T' hrT
  obtain ⟨h', ha, hf⟩ := hr T r T' hrT
  exact hf.after ha

/-- **Sequencing rule.** -/
theorem does_bind {p : Prog E R β} {f : β → Prog E R α} {mid : β → Holding ι δ}
    (hp : Does allows i h p mid) (hf : ∀ b, Does allows i (mid b) (f b) post) :
    Does allows i h (p >>= f) post := by
  intro T
  rw [wp_bind]
  refine wp_mono ?_ (hp T)
  intro x T' hx
  cases x with
  | returned b => exact (hf b).after (hx b rfl)
  | failed m =>
    intro a ha
    cases ha

/-- **Frame rule**: sequencing after a part whose calls leave the table
alone. -/
theorem does_within_bind {C : E → Prop} {p : Prog E R β} {f : β → Prog E R α} {P : β → Prop}
    (hframe : ∀ T e r T', C e → allows T e r T' → T' = T) (hp : p.Within C P)
    (hf : ∀ b, P b → Does allows i h (f b) post) : Does allows i h (p >>= f) post := by
  intro T
  rw [wp_bind]
  refine wp_mono ?_ (hp.frame hframe T)
  intro x T' hx
  obtain ⟨rfl, hx⟩ := hx
  cases x with
  | returned b => exact hf b (hx b rfl) _
  | failed m =>
    intro a ha
    cases ha

end Programs

end Ownership
