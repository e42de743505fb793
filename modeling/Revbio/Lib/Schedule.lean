/-
Revbio.Lib.Schedule — when an alarm that has been set goes off.

A schedule is set at some time for a first expiration after a delay, and
for further ones at a fixed distance; distance `0` means there are none.
`due` counts the expirations up to a time. It depends on that time alone,
so a schedule that is looked at late has lost nothing.

`due_regular` and `due_single` are the closed forms for the two ways an
alarm is mostly set: to go off regularly, and once.
-/
import Mathlib.Data.Nat.Init

structure Schedule where
  since : Nat
  first : Nat
  distance : Nat
  deriving DecidableEq, Repr

namespace Schedule

variable {s : Schedule} {now now' : Nat}

/-- The expirations up to `now`. -/
def due (s : Schedule) (now : Nat) : Nat :=
  if now < s.since + s.first then 0
  else if s.distance = 0 then 1
  else 1 + (now - (s.since + s.first)) / s.distance

/-- No further expirations come. -/
def Over (s : Schedule) (now : Nat) : Prop := s.distance = 0 ∧ 0 < s.due now

instance (s : Schedule) (now : Nat) : Decidable (s.Over now) :=
  inferInstanceAs (Decidable (_ ∧ _))

theorem due_since (h : 0 < s.first) : s.due s.since = 0 := by
  simp [due, h]

theorem due_pos : 0 < s.due now ↔ s.since + s.first ≤ now := by
  unfold due
  split
  case isTrue hlt => simp [hlt]
  case isFalse hge =>
    have hle : s.since + s.first ≤ now := by omega
    split
    · simp [hle]
    · exact iff_of_true (Nat.add_pos_left Nat.one_pos _) hle

theorem due_le_one (h : s.distance = 0) : s.due now ≤ 1 := by
  unfold due
  simp only [h, if_true]
  split <;> omega

/-- Time only adds expirations. -/
theorem due_mono (h : now ≤ now') : s.due now ≤ s.due now' := by
  by_cases hlt : now < s.since + s.first
  · simp [due, hlt]
  · have hlt' : ¬ now' < s.since + s.first := by omega
    have hle : now - (s.since + s.first) ≤ now' - (s.since + s.first) := by omega
    simp only [due, hlt, hlt', if_false]
    split
    · exact Nat.le_refl _
    · exact Nat.add_le_add_left (Nat.div_le_div_right hle) 1

theorem Over.due_eq (h : s.Over now) (hle : now ≤ now') : s.due now' = s.due now := by
  have hmono : s.due now ≤ s.due now' := due_mono hle
  have hone : s.due now' ≤ 1 := due_le_one h.1
  have hpos := h.2
  omega

theorem Over.later (h : s.Over now) (hle : now ≤ now') : s.Over now' :=
  ⟨h.1, by rw [h.due_eq hle]; exact h.2⟩

/-- What is not over goes off again. -/
theorem exists_due (h : ¬ s.Over now) : ∃ d, s.due now < s.due (now + d) := by
  by_cases hlt : now < s.since + s.first
  · refine ⟨s.since + s.first, ?_⟩
    have hzero : s.due now = 0 := by simp [due, hlt]
    rw [hzero, due_pos]
    omega
  · have hpos : 0 < s.due now := due_pos.mpr (by omega)
    have hdistance : s.distance ≠ 0 := fun hd => h ⟨hd, hpos⟩
    have hlt' : ¬ now + s.distance < s.since + s.first := by omega
    have hsplit : now + s.distance - (s.since + s.first) =
        now - (s.since + s.first) + s.distance := by omega
    refine ⟨s.distance, ?_⟩
    simp only [due, hlt, hlt', hdistance, if_false, hsplit,
      Nat.add_div_right _ (Nat.pos_of_ne_zero hdistance)]
    omega

/-- An alarm that goes off every `s.first`. -/
theorem due_regular (h : s.distance = s.first) (hpos : 0 < s.first) (hnow : s.since ≤ now) :
    s.due now = (now - s.since) / s.first := by
  unfold due
  split
  case isTrue hlt => rw [Nat.div_eq_of_lt (by omega)]
  case isFalse hge =>
    have hsplit : now - s.since = (now - (s.since + s.first)) + s.first := by omega
    rw [if_neg (by omega), h, hsplit, Nat.add_div_right _ hpos, Nat.add_comm]

/-- An alarm that goes off once. -/
theorem due_single (h : s.distance = 0) (hpos : 0 < s.first) (hnow : s.since ≤ now) :
    s.due now = min 1 ((now - s.since) / s.first) := by
  unfold due
  split
  case isTrue hlt => rw [Nat.div_eq_of_lt (by omega), Nat.min_zero]
  case isFalse hge =>
    have hone : 1 ≤ (now - s.since) / s.first := (Nat.le_div_iff_mul_le hpos).mpr (by omega)
    rw [Nat.min_eq_left hone]

end Schedule
