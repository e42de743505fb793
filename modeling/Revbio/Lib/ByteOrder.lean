/-
Revbio.Lib.ByteOrder — words of a fixed width as bytes, in either order.

`leBytes w x` are the `w` bytes of `x` from the least significant one on,
`beBytes w x` the same from the most significant one on; `ofLe` and `ofBe`
read them back. Each pair is a round trip in both directions
(`ofLe_leBytes`, `leBytes_ofLe`), so a word whose value is known as
`ofLe bs` has the bytes `bs`, and a word built by shifts is known that way
(`ofLe_cons_or`).
-/
import Mathlib.Data.Nat.Digits.Defs

namespace ByteOrder

/-- The `w` low bytes of `x`, least significant first. -/
def leBytes : Nat → Nat → List UInt8
  | 0, _ => []
  | w + 1, x => UInt8.ofNat x :: leBytes w (x / 256)

/-- The `w` low bytes of `x`, most significant first. -/
def beBytes (w x : Nat) : List UInt8 := (leBytes w x).reverse

/-- The number whose bytes are `bs`, least significant first. -/
def ofLe (bs : List UInt8) : Nat := Nat.ofDigits 256 (bs.map UInt8.toNat)

/-- The number whose bytes are `bs`, most significant first. -/
def ofBe (bs : List UInt8) : Nat := ofLe bs.reverse

@[simp] theorem leBytes_zero (x : Nat) : leBytes 0 x = [] := rfl

@[simp] theorem leBytes_succ (w x : Nat) :
    leBytes (w + 1) x = UInt8.ofNat x :: leBytes w (x / 256) := rfl

@[simp] theorem ofLe_nil : ofLe [] = 0 := rfl

theorem ofLe_cons (b : UInt8) (bs : List UInt8) :
    ofLe (b :: bs) = b.toNat + 256 * ofLe bs := by
  simp [ofLe, Nat.ofDigits_cons]

/-- One more byte at the low end, the way code shifts it in. -/
theorem ofLe_cons_or (b : UInt8) (bs : List UInt8) :
    ofLe (b :: bs) = ofLe bs <<< 8 ||| b.toNat := by
  rw [ofLe_cons, ← Nat.shiftLeft_add_eq_or_of_lt b.toNat_lt, Nat.shiftLeft_eq]
  omega

@[simp] theorem length_leBytes (w x : Nat) : (leBytes w x).length = w := by
  induction w generalizing x with
  | zero => rfl
  | succ w ih => simp [ih]

@[simp] theorem length_beBytes (w x : Nat) : (beBytes w x).length = w := by
  simp [beBytes]

theorem ofLe_leBytes {w x : Nat} (h : x < 256 ^ w) : ofLe (leBytes w x) = x := by
  induction w generalizing x with
  | zero =>
    have : x = 0 := by simpa using h
    simp [this]
  | succ w ih =>
    have hq : x / 256 < 256 ^ w := by
      rw [Nat.pow_succ] at h
      omega
    rw [leBytes_succ, ofLe_cons, ih hq, UInt8.toNat_ofNat']
    omega

theorem leBytes_ofLe (bs : List UInt8) : leBytes bs.length (ofLe bs) = bs := by
  induction bs with
  | nil => rfl
  | cons b bs ih =>
    have hb := b.toNat_lt
    have hq : (b.toNat + 256 * ofLe bs) / 256 = ofLe bs := by omega
    have hr : UInt8.ofNat (b.toNat + 256 * ofLe bs) = b := by
      rw [← UInt8.toNat_inj, UInt8.toNat_ofNat']
      omega
    rw [List.length_cons, leBytes_succ, ofLe_cons, hq, hr, ih]

theorem ofBe_beBytes {w x : Nat} (h : x < 256 ^ w) : ofBe (beBytes w x) = x := by
  rw [ofBe, beBytes, List.reverse_reverse, ofLe_leBytes h]

theorem beBytes_ofLe (bs : List UInt8) : beBytes bs.length (ofLe bs) = bs.reverse := by
  rw [beBytes, leBytes_ofLe]

end ByteOrder
