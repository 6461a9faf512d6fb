import Mathlib
import RecordRules.Number.Double

/-!
# Doubles as numbers

What the arithmetic of doubles means for their truth and for their parts.

* `Parts.Encodes` ties the parts of a double to its bits, and `Parts.Normal` is what they are like.
* `parts?_inj`: the parts tell the double.
-/

set_option autoImplicit false

namespace RecordRules
namespace Double

/-- What is no number is not zero. -/
theorem bne_zero_of_isNaN {x : Float} (h : x.isNaN = true) : (x != 0.0) = true := by
  rw [Float.isNaN_eq_decide_eq_nan, decide_eq_true_eq] at h
  rw [h, bne, Float.nan_beq_eq_false]
  rfl

/-! ## Parts -/

theorem twoTo_eq (n : Nat) : twoTo n = 2 ^ n := rfl

/-- The bits of a double as its parts. -/
structure Parts.Encodes (p : Parts) (bits : Nat) : Prop where
  negative : p.negative = (bits / 2 ^ 63 == 1)
  finite : bits / 2 ^ 52 % 2 ^ 11 ≠ 2047
  small : bits / 2 ^ 52 % 2 ^ 11 = 0 → p.mantissa = bits % 2 ^ 52 ∧ p.exponent = -1074
  large : bits / 2 ^ 52 % 2 ^ 11 ≠ 0 → p.mantissa = bits % 2 ^ 52 + 2 ^ 52 ∧
    p.exponent = (bits / 2 ^ 52 % 2 ^ 11 : Nat) - 1075

theorem parts?_encodes {x : Float} {p : Parts} (h : parts? x = some p) :
    p.Encodes x.toBits.toNat := by
  simp only [parts?, twoTo_eq, beq_iff_eq] at h
  by_cases hinf : x.toBits.toNat / 2 ^ 52 % 2 ^ 11 = 2047
  · rw [if_pos hinf] at h
    cases h
  · rw [if_neg hinf] at h
    by_cases hzero : x.toBits.toNat / 2 ^ 52 % 2 ^ 11 = 0
    · rw [if_pos hzero] at h
      cases h
      exact ⟨rfl, hinf, fun _ => ⟨rfl, rfl⟩, fun hne => absurd hzero hne⟩
    · rw [if_neg hzero] at h
      cases h
      exact ⟨rfl, hinf, fun heq => absurd heq hzero, fun _ => ⟨rfl, rfl⟩⟩

/-- The parts of a double: a mantissa of 53 bits, the first of which is only zero at the lowest
exponent. -/
structure Parts.Normal (p : Parts) : Prop where
  mantissa : p.mantissa < 2 ^ 53
  exponent : -1074 ≤ p.exponent
  leading : p.exponent ≠ -1074 → 2 ^ 52 ≤ p.mantissa

theorem Parts.Encodes.normal {p : Parts} {bits : Nat} (h : p.Encodes bits) : p.Normal := by
  obtain ⟨-, -, hsmall, hlarge⟩ := h
  by_cases hzero : bits / 2 ^ 52 % 2 ^ 11 = 0
  · obtain ⟨hm, he⟩ := hsmall hzero
    exact ⟨by omega, by omega, by omega⟩
  · obtain ⟨hm, he⟩ := hlarge hzero
    exact ⟨by omega, by omega, by omega⟩

theorem Parts.Encodes.inj {p : Parts} {a b : Nat} (ha : p.Encodes a) (hb : p.Encodes b)
    (hal : a < 2 ^ 64) (hbl : b < 2 ^ 64) : a = b := by
  obtain ⟨hneg, -, hsmall, hlarge⟩ := ha
  obtain ⟨hneg', -, hsmall', hlarge'⟩ := hb
  have hsign : a / 2 ^ 63 = 1 ↔ b / 2 ^ 63 = 1 := by
    rw [← beq_iff_eq, ← hneg, hneg', beq_iff_eq]
  by_cases hzero : a / 2 ^ 52 % 2 ^ 11 = 0 <;> by_cases hzero' : b / 2 ^ 52 % 2 ^ 11 = 0
  · have h₁ := hsmall hzero
    have h₂ := hsmall' hzero'
    omega
  · have h₁ := hsmall hzero
    have h₂ := hlarge' hzero'
    omega
  · have h₁ := hlarge hzero
    have h₂ := hsmall' hzero'
    omega
  · have h₁ := hlarge hzero
    have h₂ := hlarge' hzero'
    omega

/-- No two finite doubles have the same parts. -/
theorem parts?_inj {x y : Float} {p : Parts} (hx : parts? x = some p) (hy : parts? y = some p) :
    x = y :=
  Float.toBits_inj.1 (UInt64.toNat_inj.1
    ((parts?_encodes hx).inj (parts?_encodes hy) x.toBits.toNat_lt y.toBits.toNat_lt))

/-- What has no parts is infinite or no number. -/
theorem isInf_of_parts?_eq_none {x : Float} (h : parts? x = none) (hnan : x.isNaN = false) :
    x.isInf = true := by
  simp only [parts?, twoTo_eq, beq_iff_eq] at h
  have hexponent : x.toBits.toNat / 2 ^ 52 % 2 ^ 11 = 2047 := by
    by_contra hne
    rw [if_neg hne] at h
    split at h <;> cases h
  have hbits : @Float.Model.UnpackedFloat.unpackExponent .binary64 x.toModel.toBits.toBitVec =
      -1#11 := by
    rw [Float.Model.UnpackedFloat.unpackExponent_def]
    refine BitVec.eq_of_toNat_eq ?_
    rw [BitVec.extractLsb'_toNat, Nat.shiftRight_eq_div_pow]
    exact hexponent
  rw [Float.isNaN, Float.Model.isNaN, Float.Model.unpack, Float.Model.UnpackedFloat.unpack] at hnan
  rw [Float.isInf, Float.Model.isInf, Float.Model.unpack, Float.Model.UnpackedFloat.unpack]
  rw [if_pos hbits] at hnan ⊢
  split at hnan
  · rename_i hm
    rw [if_pos hm]
    rfl
  · cases hnan

end Double
end RecordRules
