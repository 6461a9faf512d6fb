import RecordRules.Number.Rounded
import Mathlib

/-!
# The integers that doubles round to

A double has 53 bits and zeros behind them, and it ends somewhere.

* `roundDiv` is a quotient rounded to the nearest number, of two the even one;
  `roundDiv_le_iff_of_odd` says where that is halfway between two.
* `nearest` is an integer rounded to 53 bits.  Up to `2 ^ 53` in size it is the integer itself
  (`nearest_of_le`), and up to `rangeEnd` it is not beyond the largest double
  (`natAbs_nearest_lt_iff`).
-/

set_option autoImplicit false

namespace RecordRules
namespace Double

/-! ## Rounded quotients -/

section Quotients

variable {n d q : Nat}

@[simp] theorem roundDiv_one (n : Nat) : roundDiv n 1 = n := by
  simp [roundDiv, Nat.mod_one]

theorem roundDiv_mul_right (n d : Nat) {c : Nat} (hc : 0 < c) :
    roundDiv (n * c) (d * c) = roundDiv n d := by
  have hlt : d * c < 2 * (n % d * c) ↔ d < 2 * (n % d) := by
    rw [← mul_assoc, Nat.mul_lt_mul_right hc]
  have heq : 2 * (n % d * c) = d * c ↔ 2 * (n % d) = d := by
    rw [← mul_assoc, Nat.mul_left_inj hc.ne']
  simp only [roundDiv, Nat.mul_div_mul_right n d hc, Nat.mul_mod_mul_right, Bool.or_eq_true,
    Bool.and_eq_true, decide_eq_true_eq, beq_iff_eq, hlt, heq]

/-- A rounded quotient is the quotient or one more. -/
theorem roundDiv_bounds (n d : Nat) : n / d ≤ roundDiv n d ∧ roundDiv n d ≤ n / d + 1 := by
  unfold roundDiv
  dsimp only
  split <;> omega

theorem le_roundDiv (hd : 0 < d) (h : q * d ≤ n) : q ≤ roundDiv n d :=
  ((Nat.le_div_iff_mul_le hd).2 h).trans (roundDiv_bounds n d).1

/-- A quotient is rounded to more than an odd number from halfway to the next one on. -/
theorem roundDiv_le_iff_of_odd (hd : 0 < d) (hq : q % 2 = 1) :
    roundDiv n d ≤ q ↔ 2 * n < (2 * q + 1) * d := by
  have hbounds := roundDiv_bounds n d
  have hrest : n % d < d := Nat.mod_lt n hd
  have hn : n = d * (n / d) + n % d := (Nat.div_add_mod n d).symm
  have hhalf : (2 * q + 1) * d = 2 * (d * q) + d := by ring
  rw [hhalf]
  rcases lt_trichotomy (n / d) q with hlt | heq | hgt
  · have hmul : d * (n / d) + d ≤ d * q := by
      rw [← Nat.mul_succ]
      exact Nat.mul_le_mul_left d hlt
    exact iff_of_true (by omega) (by omega)
  · rw [heq] at hn
    unfold roundDiv
    simp only [heq, hq, beq_self_eq_true, Bool.and_true, Bool.or_eq_true, decide_eq_true_eq,
      beq_iff_eq]
    split <;> omega
  · have hmul : d * q + d ≤ d * (n / d) := by
      rw [← Nat.mul_succ]
      exact Nat.mul_le_mul_left d hgt
    exact iff_of_false (by omega) (by omega)

end Quotients

/-! ## The nearest number of 53 bits -/

section Nearest

variable {n k : Nat}

/-- How many bits a natural number has beyond the 53 of a mantissa. -/
def excess (n : Nat) : Nat := n.log2 - 52

/-- The number of 53 bits with zeros behind them that is nearest to a natural number, of two the
one with the even mantissa. -/
def nearestNat (n : Nat) : Nat := roundDiv n (2 ^ excess n) * 2 ^ excess n

/-- The integer that the double nearest to an integer is, as if there were no largest double. -/
def nearest : Int → Int
  | .ofNat n => nearestNat n
  | .negSucc n => -(nearestNat (n + 1) : Int)

/-- The first natural number that is rounded beyond the largest double: it lies halfway between
that double and the next power of two. -/
def rangeEnd : Nat := 2 ^ 1024 - 2 ^ 970

/-- The first 53 of 53 bits and more, rounded. -/
theorem roundDiv_pow_bounds (h : n.log2 = 52 + k) :
    2 ^ 52 ≤ roundDiv n (2 ^ k) ∧ roundDiv n (2 ^ k) ≤ 2 ^ 53 := by
  have hne : n ≠ 0 := by
    rintro rfl
    rw [Nat.log2_zero] at h
    omega
  obtain ⟨hge, hlt⟩ := (Nat.log2_eq_iff hne).1 h
  have hsum : 52 + k + 1 = 53 + k := by omega
  refine ⟨le_roundDiv (Nat.two_pow_pos k) (by rwa [← pow_add]), ?_⟩
  have hdiv : n / 2 ^ k < 2 ^ 53 := by
    rwa [Nat.div_lt_iff_lt_mul (Nat.two_pow_pos k), ← pow_add, ← hsum]
  have hbounds := roundDiv_bounds n (2 ^ k)
  omega

theorem nearestNat_of_le (h : n ≤ 2 ^ 53) : nearestNat n = n := by
  rcases h.lt_or_eq with hlt | rfl
  · have hlog : excess n = 0 := by
      rcases Nat.eq_zero_or_pos n with rfl | hpos
      · rfl
      · have := (Nat.log2_lt hpos.ne').2 hlt
        rw [excess]
        omega
    rw [nearestNat, hlog, pow_zero, roundDiv_one, mul_one]
  · rfl

theorem log2_eq_excess (h : 52 ≤ n.log2) : n.log2 = 52 + excess n := by
  rw [excess]
  omega

theorem nearestNat_lt_of_log2_lt (h : n.log2 < 1023) : nearestNat n < 2 ^ 1024 := by
  rcases Nat.lt_or_ge n.log2 52 with hlow | hhigh
  · have hle : n ≤ 2 ^ 53 :=
      Nat.lt_log2_self.le.trans (pow_le_pow_right₀ one_le_two (by omega))
    rw [nearestNat_of_le hle]
    exact hle.trans_lt (by decide +kernel)
  · have hexcess := log2_eq_excess hhigh
    calc nearestNat n ≤ 2 ^ 53 * 2 ^ excess n :=
          Nat.mul_le_mul_right _ (roundDiv_pow_bounds hexcess).2
      _ = 2 ^ (53 + excess n) := (pow_add 2 53 _).symm
      _ < 2 ^ 1024 := pow_lt_pow_right₀ one_lt_two (by omega)

theorem le_nearestNat_of_lt_log2 (h : 1023 < n.log2) : 2 ^ 1024 ≤ nearestNat n := by
  have hexcess := log2_eq_excess (n := n) (by omega)
  calc 2 ^ 1024 ≤ 2 ^ (52 + excess n) := pow_le_pow_right₀ one_le_two (by omega)
    _ = 2 ^ 52 * 2 ^ excess n := pow_add 2 52 _
    _ ≤ nearestNat n := Nat.mul_le_mul_right _ (roundDiv_pow_bounds hexcess).1

/-- Of the numbers with as many bits as the largest double, those from halfway on are rounded
beyond it. -/
theorem nearestNat_lt_iff_of_log2 (h : n.log2 = 1023) : nearestNat n < 2 ^ 1024 ↔ n < rangeEnd := by
  have hexcess : excess n = 971 := by rw [excess, h]
  have hsplit : 2 ^ 1024 = (2 ^ 53 - 1 + 1) * 2 ^ 971 := by decide +kernel
  have hhalf : (2 * (2 ^ 53 - 1) + 1) * 2 ^ 971 = 2 * rangeEnd := by decide +kernel
  have hpos : 0 < 2 ^ 971 := by positivity
  rw [nearestNat, hexcess, hsplit, Nat.mul_lt_mul_right hpos, Nat.lt_succ_iff,
    roundDiv_le_iff_of_odd hpos (by norm_num), hhalf, Nat.mul_lt_mul_left two_pos]

/-- **Below `rangeEnd`, numbers are not rounded beyond the largest double.** -/
theorem nearestNat_lt_iff : nearestNat n < 2 ^ 1024 ↔ n < rangeEnd := by
  rcases lt_trichotomy n.log2 1023 with hsmall | hlog | hlarge
  · refine iff_of_true (nearestNat_lt_of_log2_lt hsmall) ?_
    calc n < 2 ^ (n.log2 + 1) := Nat.lt_log2_self
      _ ≤ 2 ^ 1023 := pow_le_pow_right₀ one_le_two hsmall
      _ ≤ rangeEnd := by decide +kernel
  · exact nearestNat_lt_iff_of_log2 hlog
  · have hne : n ≠ 0 := by
      rintro rfl
      exact absurd hlarge (by decide)
    refine iff_of_false (Nat.not_lt.2 (le_nearestNat_of_lt_log2 hlarge)) (Nat.not_lt.2 ?_)
    calc rangeEnd ≤ 2 ^ 1024 := Nat.sub_le _ _
      _ ≤ 2 ^ n.log2 := pow_le_pow_right₀ one_le_two hlarge
      _ ≤ n := Nat.log2_self_le hne

theorem natAbs_nearest (n : Int) : (nearest n).natAbs = nearestNat n.natAbs := by
  cases n with
  | ofNat n => rfl
  | negSucc n => exact Int.natAbs_neg _

/-- **An integer of at most 53 bits is a double.** -/
theorem nearest_of_le {n : Int} (h : n.natAbs ≤ 2 ^ 53) : nearest n = n := by
  cases n with
  | ofNat n => exact congrArg Int.ofNat (nearestNat_of_le h)
  | negSucc n => exact congrArg (fun k : Nat => -(k : Int)) (nearestNat_of_le h)

theorem natAbs_nearest_lt_iff {n : Int} : (nearest n).natAbs < 2 ^ 1024 ↔ n.natAbs < rangeEnd := by
  rw [natAbs_nearest, nearestNat_lt_iff]

end Nearest

end Double
end RecordRules
