import RecordRules.Proofs.Number.Nearest
import RecordRules.Proofs.Number.Shortest

/-!
# Integers as doubles

An integer becomes the double nearest to it, and fails to become one beyond the largest double.

* `Shifted`: what is left of a mantissa that is shifted to the right.  The two bits that are kept of
  the rest suffice to round it (`Shifted.roundedMantissa_eq`).
* `Spells` is the integer that the parts of a finite double are, and `Rounds` the integers that an
  unpacked double is rounded from, if only 53 bits of them count.
* `rounds_ofInt`: the double of an integer is the nearest one.  From it `ofInt?_eq_none_iff` says
  which integers have no double, and `beq_of_ofInt?` when the doubles of two are equal.
-/

set_option autoImplicit false

namespace RecordRules
namespace Double

open Float.Model (UnpackedFloat)
open Float.Model.UnpackedFloat

/-! ## Shifting a mantissa -/

section Shifts

variable {m k : Nat} {em : ExtendedMantissa}

/-- A mantissa after a shift to the right: the bits that are left, whether the rest is half a unit
or more, and whether it is neither nothing nor half a unit. -/
structure Shifted (m k : Nat) (em : ExtendedMantissa) : Prop where
  mantissa : em.mantissa = m / 2 ^ k
  roundBit : em.roundBit = true ↔ 2 ^ k ≤ 2 * (m % 2 ^ k)
  stickyBit : em.stickyBit = true ↔ m % 2 ^ k ≠ 0 ∧ 2 * (m % 2 ^ k) ≠ 2 ^ k

theorem Shifted.shiftRightOne (h : Shifted m k em) : Shifted m (k + 1) em.shiftRightOne := by
  have hpos : 0 < 2 ^ k := Nat.two_pow_pos k
  have hrest : m % 2 ^ k < 2 ^ k := Nat.mod_lt m hpos
  -- the bit that is shifted out now is the first one of the new rest
  have hmod : m % 2 ^ (k + 1) = m % 2 ^ k + 2 ^ k * (m / 2 ^ k % 2) := by
    rw [pow_succ, Nat.mod_mul]
  refine ⟨?_, ?_, ?_⟩
  · rw [ExtendedMantissa.shiftRightOne, h.mantissa, Nat.div_div_eq_div_mul, pow_succ]
  · rw [ExtendedMantissa.shiftRightOne, h.mantissa, bne_iff_ne, hmod, pow_succ]
    rcases Nat.mod_two_eq_zero_or_one (m / 2 ^ k) with hb | hb <;> rw [hb] <;> omega
  · rw [ExtendedMantissa.shiftRightOne, Bool.or_eq_true, h.roundBit, h.stickyBit, hmod, pow_succ]
    rcases Nat.mod_two_eq_zero_or_one (m / 2 ^ k) with hb | hb <;> rw [hb] <;> omega

theorem shifted_shiftRight (m k : Nat) :
    Shifted m k (ExtendedMantissa.ofMantissaAndAccuracy m .exact >>> k) := by
  induction k with
  | zero =>
    refine ⟨(Nat.div_one m).symm, ?_, ?_⟩
    · rw [pow_zero, Nat.mod_one]
      exact iff_of_false Bool.false_ne_true (by omega)
    · rw [pow_zero, Nat.mod_one]
      exact iff_of_false Bool.false_ne_true (by omega)
  | succ k ih => exact ih.shiftRightOne

/-- **A shifted mantissa is rounded as the quotient is.** -/
theorem Shifted.roundedMantissa_eq (h : Shifted m k em) :
    em.roundedMantissa = roundDiv m (2 ^ k) := by
  obtain ⟨mantissa, roundBit, stickyBit⟩ := em
  obtain ⟨rfl, hround, hsticky⟩ := h
  dsimp only at hround hsticky
  have hpos : 0 < 2 ^ k := Nat.two_pow_pos k
  simp only [roundDiv, Bool.or_eq_true, Bool.and_eq_true, decide_eq_true_eq, beq_iff_eq]
  cases roundBit with
  | false =>
    have hlow : 2 * (m % 2 ^ k) < 2 ^ k := Nat.not_le.1 (mt hround.2 Bool.false_ne_true)
    rw [if_neg (by omega)]
    cases stickyBit <;> rfl
  | true =>
    have hhigh : 2 ^ k ≤ 2 * (m % 2 ^ k) := hround.1 rfl
    cases stickyBit with
    | false =>
      have hhalf : 2 * (m % 2 ^ k) = 2 ^ k := by
        by_contra hne
        exact Bool.false_ne_true (hsticky.2 ⟨by omega, hne⟩)
      change m / 2 ^ k + m / 2 ^ k % 2 = _
      split <;> omega
    | true =>
      have hmore : 2 * (m % 2 ^ k) ≠ 2 ^ k := (hsticky.1 rfl).2
      rw [if_pos (by omega)]
      rfl

/-- The exponent that leaves 53 bits of a mantissa, unless it is below the least one. -/
theorem targetExponent_eq (m : Nat) (e : Int) :
    Float.Model.Format.binary64.targetExponent (Float.Model.totalExponent m e) =
      max (m.log2 + e - 52) (-1074) := by
  have hbits : (Float.Model.Format.binary64.mantissaBits : Int) = 53 := rfl
  have hleast : Float.Model.Format.binary64.minExponent = -1074 := rfl
  rw [Float.Model.Format.targetExponent, Float.Model.totalExponent, hbits, hleast]
  omega

/-- Of a mantissa with `k` bits more than 53, `k` bits are cut off. -/
theorem shiftToTargetExponent_eq {e : Int} (hm : m.log2 = 52 + k) (he : -1074 ≤ e + k) :
    shiftToTargetExponent .binary64 m e .exact =
      (ExtendedMantissa.ofMantissaAndAccuracy m .exact >>> k, e + k) := by
  have hshift : (max ((m.log2 : Int) + e - 52) (-1074) - e).toNat = k := by omega
  rw [shiftToTargetExponent, shiftToExponent, targetExponent_eq, hshift]

/-- A mantissa with `k` bits more than 53 is rounded to 53 bits, and cut once more if that has
carried into the next one. -/
theorem roundWithAccuracy_eq (s : Sign) {e : Int} (hm : m.log2 = 52 + k) (he : -1074 ≤ e + k) :
    ∃ m' e' h, roundWithAccuracy .binary64 s m e .exact = .finite s m' e' h ∧ m'.log2 = 52 ∧
      (-1074 ≤ e' ∧ e' ≤ e + k + 1) ∧ (m' : ℚ) * 2 ^ e' = roundDiv m (2 ^ k) * 2 ^ (e + k) := by
  obtain ⟨hge, hle⟩ := roundDiv_pow_bounds hm
  have hround := (shifted_shiftRight m k).roundedMantissa_eq
  rw [roundWithAccuracy, shiftToTargetExponent_eq hm he]
  dsimp only
  rw [hround]
  rcases hle.lt_or_eq with hlt | heq
  · have hlog : (roundDiv m (2 ^ k)).log2 = 52 + 0 := (Nat.log2_eq_iff (by omega)).2 ⟨hge, hlt⟩
    rw [shiftToTargetExponent_eq hlog (by omega)]
    refine ⟨roundDiv m (2 ^ k), e + k + 0, by omega, dif_neg ?_, hlog, by omega, by simp⟩
    change roundDiv m (2 ^ k) ≠ 0
    omega
  · have hlog : (2 ^ 53).log2 = 52 + 1 := Nat.log2_two_pow
    rw [heq, shiftToTargetExponent_eq hlog (by omega)]
    refine ⟨2 ^ 52, e + k + 1, by positivity, dif_neg ?_, Nat.log2_two_pow, by omega, ?_⟩
    · change 2 ^ 53 / 2 ≠ 0
      norm_num
    · rw [zpow_add_one₀ two_ne_zero]
      push_cast
      ring

end Shifts

/-! ## Spelling an integer -/

/-- The sign, the 53 bits and the exponent of the finite double that is an integer. -/
structure Spells (s : Sign) (m : ℕ) (e v : ℤ) : Prop where
  bits : m.log2 = 52
  least : -1074 ≤ e
  greatest : e ≤ 971
  value : (v : ℚ) = s.apply m * 2 ^ e

section Spelling

variable {s t : Sign} {m n : ℕ} {e f v : ℤ}

namespace Spells

theorem mantissa (h : Spells s m e v) : 2 ^ 52 ≤ m ∧ m < 2 ^ 53 := by
  have hne : m ≠ 0 := by
    rintro rfl
    exact absurd h.bits (by decide)
  exact (Nat.log2_eq_iff hne).1 h.bits

theorem natAbs_eq (h : Spells s m e v) : (v.natAbs : ℚ) = m * 2 ^ e := by
  have hpower : (0 : ℚ) < 2 ^ e := by positivity
  rw [Nat.cast_natAbs, Int.cast_abs, h.value, abs_mul, abs_of_pos hpower]
  cases s <;> simp [Sign.apply]

theorem natAbs_pos (h : Spells s m e v) : 0 < v.natAbs := by
  have hm : (0 : ℚ) < m := by exact_mod_cast (Nat.two_pow_pos 52).trans_le h.mantissa.1
  have hpos : (0 : ℚ) < v.natAbs := by
    rw [h.natAbs_eq]
    positivity
  exact_mod_cast hpos

theorem natAbs_lt (h : Spells s m e v) : v.natAbs < 2 ^ 1024 := by
  have hm : (m : ℚ) < 2 ^ 53 := by exact_mod_cast h.mantissa.2
  have hlt : (v.natAbs : ℚ) < 2 ^ 1024 := by
    rw [h.natAbs_eq]
    calc (m : ℚ) * 2 ^ e < 2 ^ 53 * 2 ^ e := mul_lt_mul_of_pos_right hm (by positivity)
      _ ≤ 2 ^ 53 * 2 ^ (971 : ℤ) :=
        mul_le_mul_of_nonneg_left (zpow_le_zpow_right₀ one_le_two h.greatest) (by positivity)
      _ = 2 ^ 1024 := by
        rw [← zpow_natCast, ← zpow_natCast, ← zpow_add₀ two_ne_zero]
        rfl
  exact_mod_cast hlt

theorem neg (h : Spells s m e v) : Spells (-s) m e (-v) := by
  have happly : (-s).apply m = -s.apply m := by
    cases s with
    | positive => rfl
    | negative => exact (Int.neg_neg (m : ℤ)).symm
  refine ⟨h.bits, h.least, h.greatest, ?_⟩
  rw [Int.cast_neg, h.value, happly, Int.cast_neg, neg_mul]

theorem sign_eq (h : Spells s m e v) : s = if v < 0 then .negative else .positive := by
  have hpos : (0 : ℚ) < m * 2 ^ e := h.natAbs_eq ▸ by exact_mod_cast h.natAbs_pos
  have hvalue := h.value
  cases s with
  | negative =>
    have hneg : (v : ℚ) < 0 := by
      rw [hvalue]
      simpa [Sign.apply] using hpos
    rw [if_pos (by exact_mod_cast hneg)]
  | positive =>
    have hpos : (0 : ℚ) < v := by
      rw [hvalue]
      simpa [Sign.apply] using hpos
    rw [if_neg (not_lt.2 (by exact_mod_cast hpos.le))]

end Spells

/-- A double covers itself. -/
theorem Parts.covers_value (p : Parts) : p.Covers (p.mantissa * 2 ^ p.exponent) := by
  have hvalue : (p.mantissa : ℚ) * 2 ^ p.exponent = 4 * p.mantissa * p.quarter := by
    rw [quarter]
    ring
  have hbelow : (0 : ℚ) < p.below := by
    rcases p.below_eq with h | h <;> rw [h.1] <;> norm_num
  have hlow : p.low < p.mantissa * 2 ^ p.exponent := by
    rw [hvalue, low]
    exact mul_lt_mul_of_pos_right (by linarith) p.quarter_pos
  have hhigh : p.mantissa * 2 ^ p.exponent < p.high := by
    rw [hvalue, high]
    exact mul_lt_mul_of_pos_right (by linarith) p.quarter_pos
  exact ⟨hlow.le, hhigh.le, fun _ => ⟨hlow, hhigh⟩⟩

/-- An integer is spelled in one way. -/
theorem Spells.unique (h : Spells s m e v) (h' : Spells t n f v) : s = t ∧ m = n ∧ e = f := by
  have hparts : ∀ {s : Sign} {m : ℕ} {e : ℤ}, Spells s m e v →
      Parts.Normal ⟨false, m, e⟩ ∧ Parts.Covers ⟨false, m, e⟩ v.natAbs := fun h =>
    ⟨⟨h.mantissa.2, h.least, fun _ => h.mantissa.1⟩, h.natAbs_eq ▸ Parts.covers_value _⟩
  obtain ⟨hp, hcovers⟩ := hparts h
  obtain ⟨hq, hcovers'⟩ := hparts h'
  exact ⟨h.sign_eq.trans h'.sign_eq.symm, hcovers.unique hp hq hcovers'⟩

end Spelling

/-! ## Packing a double -/

section Packing

variable {s : Sign} {m : ℕ} {e : ℤ}

/-- What a double is whose exponent is neither the least nor the greatest. -/
theorem unpack_packComponents {exponent : BitVec 11} (hleast : exponent ≠ 0#11)
    (hgreatest : exponent ≠ -1#11) (mantissa : BitVec 52) :
    ∃ h, unpack .binary64 (packComponents .binary64 s exponent mantissa) =
      .finite s (2 ^ 52 + mantissa.toNat) (exponent.toNat - 1075) h := by
  have hmantissa : (1#1 ++ mantissa).toNat = 2 ^ 52 + mantissa.toNat := by
    rw [BitVec.toNat_append, ← Nat.shiftLeft_add_eq_or_of_lt mantissa.isLt]
    rfl
  refine ⟨by positivity, ?_⟩
  rw [unpack]
  simp only [unpackExponent_packComponents, unpackMantissa_packComponents,
    unpackSign_packComponents, Sign.ofBitVec_toBitVec]
  rw [if_neg hgreatest, if_neg hleast, finite.injEq]
  exact ⟨rfl, hmantissa, rfl⟩

/-- A double with 53 bits is infinite beyond the greatest exponent. -/
theorem pack_finite (hpos : 0 < m) (bits : m.log2 = 52) :
    pack .binary64 (.finite s m e hpos) = if 971 < e then packedInfinity .binary64 s else
      packComponents .binary64 s (BitVec.ofNat 11 (e + 1075).toNat) (BitVec.ofNat 52 m) := by
  have hbiased : (e + (Float.Model.Format.binary64.exponentBias : ℤ) +
      (Float.Model.Format.binary64.mantissaBitsWithoutImplicit : ℤ)).toNat = (e + 1075).toNat := by
    rw [add_assoc]
    rfl
  rw [pack, hbiased]
  by_cases hbeyond : 971 < e
  · rw [if_pos hbeyond, if_pos (by change 2 ^ 11 ≤ _; omega)]
  · rw [if_neg hbeyond, if_neg (by change ¬ 2 ^ 11 ≤ _; omega),
      if_pos (by change m.log2 + 1 = 53; omega)]

theorem unpack_pack_finite (hpos : 0 < m) (bits : m.log2 = 52) (least : -1074 ≤ e)
    (greatest : e ≤ 971) :
    unpack .binary64 (pack .binary64 (.finite s m e hpos)) = .finite s m e hpos := by
  obtain ⟨hge, hlt⟩ := (Nat.log2_eq_iff hpos.ne').1 bits
  have hexponent : (BitVec.ofNat 11 (e + 1075).toNat).toNat = (e + 1075).toNat :=
    Nat.mod_eq_of_lt (by omega)
  have hmantissa : (BitVec.ofNat 52 m).toNat = m - 2 ^ 52 := by
    rw [BitVec.toNat_ofNat]
    omega
  have hne : ∀ n : BitVec 11, n.toNat = 0 ∨ n.toNat = 2047 →
      BitVec.ofNat 11 (e + 1075).toNat ≠ n := by
    rintro n hn rfl
    omega
  obtain ⟨_, h⟩ := unpack_packComponents (s := s) (hne _ (.inl rfl)) (hne _ (.inr rfl))
    (BitVec.ofNat 52 m)
  rw [pack_finite hpos bits, if_neg (by omega), h, finite.injEq, hexponent, hmantissa]
  exact ⟨rfl, by omega, by omega⟩

theorem unpack_packedInfinity (s : Sign) :
    unpack .binary64 (packedInfinity .binary64 s) = .infinity s := by
  cases s <;> rfl

end Packing

/-! ## Doubles of integers -/

/-- The integers that an unpacked double is rounded from or is: zero, an integer that it spells, or
all that are too large. -/
inductive Rounds : UnpackedFloat → ℤ → Prop
  | zero (s : Sign) : Rounds (.zero s) 0
  | finite {s : Sign} {m : ℕ} {e v : ℤ} {hpos : 0 < m} (h : Spells s m e v) :
    Rounds (.finite s m e hpos) v
  | infinity (s : Sign) {v : ℤ} (huge : 2 ^ 1024 ≤ v.natAbs) : Rounds (.infinity s) v

namespace Rounds

variable {x y : UnpackedFloat} {v w : ℤ}

theorem unpack_pack (h : Rounds x v) : unpack .binary64 (pack .binary64 x) = x := by
  cases h with
  | zero s => exact unpack_packedZero
  | @finite s m e v hpos h => exact unpack_pack_finite hpos h.bits h.least h.greatest
  | infinity s _ => exact unpack_packedInfinity s

theorem neg (h : Rounds x v) : Rounds x.neg (-v) := by
  cases h with
  | zero s => exact .zero (-s)
  | finite h => exact .finite h.neg
  | infinity s huge => exact .infinity (-s) (by rwa [Int.natAbs_neg])

theorem isInf_iff (h : Rounds x v) : x.isInf = true ↔ 2 ^ 1024 ≤ v.natAbs := by
  cases h with
  | zero s => exact iff_of_false Bool.false_ne_true (by decide +kernel)
  | finite h => exact iff_of_false Bool.false_ne_true (Nat.not_le.2 h.natAbs_lt)
  | infinity s huge => exact iff_of_true rfl huge

/-- Finite doubles are equal exactly if they are the same integer. -/
theorem beq_iff (h : Rounds x v) (h' : Rounds y w) (hx : x.isInf = false)
    (hy : y.isInf = false) : x.beq y = true ↔ v = w := by
  rw [beq_iff_ne_notANumber_and_eq]
  cases h with
  | infinity => cases hx
  | zero s =>
    cases h' with
    | infinity => cases hy
    | zero t => cases s <;> cases t <;> simp
    | finite h' =>
      refine iff_of_false (by simp) ?_
      rintro rfl
      exact absurd h'.natAbs_pos (by decide)
  | finite h =>
    cases h' with
    | infinity => cases hy
    | zero t =>
      refine iff_of_false (by simp) ?_
      rintro rfl
      exact absurd h.natAbs_pos (by decide)
    | finite h' =>
      constructor
      · rintro ⟨-, -, heq | ⟨heq, -⟩ | ⟨heq, -⟩⟩
        · rw [finite.injEq] at heq
          obtain ⟨rfl, rfl, rfl⟩ := heq
          exact_mod_cast h.value.trans h'.value.symm
        · cases heq
        · cases heq
      · rintro rfl
        obtain ⟨rfl, rfl, rfl⟩ := h.unique h'
        exact ⟨nofun, nofun, .inl rfl⟩

end Rounds

section Conversion

variable {m n k : ℕ} {e : ℤ}

/-- What a mantissa with `k` bits more than 53 is rounded to. -/
theorem rounds_roundWithAccuracy {r : ℕ} (hm : m.log2 = 52 + k) (he : -1074 ≤ e + k)
    (hr : (r : ℚ) = roundDiv m (2 ^ k) * 2 ^ (e + k)) :
    Rounds (unpack .binary64 (pack .binary64
      (roundWithAccuracy .binary64 .positive m e .exact))) r := by
  obtain ⟨m', e', hpos, heq, bits, ⟨least, -⟩, value⟩ := roundWithAccuracy_eq .positive hm he
  rw [← hr] at value
  rw [heq]
  rcases le_or_gt e' 971 with hle | hgt
  · have h : Spells .positive m' e' r := ⟨bits, least, hle, by exact_mod_cast value.symm⟩
    rw [(Rounds.finite h).unpack_pack]
    exact .finite h
  · rw [pack_finite hpos bits, if_pos hgt, unpack_packedInfinity]
    refine .infinity _ ?_
    have hm' : (2 : ℚ) ^ 52 ≤ m' := by exact_mod_cast ((Nat.log2_eq_iff hpos.ne').1 bits).1
    have hr : (2 : ℚ) ^ 1024 ≤ r := by
      calc (2 : ℚ) ^ 1024 = 2 ^ 52 * 2 ^ (972 : ℤ) := by
            rw [← zpow_natCast, ← zpow_natCast, ← zpow_add₀ two_ne_zero]
            rfl
        _ ≤ (m' : ℚ) * 2 ^ e' :=
          mul_le_mul hm' (zpow_le_zpow_right₀ one_le_two hgt) (by positivity) (by positivity)
        _ = r := value
    exact_mod_cast hr

theorem log2_mul_two_pow (hn : n ≠ 0) (k : ℕ) : (n * 2 ^ k).log2 = n.log2 + k := by
  induction k with
  | zero => rw [pow_zero, mul_one, Nat.add_zero]
  | succ k ih =>
    have hpower : n * 2 ^ (k + 1) = 2 * (n * 2 ^ k) := by ring
    rw [hpower, Nat.log2_two_mul (by positivity), ih, Nat.add_assoc]

theorem mul_finite {s t : Sign} {e f : ℤ} {hm : 0 < m} {hn : 0 < n} :
    UnpackedFloat.mul .binary64 (.finite s m e hm) (.finite t n f hn) =
      roundWithAccuracy .binary64 (s * t) (m * n) (e + f) .exact := rfl

/-- A large number is rounded as it stands. -/
theorem ofScientific_eq (hn : n ≠ 0) : UnpackedFloat.ofScientific .binary64 n 0 =
    roundWithAccuracy .binary64 .positive (n * 2 ^ 53) (-53) .exact := by
  have hshift : (n <<< Float.Model.Format.binary64.mantissaBits) * 10 ^ (0 : ℤ).toNat =
      n * 2 ^ 53 := by
    rw [Nat.shiftLeft_eq, Int.toNat_zero, pow_zero, mul_one]
    rfl
  rw [UnpackedFloat.ofScientific, dif_neg hn, if_neg (by norm_num),
    if_neg (by change ¬ (0 : ℤ) < -(2 ^ 11 + (n.log2 : ℤ)); omega), if_pos le_rfl, mul_finite,
    hshift]
  rfl

/-- A small number is brought to 53 bits. -/
theorem ofNat_eq (hn : 0 < n) (hlog : n.log2 ≤ 52) : UnpackedFloat.ofNat .binary64 n =
    roundWithAccuracy .binary64 .positive (n * 2 ^ (52 - n.log2)) (n.log2 - 52) .exact := by
  have hcompare : compare (n : ℤ) 0 = .gt := Int.compare_eq_gt.2 (by omega)
  have htarget : max ((n.log2 : ℤ) + 0 - 52) (-1074) = n.log2 - 52 := by omega
  have hshift : (0 - ((n.log2 : ℤ) - 52)).toNat = 52 - n.log2 := by omega
  rw [UnpackedFloat.ofNat, UnpackedFloat.ofInt, UnpackedFloat.normalize, hcompare]
  dsimp only
  rw [UnpackedFloat.round, Int.toNat_natCast, targetExponent_eq, htarget, decreaseExponent, hshift,
    Nat.shiftLeft_eq]
  dsimp only
  congr 1
  omega

/-- A small word becomes the double that it is. -/
theorem unpack_toFloat (hn : 0 < n) (h : n < 2 ^ 53) :
    ∃ m e hpos, n.toUInt64.toFloat.toModel.unpack = .finite .positive m e hpos ∧ m.log2 = 52 ∧
      -1074 ≤ e ∧ (m : ℚ) * 2 ^ e = n := by
  have hlog : n.log2 ≤ 52 := by
    have := (Nat.log2_lt hn.ne').2 h
    omega
  have hword : n.toUInt64.toNat = n := Nat.mod_eq_of_lt (by omega)
  have hbits : (n * 2 ^ (52 - n.log2)).log2 = 52 + 0 := by
    rw [log2_mul_two_pow hn.ne']
    omega
  obtain ⟨m, e, hpos, heq, bits, ⟨least, hle⟩, value⟩ :=
    roundWithAccuracy_eq .positive (e := (n.log2 : ℤ) - 52) hbits (by omega)
  refine ⟨m, e, hpos, ?_, bits, least, ?_⟩
  · have hpacked : n.toUInt64.toFloat.toModel.unpack =
        unpack .binary64 (pack .binary64 (UnpackedFloat.ofNat .binary64 n.toUInt64.toNat)) := rfl
    rw [hpacked, hword, ofNat_eq hn hlog, heq, unpack_pack_finite hpos bits least (by omega)]
  · have hshift : ((52 - n.log2 : ℕ) : ℤ) + ((n.log2 : ℤ) - 52) = 0 := by omega
    rw [value, pow_zero, roundDiv_one]
    push_cast
    rw [add_zero, mul_assoc, ← zpow_natCast, ← zpow_add₀ two_ne_zero, hshift, zpow_zero, mul_one]

/-- A number below `2 ^ 53` is converted as a word, and then multiplied by one. -/
theorem rounds_ofNat_of_lt (hn : 0 < n) (h : n < 2 ^ 53) :
    Rounds (Float.ofNat n).toModel.unpack n := by
  obtain ⟨m, e, hpos, hmodel, bits, least, value⟩ := unpack_toFloat hn h
  have hfloat : Float.ofNat n = n.toUInt64.toFloat * Float.exactlyRepresentablePowersOfTen[0] :=
    dif_pos ⟨h, by decide⟩
  have hone : Float.exactlyRepresentablePowersOfTen[0].toModel.unpack =
      .finite .positive (2 ^ 52) (-52) (by positivity) := rfl
  have hproduct : (Float.ofNat n).toModel.unpack = unpack .binary64 (pack .binary64
      (UnpackedFloat.mul .binary64 n.toUInt64.toFloat.toModel.unpack
        Float.exactlyRepresentablePowersOfTen[0].toModel.unpack)) := by
    rw [hfloat]
    rfl
  rw [hproduct, hmodel, hone, mul_finite]
  refine rounds_roundWithAccuracy (k := 52) ?_ (by omega) ?_
  · rw [log2_mul_two_pow hpos.ne', bits]
  · have hquotient := roundDiv_mul_right m 1 (Nat.two_pow_pos 52)
    rw [one_mul, roundDiv_one] at hquotient
    rw [hquotient, ← value]
    congr 2
    omega

theorem rounds_ofNat_of_le (h : 2 ^ 53 ≤ n) :
    Rounds (Float.ofNat n).toModel.unpack (nearestNat n) := by
  have hne : n ≠ 0 := by omega
  have hlog : 53 ≤ n.log2 := (Nat.le_log2 hne).2 h
  have hfloat : Float.ofNat n = ⟨Float.Model.ofScientific n 0⟩ := dif_neg (by omega)
  have hmodel : (Float.ofNat n).toModel.unpack = unpack .binary64 (pack .binary64
      (UnpackedFloat.ofScientific .binary64 n 0)) := by
    rw [hfloat]
    rfl
  rw [hmodel, ofScientific_eq hne]
  refine rounds_roundWithAccuracy (k := n.log2 + 1) ?_ (by omega) ?_
  · rw [log2_mul_two_pow hne]
    omega
  · have hexcess : n.log2 + 1 = excess n + 53 := by
      rw [excess]
      omega
    rw [hexcess, pow_add, roundDiv_mul_right n _ (by positivity), nearestNat]
    push_cast
    congr 1
    rw [neg_add_cancel_comm_assoc, zpow_natCast]

theorem rounds_ofNat (n : ℕ) : Rounds (Float.ofNat n).toModel.unpack (nearestNat n) := by
  rcases Nat.lt_or_ge n (2 ^ 53) with hlt | hge
  · rw [nearestNat_of_le hlt.le]
    rcases Nat.eq_zero_or_pos n with rfl | hpos
    · exact .zero .positive
    · exact rounds_ofNat_of_lt hpos hlt
  · exact rounds_ofNat_of_le hge

/-- **An integer becomes the nearest double**, and infinite where that one is too large. -/
theorem rounds_ofInt (n : ℤ) : Rounds (Float.ofInt n).toModel.unpack (nearest n) := by
  cases n with
  | ofNat n => exact rounds_ofNat n
  | negSucc n =>
    have hneg : (Float.ofInt (.negSucc n)).toModel.unpack = unpack .binary64
      (pack .binary64 (Float.ofNat (n + 1)).toModel.unpack.neg) := rfl
    have hrounds := (rounds_ofNat (n + 1)).neg
    rw [hneg, hrounds.unpack_pack]
    exact hrounds

end Conversion

/-- The integers beyond the doubles. -/
theorem ofInt?_eq_none_iff {n : ℤ} : ofInt? n = none ↔ rangeEnd ≤ n.natAbs := by
  have hinf : (Float.ofInt n).isInf = true ↔ rangeEnd ≤ n.natAbs := by
    rw [← Nat.not_lt, ← natAbs_nearest_lt_iff, Nat.not_lt]
    exact (rounds_ofInt n).isInf_iff
  rw [← hinf, ofInt?]
  cases (Float.ofInt n).isInf <;> simp

/-- The doubles of two integers are equal exactly if the integers are rounded to the same one. -/
theorem beq_of_ofInt? {a b : ℤ} {x y : Float} (hx : ofInt? a = some x) (hy : ofInt? b = some y) :
    (x == y) = decide (nearest a = nearest b) := by
  have hfinite : ∀ {n : ℤ} {z : Float}, ofInt? n = some z →
      z = Float.ofInt n ∧ z.toModel.unpack.isInf = false := by
    intro n z hz
    rw [ofInt?] at hz
    split at hz
    · cases hz
    · next hinf =>
      cases hz
      exact ⟨rfl, Bool.eq_false_iff.2 hinf⟩
  obtain ⟨rfl, hfx⟩ := hfinite hx
  obtain ⟨rfl, hfy⟩ := hfinite hy
  rw [Bool.eq_iff_iff, decide_eq_true_eq]
  exact (rounds_ofInt a).beq_iff (rounds_ofInt b) hfx hfy

end Double
end RecordRules
