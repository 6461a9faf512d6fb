import RecordRules.Number.Shortest
import RecordRules.Proofs.Number.Doubles

/-!
# Shortest decimals round to their doubles

* `Parts.Covers`: a number rounds to a positive double; `Parts.Covers.unique` says that it rounds
  to no other one.
* `Interval.onGrid?_ne_none`: a grid of decimals that is fine enough has one that rounds to a
  double, so the search for the shortest finds one.
* `Parts.shortest_covers`: the shortest decimal rounds to its double.
-/

set_option autoImplicit false

namespace RecordRules
namespace Double

theorem tenTo_eq (n : Nat) : tenTo n = 10 ^ n := rfl

/-! ## Numbers -/

/-- A power with an exponent of either sign, as a fraction of two natural powers. -/
theorem zpow_eq_div (b : ℚ) (e : ℤ) : b ^ e = b ^ e.toNat / b ^ (-e).toNat := by
  obtain ⟨n, rfl | rfl⟩ := e.eq_nat_or_neg
  · simp
  · simp [zpow_neg]

/-- The number that a decimal is. -/
def Decimal.value (d : Decimal) : ℚ := d.digits * 10 ^ d.exponent

namespace Parts

/-- A quarter of the distance to the double above. -/
def quarter (p : Parts) : ℚ := 2 ^ p.exponent / 4

/-- How many quarters below a double the numbers begin that round to it. -/
def below (p : Parts) : Nat := if p.mantissa == twoTo 52 && p.exponent != -1074 then 1 else 2

/-- The lower end of the numbers that round to a double. -/
def low (p : Parts) : ℚ := (4 * p.mantissa - p.below) * p.quarter

/-- The upper end of the numbers that round to a double. -/
def high (p : Parts) : ℚ := (4 * p.mantissa + 2) * p.quarter

/-- A number rounds to a positive double: it lies between the ends, and on one of them only if the
mantissa is even. -/
structure Covers (p : Parts) (v : ℚ) : Prop where
  low : p.low ≤ v
  high : v ≤ p.high
  strict : p.mantissa % 2 = 1 → p.low < v ∧ v < p.high

theorem quarter_pos (p : Parts) : 0 < p.quarter := by
  rw [quarter]
  positivity

theorem below_eq (p : Parts) : p.below = 1 ∧ p.mantissa = 2 ^ 52 ∧ p.exponent ≠ -1074 ∨
    p.below = 2 ∧ ¬ (p.mantissa = 2 ^ 52 ∧ p.exponent ≠ -1074) := by
  rw [below, twoTo_eq]
  by_cases h : p.mantissa = 2 ^ 52 ∧ p.exponent ≠ -1074
  · exact .inl ⟨if_pos (by rw [Bool.and_eq_true, beq_iff_eq, bne_iff_ne]; exact h), h⟩
  · exact .inr ⟨if_neg (by rwa [Bool.and_eq_true, beq_iff_eq, bne_iff_ne]), h⟩

end Parts

/-! ## One double for each number -/

section Apart

variable {p q : Parts} {v w : ℚ}

/-- Above a double there are the numbers that round to a double with the same exponent. -/
theorem Parts.Covers.lt_of_mantissa (hv : p.Covers v) (hw : q.Covers w)
    (he : p.exponent = q.exponent) (hm : p.mantissa < q.mantissa) : v < w := by
  have hquarter : p.quarter = q.quarter := by rw [quarter, quarter, he]
  have hpos := q.quarter_pos
  have hbelow : q.below ≤ 2 := by rcases q.below_eq with h | h <;> omega
  have hends : p.high ≤ q.low := by
    rw [Parts.high, Parts.low, hquarter]
    refine mul_le_mul_of_nonneg_right ?_ hpos.le
    have h : 4 * p.mantissa + 2 + q.below ≤ 4 * q.mantissa := by omega
    have h : (4 * p.mantissa + 2 + q.below : ℚ) ≤ 4 * q.mantissa := by exact_mod_cast h
    linarith
  rcases Nat.mod_two_eq_zero_or_one p.mantissa with heven | hodd
  · rcases Nat.mod_two_eq_zero_or_one q.mantissa with heven' | hodd'
    · have hlt : p.high < q.low := by
        rw [Parts.high, Parts.low, hquarter]
        refine mul_lt_mul_of_pos_right ?_ hpos
        have h : 4 * p.mantissa + 2 + q.below < 4 * q.mantissa := by omega
        have h : (4 * p.mantissa + 2 + q.below : ℚ) < 4 * q.mantissa := by exact_mod_cast h
        linarith
      exact (hv.high.trans_lt hlt).trans_le hw.low
    · exact (hv.high.trans hends).trans_lt (hw.strict hodd').1
  · exact ((hv.strict hodd).2.trans_le hends).trans_le hw.low

/-- Above a double there are the numbers that round to a double with a larger exponent. -/
theorem Parts.Covers.lt_of_exponent (hp : p.Normal) (hq : q.Normal) (hv : p.Covers v)
    (hw : q.Covers w) (he : p.exponent < q.exponent) : v < w := by
  have hm : 2 ^ 52 ≤ q.mantissa := hq.leading (by have := hp.exponent; omega)
  have hlow : 2 ^ 54 - 1 + q.below ≤ 4 * q.mantissa := by
    rcases q.below_eq with ⟨hb, -⟩ | ⟨hb, hne⟩
    · omega
    · have : q.mantissa ≠ 2 ^ 52 := fun h => hne ⟨h, by have := hp.exponent; omega⟩
      omega
  have hquarter : 2 * p.quarter ≤ q.quarter := by
    rw [quarter, quarter]
    have h : (2 : ℚ) ^ (p.exponent + 1) ≤ 2 ^ q.exponent := zpow_le_zpow_right₀ one_le_two he
    rw [zpow_add_one₀ two_ne_zero] at h
    linarith
  have hends : (2 ^ 55 - 2) * p.quarter ≤ q.low := by
    have h : ((2 ^ 54 - 1 + q.below : ℕ) : ℚ) ≤ (4 * q.mantissa : ℕ) := by exact_mod_cast hlow
    push_cast at h
    have hpos := p.quarter_pos
    rw [Parts.low]
    calc (2 ^ 55 - 2) * p.quarter = (2 ^ 54 - 1) * (2 * p.quarter) := by ring
      _ ≤ (4 * q.mantissa - q.below) * q.quarter := by
        refine mul_le_mul (by linarith) hquarter (by linarith) ?_
        linarith
  have hmp := hp.mantissa
  rcases Nat.mod_two_eq_zero_or_one p.mantissa with heven | hodd
  · have hlt : p.high < (2 ^ 55 - 2) * p.quarter := by
      rw [Parts.high]
      refine mul_lt_mul_of_pos_right ?_ p.quarter_pos
      have h : 4 * p.mantissa + 2 + 2 < 2 ^ 55 := by omega
      have h : (4 * p.mantissa + 2 + 2 : ℚ) < 2 ^ 55 := by exact_mod_cast h
      linarith
    exact (hv.high.trans_lt hlt).trans_le (hends.trans hw.low)
  · have hle : p.high ≤ (2 ^ 55 - 2) * p.quarter := by
      rw [Parts.high]
      refine mul_le_mul_of_nonneg_right ?_ p.quarter_pos.le
      have h : 4 * p.mantissa + 2 + 2 ≤ 2 ^ 55 := by omega
      have h : (4 * p.mantissa + 2 + 2 : ℚ) ≤ 2 ^ 55 := by exact_mod_cast h
      linarith
    exact ((hv.strict hodd).2.trans_le hle).trans_le (hends.trans hw.low)

/-- **A number rounds to one positive double.** -/
theorem Parts.Covers.unique (hp : p.Normal) (hq : q.Normal) (hv : p.Covers v) (hw : q.Covers v) :
    p.mantissa = q.mantissa ∧ p.exponent = q.exponent := by
  rcases lt_trichotomy p.exponent q.exponent with he | he | he
  · exact (lt_irrefl v (hv.lt_of_exponent hp hq hw he)).elim
  · rcases lt_trichotomy p.mantissa q.mantissa with hm | hm | hm
    · exact (lt_irrefl v (hv.lt_of_mantissa hw he hm)).elim
    · exact ⟨hm, he⟩
    · exact (lt_irrefl v (hw.lt_of_mantissa hv he.symm hm)).elim
  · exact (lt_irrefl v (hw.lt_of_exponent hq hp hv he)).elim

end Apart

/-! ## The search for the shortest decimal -/

namespace Interval

/-- The number in the middle of an interval. -/
def middle (i : Interval) : ℚ := i.numerator / i.denominator

theorem value_le_iff {i : Interval} (hpos : 0 < i.denominator) (d : Decimal) (n : Nat) :
    d.digits * tenTo d.exponent.toNat * i.denominator ≤ n * tenTo (-d.exponent).toNat ↔
      d.value ≤ n / i.denominator := by
  rw [Decimal.value, zpow_eq_div, ← mul_div_assoc, div_le_div_iff₀ (by positivity)
    (by exact_mod_cast hpos), tenTo_eq, tenTo_eq]
  exact_mod_cast Iff.rfl

theorem le_value_iff {i : Interval} (hpos : 0 < i.denominator) (d : Decimal) (n : Nat) :
    n * tenTo (-d.exponent).toNat ≤ d.digits * tenTo d.exponent.toNat * i.denominator ↔
      n / i.denominator ≤ d.value := by
  rw [Decimal.value, zpow_eq_div, ← mul_div_assoc, div_le_div_iff₀
    (by exact_mod_cast hpos) (by positivity), tenTo_eq, tenTo_eq]
  exact_mod_cast Iff.rfl

theorem contains_of_lt {i : Interval} (hpos : 0 < i.denominator) {d : Decimal}
    (hlow : i.low / i.denominator < d.value) (hhigh : d.value < i.high / i.denominator) :
    i.contains d = true := by
  have h₁ := (lt_iff_lt_of_le_iff_le (value_le_iff hpos d i.low)).2 hlow
  have h₂ := (lt_iff_lt_of_le_iff_le (le_value_iff hpos d i.high)).2 hhigh
  rw [contains]
  split <;> rw [Bool.and_eq_true, decide_eq_true_eq, decide_eq_true_eq]
  · exact ⟨h₁.le, h₂.le⟩
  · exact ⟨h₁, h₂⟩

theorem ends_of_contains {i : Interval} (hpos : 0 < i.denominator) {d : Decimal}
    (h : i.contains d = true) :
    i.low / i.denominator ≤ d.value ∧ d.value ≤ i.high / i.denominator ∧
      (i.closed = false → i.low / i.denominator < d.value ∧ d.value < i.high / i.denominator) := by
  rw [contains] at h
  split at h <;> rw [Bool.and_eq_true, decide_eq_true_eq, decide_eq_true_eq] at h
  · rename_i hclosed
    refine ⟨(le_value_iff hpos d _).1 h.1, (value_le_iff hpos d _).1 h.2, fun hopen => ?_⟩
    rw [hopen] at hclosed
    cases hclosed
  · have h₁ := (lt_iff_lt_of_le_iff_le (value_le_iff hpos d i.low)).1 h.1
    have h₂ := (lt_iff_lt_of_le_iff_le (le_value_iff hpos d i.high)).1 h.2
    exact ⟨h₁.le, h₂.le, fun _ => ⟨h₁, h₂⟩⟩

theorem contains_of_onGrid? {i : Interval} {e : Int} {d : Decimal} (h : i.onGrid? e = some d) :
    i.contains d = true := by
  rw [onGrid?] at h
  dsimp only at h
  split at h
  · cases h
  · rename_i hlower _
    cases h
    exact hlower
  · rename_i hupper
    cases h
    exact hupper
  · rename_i hlower hupper
    split at h
    · cases h; exact hlower
    · split at h
      · cases h; exact hupper
      · split at h <;> cases h
        · exact hlower
        · exact hupper

theorem contains_of_search {i : Interval} {tries : Nat} {e : Int} {d : Decimal}
    (h : i.search tries e = some d) : i.contains d = true := by
  induction tries generalizing e with
  | zero => cases h
  | succ tries ih =>
    rw [search] at h
    split at h
    · rename_i hgrid
      cases h
      exact contains_of_onGrid? hgrid
    · exact ih h

theorem search_isSome {i : Interval} {tries k : Nat} {e : Int} (hk : k < tries)
    (h : i.onGrid? (e - k) ≠ none) : ∃ d, i.search tries e = some d := by
  induction tries generalizing e k with
  | zero => cases hk
  | succ tries ih =>
    rw [search]
    split
    · exact ⟨_, rfl⟩
    · rename_i hnone
      cases k with
      | zero =>
        rw [Int.natCast_zero, Int.sub_zero] at h
        exact (h hnone).elim
      | succ k =>
        refine ih (Nat.lt_of_succ_lt_succ hk) ?_
        rwa [show e - 1 - (k : Int) = e - (k + 1 : Nat) by omega]

/-- The decimal below the middle, and how far away it can be. -/
theorem floorAt_value {i : Interval} (hpos : 0 < i.denominator) (e : Int) :
    (i.floorAt e).value ≤ i.middle ∧ i.middle < (i.floorAt e).value + 10 ^ e := by
  have hb : (0 : ℚ) < i.denominator * 10 ^ e.toNat := by positivity
  have heq : i.middle =
      (i.numerator * 10 ^ (-e).toNat : ℕ) / (i.denominator * 10 ^ e.toNat : ℕ) * 10 ^ e := by
    rw [middle, zpow_eq_div]
    push_cast
    field_simp
  have hten : (0 : ℚ) < 10 ^ e := by positivity
  rw [heq, Decimal.value, floorAt]
  dsimp only
  rw [← add_one_mul, tenTo_eq, tenTo_eq]
  constructor
  · exact mul_le_mul_of_nonneg_right Nat.cast_div_le hten.le
  · refine mul_lt_mul_of_pos_right ?_ hten
    rw [div_lt_iff₀ (by exact_mod_cast hb)]
    exact_mod_cast Nat.lt_mul_of_div_lt (Nat.lt_succ_self _) (by positivity)

/-- A grid that is fine enough has a decimal inside. -/
theorem onGrid?_ne_none {i : Interval} (hpos : 0 < i.denominator) {e : Int}
    (hlow : i.low / i.denominator < i.middle) (hhigh : i.middle + 10 ^ e ≤ i.high / i.denominator) :
    i.onGrid? e ≠ none := by
  obtain ⟨hle, hlt⟩ := floorAt_value hpos e
  have hten : (0 : ℚ) < 10 ^ e := by positivity
  have hor : i.contains (i.floorAt e) = true ∨
      i.contains ⟨(i.floorAt e).digits + 1, e⟩ = true := by
    rcases hle.eq_or_lt with heq | hlt'
    · exact .inl (contains_of_lt hpos (by rwa [heq]) (by rw [heq]; linarith))
    · refine .inr (contains_of_lt hpos ?_ ?_) <;>
      · have hvalue : Decimal.value ⟨(i.floorAt e).digits + 1, e⟩ =
            (i.floorAt e).value + 10 ^ e := by
          rw [Decimal.value, Decimal.value]
          push_cast
          exact add_one_mul _ _
        rw [hvalue]
        linarith
  rw [onGrid?]
  dsimp only
  split
  · rename_i hlower hupper
    rw [hlower, hupper] at hor
    rcases hor with h | h <;> cases h
  · nofun
  · nofun
  · split
    · nofun
    · split
      · nofun
      · split <;> nofun

end Interval

theorem reduce_value (tries : Nat) (d : Decimal) : (d.reduce tries).value = d.value := by
  induction tries generalizing d with
  | zero => rfl
  | succ tries ih =>
    rw [Decimal.reduce]
    split
    · rename_i h
      rw [Bool.and_eq_true, beq_iff_eq] at h
      rw [ih, Decimal.value, Decimal.value]
      have hdigits : d.digits = d.digits / 10 * 10 := by omega
      have hdigits : (d.digits : ℚ) = (d.digits / 10 : ℕ) * 10 := by exact_mod_cast hdigits
      rw [hdigits, zpow_add_one₀ (by norm_num)]
      ring
    · rfl

/-- A positive number lies between the powers of ten that its digits count. -/
theorem digitCount_bounds {n : Nat} (hn : 0 < n) :
    10 ^ (digitCount n - 1) ≤ n ∧ n < 10 ^ digitCount n := by
  have hpos : 0 < digitCount n := Nat.length_toDigits_pos
  refine ⟨?_, (Nat.length_toDigits_le_iff (by norm_num) hpos).1 (Nat.le_refl _)⟩
  rcases Nat.eq_zero_or_pos (digitCount n - 1) with h | h
  · rwa [h]
  · by_contra hlt
    have := (Nat.length_toDigits_le_iff (by norm_num) h).2 (not_le.1 hlt)
    rw [← digitCount] at this
    omega

/-- The middle of an interval is at most two places below the first grid that is tried. -/
theorem Interval.tenPow_le_middle {i : Interval} (hnum : 0 < i.numerator)
    (hden : 0 < i.denominator) : (10 : ℚ) ^ (i.topExponent - 2) ≤ i.middle := by
  have hn : (10 : ℚ) ^ ((digitCount i.numerator : ℤ) - 1) ≤ i.numerator := by
    have h := (digitCount_bounds hnum).1
    have hc : 0 < digitCount i.numerator := Nat.length_toDigits_pos
    rw [← Nat.cast_pred hc, zpow_natCast]
    exact_mod_cast h
  have hd : (i.denominator : ℚ) ≤ 10 ^ (digitCount i.denominator : ℤ) := by
    have h := (digitCount_bounds hden).2.le
    rw [zpow_natCast]
    exact_mod_cast h
  rw [middle, le_div_iff₀ (by exact_mod_cast hden)]
  calc (10 : ℚ) ^ (i.topExponent - 2) * i.denominator
      ≤ 10 ^ (i.topExponent - 2) * 10 ^ (digitCount i.denominator : ℤ) :=
        mul_le_mul_of_nonneg_left hd (by positivity)
    _ = 10 ^ ((digitCount i.numerator : ℤ) - 1) := by
        rw [← zpow_add₀ (by norm_num), topExponent]
        congr 1
        ring
    _ ≤ i.numerator := hn

section Shortest

variable {p : Parts}

theorem Parts.interval_denominator_pos (p : Parts) : 0 < p.interval.denominator := by
  rw [interval]
  dsimp only
  rw [twoTo_eq]
  positivity

theorem Parts.interval_scaled (p : Parts) (n : Nat) :
    ((n * twoTo p.exponent.toNat : ℕ) : ℚ) / (4 * twoTo (-p.exponent).toNat : ℕ) =
      n * p.quarter := by
  rw [quarter, zpow_eq_div, twoTo_eq, twoTo_eq]
  push_cast
  ring

theorem Parts.interval_ends (hpos : 0 < p.mantissa) :
    p.interval.middle = (4 * p.mantissa) * p.quarter ∧
      p.interval.low / p.interval.denominator = p.low ∧
      p.interval.high / p.interval.denominator = p.high := by
  have hbelow : p.below ≤ 4 * p.mantissa := by rcases p.below_eq with h | h <;> omega
  refine ⟨?_, ?_, ?_⟩
  · rw [Interval.middle, interval]
    dsimp only
    rw [interval_scaled]
    push_cast
    rfl
  · rw [interval]
    dsimp only
    rw [interval_scaled, low, ← below, Nat.cast_sub hbelow]
    push_cast
    rfl
  · rw [interval]
    dsimp only
    rw [interval_scaled, high]
    push_cast
    rfl

theorem Parts.covers_of_contains (hpos : 0 < p.mantissa) {d : Decimal}
    (h : p.interval.contains d = true) : p.Covers d.value := by
  obtain ⟨-, hlow, hhigh⟩ := interval_ends hpos
  have hends := Interval.ends_of_contains p.interval_denominator_pos h
  rw [hlow, hhigh] at hends
  refine ⟨hends.1, hends.2.1, fun hodd => hends.2.2 ?_⟩
  rw [interval]
  dsimp only
  rw [hodd]
  rfl

/-- The nineteenth grid below the first one is fine enough. -/
theorem Parts.fine (hp : p.Normal) (hpos : 0 < p.mantissa) :
    (10 : ℚ) ^ (p.interval.topExponent - (19 : ℕ)) ≤ 2 * p.quarter := by
  have hnum : 0 < p.interval.numerator := by
    rw [interval]
    dsimp only
    rw [twoTo_eq]
    positivity
  have hmiddle := Interval.tenPow_le_middle hnum p.interval_denominator_pos
  have hm : (p.mantissa : ℚ) ≤ 2 ^ 53 := by exact_mod_cast hp.mantissa.le
  have hquarter := p.quarter_pos
  rw [(interval_ends hpos).1] at hmiddle
  have hsplit : (10 : ℚ) ^ (p.interval.topExponent - 2) =
      10 ^ (p.interval.topExponent - (19 : ℕ)) * 10 ^ 17 := by
    rw [← zpow_natCast, ← zpow_add₀ (by norm_num)]
    congr 1
    push_cast
    ring
  rw [hsplit] at hmiddle
  have hupper : 4 * p.mantissa * p.quarter ≤ 4 * 2 ^ 53 * p.quarter := by
    refine mul_le_mul_of_nonneg_right ?_ hquarter.le
    linarith
  have hle := hmiddle.trans hupper
  rw [← le_div_iff₀ (by norm_num)] at hle
  refine hle.trans ?_
  rw [div_le_iff₀ (by norm_num)]
  nlinarith

/-- **The shortest decimal of a positive double rounds to it.** -/
theorem Parts.shortest_covers (hp : p.Normal) (hpos : 0 < p.mantissa) :
    p.Covers p.shortest.value := by
  obtain ⟨hmiddle, hlow, hhigh⟩ := interval_ends hpos
  have hquarter := p.quarter_pos
  have hbelow : (0 : ℚ) < p.below := by
    have h : 0 < p.below := by rcases p.below_eq with h | h <;> omega
    exact_mod_cast h
  have hgrid : p.interval.onGrid? (p.interval.topExponent - (19 : ℕ)) ≠ none := by
    refine Interval.onGrid?_ne_none p.interval_denominator_pos ?_ ?_
    · rw [hlow, hmiddle, low]
      exact mul_lt_mul_of_pos_right (by linarith) hquarter
    · rw [hhigh, hmiddle, high, add_mul]
      have := fine hp hpos
      linarith
  obtain ⟨d, hd⟩ := Interval.search_isSome (show 19 < 21 by norm_num) hgrid
  rw [shortest, hd, reduce_value]
  exact covers_of_contains hpos (Interval.contains_of_search hd)

theorem Parts.Covers.pos (hpos : 0 < p.mantissa) {v : ℚ} (h : p.Covers v) : 0 < v := by
  refine lt_of_lt_of_le ?_ h.low
  rw [Parts.low]
  refine mul_pos (sub_pos.2 ?_) p.quarter_pos
  have hbelow : p.below < 4 * p.mantissa := by rcases p.below_eq with h | h <;> omega
  exact_mod_cast hbelow

/-- The number with which a finite double is written, apart from its sign. -/
def Parts.writtenSize (p : Parts) : ℚ := if p.mantissa = 0 then 0 else p.shortest.value

/-- **No two finite doubles are written with the same number**, apart from their signs. -/
theorem Parts.writtenSize_inj {q : Parts} (hp : p.Normal) (hq : q.Normal)
    (h : p.writtenSize = q.writtenSize) : p.mantissa = q.mantissa ∧ p.exponent = q.exponent := by
  have hzero : ∀ {p : Parts}, p.Normal → p.mantissa = 0 → p.exponent = -1074 := fun hp hm => by
    by_contra he
    have := hp.leading he
    omega
  rw [writtenSize, writtenSize] at h
  rcases Nat.eq_zero_or_pos p.mantissa with hm | hm
  · rcases Nat.eq_zero_or_pos q.mantissa with hm' | hm'
    · exact ⟨hm.trans hm'.symm, (hzero hp hm).trans (hzero hq hm').symm⟩
    · rw [if_pos hm, if_neg hm'.ne'] at h
      exact ((shortest_covers hq hm').pos hm').ne h |>.elim
  · rcases Nat.eq_zero_or_pos q.mantissa with hm' | hm'
    · rw [if_neg hm.ne', if_pos hm'] at h
      exact ((shortest_covers hp hm).pos hm).ne' h |>.elim
    · rw [if_neg hm.ne', if_neg hm'.ne'] at h
      exact (shortest_covers hp hm).unique hp hq (h ▸ shortest_covers hq hm')

end Shortest

end Double
end RecordRules
