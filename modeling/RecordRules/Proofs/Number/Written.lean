import RecordRules.Proofs.Number.Shortest

/-!
# Doubles in texts

A decimal is laid out with a point, with an exponent, or with both.

* `Layout` is what such a text consists of, and `Layout.read_text` says that the text tells it.
* `Decimal.positional_layout` and `Decimal.scientific_layout`: both ways of writing a decimal write
  that decimal.
* `written_inj`: the text of a finite double tells the double.
-/

set_option autoImplicit false

namespace RecordRules
namespace Double

/-! ## Digits -/

/-- A text of decimal digits. -/
def AllDigits (cs : List Char) : Prop := ∀ c ∈ cs, c.isDigit = true

/-- The number that digits write. -/
def digitsNumber (cs : List Char) : Nat := Nat.ofDigitChars 10 cs 0

theorem allDigits_toDigits (n : Nat) : AllDigits (Nat.toDigits 10 n) :=
  fun _ hc => Nat.isDigit_of_mem_toDigits (by norm_num) (by norm_num) hc

theorem allDigits_zeros (n : Nat) : AllDigits (List.replicate n '0') :=
  fun _ hc => by rw [List.eq_of_mem_replicate hc]; rfl

theorem AllDigits.append {a b : List Char} (ha : AllDigits a) (hb : AllDigits b) :
    AllDigits (a ++ b) := fun c hc => (List.mem_append.1 hc).elim (ha c) (hb c)

theorem AllDigits.take {a : List Char} (ha : AllDigits a) (n : Nat) : AllDigits (a.take n) :=
  fun c hc => ha c (List.mem_of_mem_take hc)

theorem AllDigits.drop {a : List Char} (ha : AllDigits a) (n : Nat) : AllDigits (a.drop n) :=
  fun c hc => ha c (List.mem_of_mem_drop hc)

@[simp] theorem digitsNumber_toDigits (n : Nat) : digitsNumber (Nat.toDigits 10 n) = n :=
  Nat.ofDigitChars_ten_toDigits

@[simp] theorem digitsNumber_zeros_append (n : Nat) (cs : List Char) :
    digitsNumber (List.replicate n '0' ++ cs) = digitsNumber cs := by
  rw [digitsNumber, Nat.ofDigitChars_append, Nat.ofDigitChars_replicate_zero, Nat.mul_zero,
    digitsNumber]

@[simp] theorem digitsNumber_append_zeros (cs : List Char) (n : Nat) :
    digitsNumber (cs ++ List.replicate n '0') = digitsNumber cs * 10 ^ n := by
  rw [digitsNumber, Nat.ofDigitChars_append, Nat.ofDigitChars_replicate_zero, Nat.mul_comm,
    digitsNumber]

/-- An integer is written by its digits, behind a minus if it is negative. -/
theorem toString_int (n : Int) : (toString n).toList =
    if n < 0 then '-' :: Nat.toDigits 10 n.natAbs else Nat.toDigits 10 n.natAbs := by
  have hdigits : ∀ k : Nat, k.repr.toList = Nat.toDigits 10 k := fun k => by
    rw [Nat.repr_eq_ofList_toDigits, String.toList_ofList]
  cases n with
  | ofNat k =>
    have hnonneg : ¬ Int.ofNat k < 0 := Int.not_lt.2 (Int.natCast_nonneg k)
    rw [if_neg hnonneg]
    exact hdigits k
  | negSucc k =>
    have htext : toString (Int.negSucc k) = "-" ++ (k + 1).repr := rfl
    rw [if_pos (Int.negSucc_lt_zero k), htext, String.toList_append, hdigits]
    rfl

/-- A text comes apart where the first character is met that a test does not select. -/
theorem span_append {p : Char → Bool} {cs rest : List Char} (hcs : ∀ c ∈ cs, p c = true)
    (hrest : ∀ c ∈ rest.head?, p c = false) : (cs ++ rest).span p = (cs, rest) := by
  rw [List.span_eq_takeWhile_dropWhile, List.takeWhile_append_of_pos hcs,
    List.dropWhile_append_of_pos hcs]
  cases rest with
  | nil => simp
  | cons c rest =>
    have hc := Bool.eq_false_iff.1 (hrest c rfl)
    rw [List.takeWhile_cons_of_neg hc, List.dropWhile_cons_of_neg hc, List.append_nil]

/-! ## Layouts -/

/-- The parts of a decimal text: digits, more digits after a point, and the sign and the digits of
an exponent. -/
structure Layout where
  whole : List Char
  fraction : Option (List Char)
  power : Option (Bool × List Char)

namespace Layout

/-- A point and digits. -/
def fractionText : Option (List Char) → List Char
  | some digits => '.' :: digits
  | none => []

/-- An exponent. -/
def powerText : Option (Bool × List Char) → List Char
  | some (negative, digits) => 'e' :: (if negative then '-' else '+') :: digits
  | none => []

/-- The text of a layout. -/
def text (l : Layout) : List Char := l.whole ++ (fractionText l.fraction ++ powerText l.power)

/-- The number of an exponent. -/
def powerNumber : Option (Bool × List Char) → ℤ
  | some (negative, digits) => if negative then -digitsNumber digits else digitsNumber digits
  | none => 0

/-- The number that a layout writes. -/
def number (l : Layout) : ℚ :=
  digitsNumber (l.whole ++ l.fraction.getD []) *
    10 ^ (powerNumber l.power - (l.fraction.getD []).length)

/-- A layout is of digits, begins with one, and has a point or an exponent. -/
structure Valid (l : Layout) : Prop where
  whole : AllDigits l.whole
  nonempty : l.whole ≠ []
  fraction : ∀ digits ∈ l.fraction, AllDigits digits
  power : ∀ p ∈ l.power, AllDigits p.2
  marked : l.fraction.isSome = true ∨ l.power.isSome = true

/-- The digits after a point, if there is one, and the rest. -/
def readFraction : List Char → Option (List Char) × List Char
  | '.' :: rest => ((rest.span Char.isDigit).1, (rest.span Char.isDigit).2)
  | rest => (none, rest)

/-- An exponent. -/
def readPower : List Char → Option (Bool × List Char)
  | 'e' :: '-' :: digits => some (true, digits)
  | 'e' :: '+' :: digits => some (false, digits)
  | _ => none

/-- Reads the text of a layout. -/
def read (cs : List Char) : Layout :=
  let rest := (cs.span Char.isDigit).2
  { whole := (cs.span Char.isDigit).1
    fraction := (readFraction rest).1
    power := readPower (readFraction rest).2 }

theorem powerText_head (p : Option (Bool × List Char)) :
    ∀ c ∈ (powerText p).head?, c = 'e' := by
  intro c hc
  cases p with
  | none => cases hc
  | some p => cases hc; rfl

theorem readPower_powerText (p : Option (Bool × List Char)) : readPower (powerText p) = p := by
  rcases p with _ | ⟨_ | _, digits⟩ <;> rfl

theorem readFraction_text {f : Option (List Char)} (hf : ∀ digits ∈ f, AllDigits digits)
    (p : Option (Bool × List Char)) :
    readFraction (fractionText f ++ powerText p) = (f, powerText p) := by
  have hpower : ∀ c ∈ (powerText p).head?, c.isDigit = false := fun c hc => by
    rw [powerText_head p c hc]
    rfl
  cases f with
  | some digits =>
    rw [fractionText, List.cons_append, readFraction, span_append (hf digits rfl) hpower]
  | none =>
    rw [fractionText, List.nil_append, readFraction.eq_def]
    split
    · rename_i hp
      have := powerText_head p '.' (by rw [hp]; rfl)
      contradiction
    · rfl

/-- The text of a layout tells the layout. -/
theorem read_text {l : Layout} (h : l.Valid) : read l.text = l := by
  have hrest : ∀ c ∈ (fractionText l.fraction ++ powerText l.power).head?, c.isDigit = false := by
    intro c hc
    cases hf : l.fraction with
    | some digits =>
      rw [hf] at hc
      cases hc
      rfl
    | none =>
      rw [hf, fractionText, List.nil_append] at hc
      rw [powerText_head _ c hc]
      rfl
  rw [read, text, span_append h.whole hrest]
  dsimp only
  rw [readFraction_text h.fraction, readPower_powerText]

theorem text_inj {l m : Layout} (hl : l.Valid) (hm : m.Valid) (h : l.text = m.text) : l = m := by
  rw [← read_text hl, h, read_text hm]

/-- The characters of numbers. -/
def isNumeral (c : Char) : Bool := c.isDigit || c == '.' || c == 'e' || c == '+' || c == '-'

theorem isNumeral_of_mem {l : Layout} (h : l.Valid) {c : Char} (hc : c ∈ l.text) :
    isNumeral c = true := by
  have hdigit : c.isDigit = true → isNumeral c = true := fun hd => by rw [isNumeral, hd]; rfl
  rw [text, List.mem_append, List.mem_append] at hc
  rcases hc with hc | hc | hc
  · exact hdigit (h.whole c hc)
  · cases hf : l.fraction with
    | none => rw [hf] at hc; cases hc
    | some digits =>
      rw [hf, fractionText, List.mem_cons] at hc
      rcases hc with rfl | hc
      · rfl
      · exact hdigit (h.fraction digits hf c hc)
  · cases hp : l.power with
    | none => rw [hp] at hc; cases hc
    | some p =>
      obtain ⟨negative, digits⟩ := p
      rw [hp, powerText, List.mem_cons, List.mem_cons] at hc
      rcases hc with rfl | rfl | hc
      · rfl
      · cases negative <;> rfl
      · exact hdigit (h.power _ hp c hc)

theorem exists_mark {l : Layout} (h : l.Valid) : ∃ c ∈ l.text, c = '.' ∨ c = 'e' := by
  rcases h.marked with hf | hp
  · obtain ⟨digits, hf⟩ := Option.isSome_iff_exists.1 hf
    exact ⟨'.', by simp [text, hf, fractionText], .inl rfl⟩
  · obtain ⟨p, hp⟩ := Option.isSome_iff_exists.1 hp
    exact ⟨'e', by simp [text, hp, powerText], .inr rfl⟩

theorem head_isDigit {l : Layout} (h : l.Valid) : ∀ c ∈ l.text.head?, c.isDigit = true := by
  intro c hc
  rw [text, List.head?_append_of_ne_nil _ h.nonempty] at hc
  exact h.whole c (List.mem_of_mem_head? hc)

/-- The text of a layout behind a sign tells both. -/
theorem signed_inj {l m : Layout} (hl : l.Valid) (hm : m.Valid) {a b : Bool}
    (h : (if a then ['-'] else []) ++ l.text = (if b then ['-'] else []) ++ m.text) :
    a = b ∧ l = m := by
  have hne : ∀ {l m : Layout}, l.Valid → '-' :: m.text ≠ l.text := fun hl h => by
    have := head_isDigit hl '-' (by rw [← h]; rfl)
    cases this
  cases a <;> cases b
  · exact ⟨rfl, text_inj hl hm h⟩
  · exact (hne hl h.symm).elim
  · exact (hne hm h).elim
  · exact ⟨rfl, text_inj hl hm (List.cons_inj_right _ |>.1 h)⟩

end Layout

/-! ## The layout of a decimal -/

namespace Layout

/-- Digits before and after a point. -/
def ofPoint (whole fraction : List Char) : Layout := ⟨whole, some fraction, none⟩

variable {whole fraction : List Char}

theorem ofPoint_valid (hwhole : AllDigits whole) (hne : whole ≠ [])
    (hfraction : AllDigits fraction) : (ofPoint whole fraction).Valid := by
  refine ⟨hwhole, hne, ?_, nofun, .inl rfl⟩
  rintro _ ⟨⟩
  exact hfraction

theorem ofPoint_text : (ofPoint whole fraction).text = whole ++ '.' :: fraction := by
  simp [ofPoint, text, fractionText, powerText]

theorem ofPoint_number : (ofPoint whole fraction).number =
    digitsNumber (whole ++ fraction) * 10 ^ (-fraction.length : ℤ) := by
  rw [number, ofPoint]
  dsimp only [Option.getD_some, powerNumber]
  rw [zero_sub]

/-- A digit, more digits after a point if there are any, and an exponent. -/
def ofPower (first rest : List Char) (power : ℤ) (size : List Char) : Layout :=
  ⟨first, if rest.isEmpty then none else some rest, some (decide (power < 0), size)⟩

variable {first rest size : List Char} {power : ℤ}

theorem ofPower_valid (hfirst : AllDigits first) (hne : first ≠ []) (hrest : AllDigits rest)
    (hsize : AllDigits size) : (ofPower first rest power size).Valid := by
  refine ⟨hfirst, hne, ?_, ?_, .inr rfl⟩
  · rw [ofPower]
    split
    · nofun
    · rintro _ ⟨⟩
      exact hrest
  · rintro _ ⟨⟩
    exact hsize

theorem ofPower_text : (ofPower first rest power size).text =
    (if rest.isEmpty then first else first ++ '.' :: rest) ++
      'e' :: (if power < 0 then '-' else '+') :: size := by
  rw [ofPower, text]
  dsimp only [powerText]
  simp only [decide_eq_true_eq]
  split
  · rfl
  · rw [fractionText, List.append_assoc]

theorem ofPower_number (hsize : digitsNumber size = power.natAbs) :
    (ofPower first rest power size).number =
      digitsNumber (first ++ rest) * 10 ^ (power - rest.length) := by
  have hpower : powerNumber (some (decide (power < 0), size)) = power := by
    rw [powerNumber, hsize]
    split
    · rename_i hneg
      have hneg := of_decide_eq_true hneg
      omega
    · rename_i hneg
      rw [decide_eq_true_eq] at hneg
      omega
  have hrest : (if rest.isEmpty then none else some rest).getD [] = rest := by
    cases rest <;> rfl
  rw [number, ofPower]
  dsimp only
  rw [hpower, hrest]

end Layout

theorem Decimal.positional_layout (d : Decimal) :
    ∃ l : Layout, l.Valid ∧ d.positional.toList = l.text ∧ l.number = d.value := by
  have hdigits := allDigits_toDigits d.digits
  have hnumber := digitsNumber_toDigits d.digits
  have hpos : 0 < (Nat.toDigits 10 d.digits).length := Nat.length_toDigits_pos
  have hzero : ['0'] = List.replicate 1 '0' := rfl
  rw [positional]
  dsimp only
  rw [String.toList_ofList, value]
  generalize Nat.toDigits 10 d.digits = ds at hdigits hnumber hpos
  split
  · refine ⟨.ofPoint ['0'] (List.replicate (-(ds.length + d.exponent)).toNat '0' ++ ds),
      Layout.ofPoint_valid (allDigits_zeros 1) (by simp) ((allDigits_zeros _).append hdigits),
      by rw [Layout.ofPoint_text]; rfl, ?_⟩
    rw [Layout.ofPoint_number, hzero, digitsNumber_zeros_append, digitsNumber_zeros_append, hnumber,
      List.length_append, List.length_replicate]
    congr 2
    push_cast
    omega
  split
  · rename_i hexponent
    refine ⟨.ofPoint (ds ++ List.replicate d.exponent.toNat '0') ['0'],
      Layout.ofPoint_valid (hdigits.append (allDigits_zeros _))
        (List.append_ne_nil_of_left_ne_nil (List.length_pos_iff.1 hpos) _) (allDigits_zeros 1),
      Layout.ofPoint_text.symm, ?_⟩
    rw [Layout.ofPoint_number, hzero, digitsNumber_append_zeros, digitsNumber_append_zeros, hnumber,
      List.length_replicate]
    obtain ⟨k, hk⟩ := Int.eq_ofNat_of_zero_le hexponent
    rw [hk, Int.toNat_natCast, zpow_natCast]
    push_cast
    rw [zpow_neg_one]
    field_simp
  · have hwhole : ds.take (ds.length + d.exponent).toNat ≠ [] := by
      refine List.length_pos_iff.1 ?_
      rw [List.length_take]
      omega
    refine ⟨.ofPoint (ds.take (ds.length + d.exponent).toNat)
        (ds.drop (ds.length + d.exponent).toNat),
      Layout.ofPoint_valid (hdigits.take _) hwhole (hdigits.drop _),
      by rw [Layout.ofPoint_text, List.append_assoc, List.singleton_append], ?_⟩
    rw [Layout.ofPoint_number, List.take_append_drop, hnumber, List.length_drop]
    congr 2
    omega

theorem Decimal.scientific_layout (d : Decimal) :
    ∃ l : Layout, l.Valid ∧ d.scientific.toList = l.text ∧ l.number = d.value := by
  have hdigits := allDigits_toDigits d.digits
  have hnumber := digitsNumber_toDigits d.digits
  have hpos : 0 < (Nat.toDigits 10 d.digits).length := Nat.length_toDigits_pos
  rw [scientific, String.toList_ofList, value]
  generalize Nat.toDigits 10 d.digits = ds at hdigits hnumber hpos
  generalize hpower : (ds.length : ℤ) + d.exponent - 1 = power
  -- the exponent has two digits at least
  obtain ⟨size, hsize, hsizeNumber, hsizeText⟩ : ∃ size, AllDigits size ∧
      digitsNumber size = power.natAbs ∧
      (if (Nat.toDigits 10 power.natAbs).length < 2 then '0' :: Nat.toDigits 10 power.natAbs
        else Nat.toDigits 10 power.natAbs) = size := by
    split
    · exact ⟨_, (allDigits_zeros 1).append (allDigits_toDigits power.natAbs),
        (digitsNumber_zeros_append 1 _).trans (digitsNumber_toDigits _), rfl⟩
    · exact ⟨_, allDigits_toDigits _, digitsNumber_toDigits _, rfl⟩
  have hfirst : ds.take 1 ≠ [] := by
    refine List.length_pos_iff.1 ?_
    rw [List.length_take]
    omega
  rw [hsizeText]
  refine ⟨.ofPower (ds.take 1) (ds.drop 1) power size,
    Layout.ofPower_valid (hdigits.take _) hfirst (hdigits.drop _) hsize, ?_, ?_⟩
  · rw [Layout.ofPower_text]
    split <;> split <;> simp
  · rw [Layout.ofPower_number hsizeNumber, List.take_append_drop, hnumber, List.length_drop]
    congr 2
    omega

/-! ## The text of a double -/

/-- The text of the size of a finite double. -/
def Parts.text (p : Parts) : String :=
  if p.mantissa == 0 then "0.0"
  else
    let d := p.shortest
    let point := (digitCount d.digits : Int) + d.exponent
    if -4 < point && point ≤ 16 then d.positional else d.scientific

theorem written_of_parts {x : Float} {p : Parts} (h : parts? x = some p) :
    written x = if p.negative then "-" ++ p.text else p.text := by
  rw [written, h]
  rfl

theorem Parts.text_layout (p : Parts) : ∃ l : Layout, l.Valid ∧ p.text.toList = l.text ∧
    l.number = p.writtenSize := by
  rw [text, writtenSize]
  simp only [beq_iff_eq]
  split
  · refine ⟨⟨['0'], some ['0'], none⟩, ⟨allDigits_zeros 1, by simp, ?_, by simp, .inl rfl⟩, rfl, ?_⟩
    · rintro _ ⟨⟩
      exact allDigits_zeros 1
    · rw [Layout.number, show digitsNumber _ = 0 from rfl, Nat.cast_zero, zero_mul]
  · split
    · exact p.shortest.positional_layout
    · exact p.shortest.scientific_layout

theorem written_layout {x : Float} {p : Parts} (h : parts? x = some p) :
    ∃ l : Layout, l.Valid ∧
      (written x).toList = (if p.negative then ['-'] else []) ++ l.text ∧
      l.number = p.writtenSize := by
  obtain ⟨l, hl, htext, hnumber⟩ := p.text_layout
  refine ⟨l, hl, ?_, hnumber⟩
  rw [written_of_parts h, ← htext]
  split
  · rw [String.toList_append]
    rfl
  · rfl

theorem written_chars {x : Float} {p : Parts} (h : parts? x = some p) :
    (∀ c ∈ (written x).toList, Layout.isNumeral c = true) ∧
      ∃ c ∈ (written x).toList, c = '.' ∨ c = 'e' := by
  obtain ⟨l, hl, htext, -⟩ := written_layout h
  obtain ⟨mark, hmark, hkind⟩ := l.exists_mark hl
  rw [htext]
  refine ⟨fun c hc => ?_, mark, List.mem_append_right _ hmark, hkind⟩
  rcases List.mem_append.1 hc with hc | hc
  · split at hc
    · rw [List.mem_singleton.1 hc]
      rfl
    · cases hc
  · exact l.isNumeral_of_mem hl hc

/-- **The text of a finite double tells the double.** -/
theorem written_inj {x y : Float} {p q : Parts} (hx : parts? x = some p) (hy : parts? y = some q)
    (h : written x = written y) : x = y := by
  obtain ⟨l, hl, hltext, hlnumber⟩ := written_layout hx
  obtain ⟨m, hm, hmtext, hmnumber⟩ := written_layout hy
  rw [h, hmtext] at hltext
  obtain ⟨hsign, rfl⟩ := Layout.signed_inj hm hl hltext
  obtain ⟨hmantissa, hexponent⟩ := Parts.writtenSize_inj (parts?_encodes hx).normal
    (parts?_encodes hy).normal (hlnumber.symm.trans hmnumber)
  have hparts : p = q := by
    cases p
    cases q
    cases hsign
    cases hmantissa
    cases hexponent
    rfl
  exact parts?_inj hx (hparts ▸ hy)

end Double
end RecordRules
