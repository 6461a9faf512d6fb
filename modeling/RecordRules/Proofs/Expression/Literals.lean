import Mathlib.Data.List.TakeDrop
import RecordRules.Text.Blank
import RecordRules.Value.Literal

/-!
# Words, numbers, and what is a literal

* `Text.isWord` is a character of a word; neither these nor digits of any script are blanks.
* `Text.IsRun` is a run of digits, and `Text.digitRun?_eq_some_iff` how it is read.
* `Value.sizeLiteral?` is the number that a text without a sign is, and `Value.sizeLiteral?_cases`
  what such a text consists of.
* `Value.literal?_of_isAlpha`: what begins with a letter is no literal, apart from three words.
* `Value.literal?_integerText`: the text of an integer is a literal, unless it is too long.
-/

set_option autoImplicit false

namespace RecordRules

/-! ## Characters -/

namespace Text

variable {c : Char}

/-- A letter, digit or underscore in ASCII. -/
def isWord (c : Char) : Bool := c.isAlphanum || c == '_'

theorem code_of_isAlpha (h : c.isAlpha = true) :
    0x41 ≤ c.toNat ∧ c.toNat ≤ 0x5A ∨ 0x61 ≤ c.toNat ∧ c.toNat ≤ 0x7A := by
  have hrange : (decide (c.val ≥ 0x41 ∧ c.val ≤ 0x5A) ||
      decide (c.val ≥ 0x61) && decide (c.val ≤ 0x7A)) = true := h
  simpa [UInt32.le_iff_toNat_le] using hrange

theorem code_of_isWord (h : isWord c = true) :
    0x30 ≤ c.toNat ∧ c.toNat ≤ 0x39 ∨ 0x41 ≤ c.toNat ∧ c.toNat ≤ 0x7A := by
  rw [isWord, Char.isAlphanum, Bool.or_eq_true, Bool.or_eq_true] at h
  rcases h with (h | h) | h
  · have := code_of_isAlpha h
    omega
  · have : 0x30 ≤ c.toNat ∧ c.toNat ≤ 0x39 := by
      simpa [Char.isDigit, UInt32.le_iff_toNat_le] using h
    exact .inl this
  · rw [eq_of_beq h]
    decide

theorem isBlank_of_isWord (h : isWord c = true) : isBlank c = false := by
  have := code_of_isWord h
  simp [isBlank, isSpace]
  omega

theorem digitValue?_of_isAlpha (h : c.isAlpha = true) : digitValue? c = none := by
  have hcode := code_of_isAlpha h
  unfold digitValue?
  dsimp only
  rw [if_pos (by omega), if_neg (by simp; omega)]

/-- Where the digits are, beyond those of ASCII: between the blanks. -/
theorem code_of_isDigit (h : isDigit c = true) :
    0x30 ≤ c.toNat ∧ c.toNat ≤ 0x39 ∨ 0x660 ≤ c.toNat ∧ c.toNat < 0x1680 ∨
      0x1680 < c.toNat ∧ c.toNat < 0x2000 ∨ 0x3000 < c.toNat := by
  unfold isDigit digitValue? at h
  dsimp only at h
  split at h
  · split at h
    · rename_i hrange
      simp only [Bool.and_eq_true, decide_eq_true_eq] at hrange
      exact .inl hrange
    · cases h
  · rw [Option.isSome_map] at h
    obtain ⟨start, hstart⟩ := Option.isSome_iff_exists.1 h
    have hrun := List.find?_some hstart
    simp only [Bool.and_eq_true, decide_eq_true_eq] at hrun
    have hruns : ∀ start ∈ zeroCodes, 0x660 ≤ start ∧ start + 10 ≤ 0x1680 ∨
        0x1680 < start ∧ start + 10 ≤ 0x2000 ∨ 0x3000 < start := by decide
    have := hruns start (List.mem_of_find?_eq_some hstart)
    omega

theorem isBlank_of_isDigit (h : isDigit c = true) : isBlank c = false := by
  have := code_of_isDigit h
  simp [isBlank, isSpace]
  omega

/-! ## Runs of digits -/

section Runs

variable {digits : List Char} {ds : List Nat}

/-- One or more decimal digits, of any script. -/
structure IsRun (digits : List Char) : Prop where
  nonempty : digits ≠ []
  isDigit : ∀ c ∈ digits, isDigit c = true

/-- The values of digits. -/
def digitValues (digits : List Char) : List Nat := digits.map fun c => (digitValue? c).getD 0

theorem ofDigits_digitValues (digits : List Char) :
    ofDigits (digitValues digits) = readDigits digits := List.foldl_map

theorem isDigit_of_mapM (h : digits.mapM digitValue? = some ds) :
    ∀ c ∈ digits, isDigit c = true := by
  induction digits generalizing ds with
  | nil => exact List.forall_mem_nil _
  | cons c rest ih =>
    rw [List.mapM_cons, Option.bind_eq_bind, Option.bind_eq_some_iff] at h
    obtain ⟨d, hd, h⟩ := h
    rw [Option.bind_eq_bind, Option.bind_eq_some_iff] at h
    obtain ⟨ds, hds, -⟩ := h
    exact List.forall_mem_cons.2 ⟨Option.isSome_iff_exists.2 ⟨d, hd⟩, ih hds⟩

theorem mapM_digitValue? (h : ∀ c ∈ digits, isDigit c = true) :
    digits.mapM digitValue? = some (digitValues digits) := by
  induction digits with
  | nil => rfl
  | cons c rest ih =>
    rw [List.forall_mem_cons] at h
    obtain ⟨d, hd⟩ := Option.isSome_iff_exists.1 h.1
    rw [List.mapM_cons, ih h.2, hd]
    simp [digitValues, hd]

/-- **Runs of digits are read to the values of the digits**, and nothing else is. -/
theorem digitRun?_eq_some_iff :
    digitRun? digits = some ds ↔ IsRun digits ∧ digitValues digits = ds := by
  rw [digitRun?]
  constructor
  · intro h
    split at h
    · cases h
    · next hne =>
      have hdigits := isDigit_of_mapM h
      rw [mapM_digitValue? hdigits, Option.some.injEq] at h
      exact ⟨⟨by simpa using hne, hdigits⟩, h⟩
  · rintro ⟨hrun, rfl⟩
    rw [if_neg (by simpa using hrun.nonempty), mapM_digitValue? hrun.isDigit]

end Runs

end Text

namespace Value

open Text

/-! ## Numbers -/

section Numbers

variable {text size digits : List Char} {negative : Bool} {number : Except ValueError Value}

/-- The text of an integer: digits, after a minus if it is negative. -/
def integerText (negative : Bool) (digits : List Char) : List Char :=
  if negative then '-' :: digits else digits

theorem mem_integerText (h : ∀ c ∈ digits, isDigit c = true) {c : Char}
    (hc : c ∈ integerText negative digits) : c = '-' ∨ isDigit c = true := by
  cases negative with
  | false => exact .inr (h c hc)
  | true => exact (List.mem_cons.1 hc).imp id (h c)

/-- The number that a text without a sign is. -/
def sizeLiteral? (negative : Bool) (size : List Char) : Option (Except ValueError Value) :=
  match digitRun? size with
  | some digits => some (intLiteral negative digits)
  | none =>
    match size.span (· != '.') with
    | (whole, _ :: fraction) =>
      match digitRun? whole, digitRun? fraction with
      | some ws, some fs => some (.ok (decimalLiteral negative ws fs))
      | _, _ => none
    | _ => none

theorem sizeLiteral?_run (h : IsRun digits) (negative : Bool) :
    sizeLiteral? negative digits = some (intLiteral negative (digitValues digits)) := by
  rw [sizeLiteral?, digitRun?_eq_some_iff.2 ⟨h, rfl⟩]

/-- What is a number is a run of digits, or two with a point between them. -/
theorem sizeLiteral?_cases (h : sizeLiteral? negative size = some number) :
    (IsRun size ∧ number = intLiteral negative (digitValues size)) ∨
      ∃ whole fraction, IsRun whole ∧ IsRun fraction ∧ size = whole ++ '.' :: fraction ∧
        number = .ok (decimalLiteral negative (digitValues whole) (digitValues fraction)) := by
  rw [sizeLiteral?] at h
  cases hrun : digitRun? size with
  | some ds =>
    obtain ⟨hsize, rfl⟩ := digitRun?_eq_some_iff.1 hrun
    rw [hrun, Option.some.injEq] at h
    exact .inl ⟨hsize, h.symm⟩
  | none =>
    rw [hrun, List.span_eq_takeWhile_dropWhile] at h
    dsimp only at h
    split at h
    · next whole point fraction hspan =>
      obtain ⟨hwhole, hrest⟩ := Prod.mk.inj hspan
      obtain rfl : point = '.' := by
        have := List.head?_dropWhile_not (· != '.') size
        simpa [hrest] using this
      have hsize : size = whole ++ '.' :: fraction := by
        rw [← hwhole, ← hrest, List.takeWhile_append_dropWhile]
      split at h
      · next ws fs hws hfs =>
        obtain ⟨hwholeRun, rfl⟩ := digitRun?_eq_some_iff.1 hws
        obtain ⟨hfractionRun, rfl⟩ := digitRun?_eq_some_iff.1 hfs
        rw [Option.some.injEq] at h
        exact .inr ⟨whole, fraction, hwholeRun, hfractionRun, hsize, h.symm⟩
      · cases h
    · cases h

theorem dropLineEnd_append (cs : List Char) :
    ∃ ending, dropLineEnd cs ++ ending = cs ∧ ∀ c ∈ ending, c = '\n' := by
  rw [dropLineEnd]
  split
  · rename_i hlast
    obtain ⟨front, rfl⟩ := List.getLast?_eq_some_iff.1 (eq_of_beq hlast)
    exact ⟨['\n'], by rw [List.dropLast_concat], List.forall_mem_singleton.2 rfl⟩
  · exact ⟨[], List.append_nil cs, List.forall_mem_nil _⟩

theorem dropLineEnd_of_not_mem (h : '\n' ∉ text) : dropLineEnd text = text := by
  rw [dropLineEnd, if_neg]
  exact fun hlast => h (List.mem_of_getLast? (eq_of_beq hlast))

/-- A text is read by its sign and its size. -/
theorem exists_integerText (text : List Char) :
    ∃ negative size, dropLineEnd text = integerText negative size ∧
      numberLiteral? text = sizeLiteral? negative size := by
  unfold numberLiteral?
  refine ⟨_, _, ?_, rfl⟩
  cases dropLineEnd text with
  | nil => rfl
  | cons c rest =>
    by_cases hc : c = '-'
    · subst hc
      rfl
    · simp [integerText, hc]

theorem numberLiteral?_integerText (hline : '\n' ∉ integerText negative size)
    (hsign : size.head? ≠ some '-') :
    numberLiteral? (integerText negative size) = sizeLiteral? negative size := by
  unfold numberLiteral?
  rw [dropLineEnd_of_not_mem hline]
  cases negative with
  | true => rfl
  | false =>
    have hhead : (size.head? == some '-') = false := beq_eq_false_iff_ne.2 hsign
    simp only [integerText, Bool.false_eq_true, if_false, hhead]
    rfl

/-- A number is a sign, digits with a point, and a line break, some of which may be missing. -/
theorem parts_of_numberLiteral? (h : numberLiteral? text = some number) :
    ∃ negative size ending, text = integerText negative size ++ ending ∧
      (∀ c ∈ size, c = '.' ∨ isDigit c = true) ∧ ∀ c ∈ ending, c = '\n' := by
  obtain ⟨negative, size, htext, hnumber⟩ := exists_integerText text
  obtain ⟨ending, happend, hending⟩ := dropLineEnd_append text
  refine ⟨negative, size, ending, by rw [← htext, happend], ?_, hending⟩
  rw [hnumber] at h
  obtain ⟨hrun, -⟩ | ⟨whole, fraction, hwhole, hfraction, rfl, -⟩ := sizeLiteral?_cases h
  · exact fun c hc => .inr (hrun.isDigit c hc)
  · simp only [List.mem_append, List.mem_cons]
    rintro c (hc | rfl | hc)
    · exact .inr (hwhole.isDigit c hc)
    · exact .inl rfl
    · exact .inr (hfraction.isDigit c hc)

/-- A text with another character is no number. -/
theorem numberLiteral?_eq_none_of_mem {c : Char} (hc : c ∈ text)
    (hother : c ∉ ['-', '.', '\n']) (hdigit : isDigit c = false) : numberLiteral? text = none := by
  simp only [List.mem_cons, List.not_mem_nil, or_false, not_or] at hother
  obtain ⟨hminus, hpoint, hline⟩ := hother
  by_contra hsome
  obtain ⟨number, hnumber⟩ := Option.ne_none_iff_exists'.1 hsome
  obtain ⟨negative, size, ending, rfl, hsize, hending⟩ := parts_of_numberLiteral? hnumber
  have hnotsize : c ∉ size := fun hmem => (hsize c hmem).elim hpoint (by simp [hdigit])
  have hnotending : c ∉ ending := fun hmem => hline (hending c hmem)
  cases negative <;> simp [integerText, hminus, hnotsize, hnotending] at hc

end Numbers

/-! ## Literals -/

/-- The words that are literals. -/
def literalWords : List String := ["true", "false", "null"]

theorem isWord_of_mem_literalWords {word : String} (hword : word ∈ literalWords) :
    ∀ c ∈ word.toList, isWord c = true := by
  have hall : (literalWords.all fun word => word.toList.all isWord) = true := by decide
  exact List.all_eq_true.1 (List.all_eq_true.1 hall word hword)

/-- The characters that texts are quoted with. -/
def quotes : List Char := ['\'', '"']

theorem quotedLiteral?_eq_none {text : List Char} (h : ∀ q ∈ quotes, text.head? ≠ some q) :
    quotedLiteral? text = none := by
  cases text with
  | nil => rfl
  | cons c rest =>
    have hsingle : c ≠ '\'' := fun hc => h '\'' (by decide) (hc ▸ rfl)
    have hdouble : c ≠ '"' := fun hc => h '"' (by decide) (hc ▸ rfl)
    simp [quotedLiteral?, hsingle, hdouble]

/-- What is neither a word nor quoted is a literal if it is a number. -/
theorem literal?_eq_number {text : List Char} (hwords : ∀ word ∈ literalWords, text ≠ word.toList)
    (hquotes : ∀ q ∈ quotes, text.head? ≠ some q) :
    literal? text = (numberLiteral? text).elim (.ok none) (some <$> ·) := by
  rw [literal?, if_neg (hwords "true" (by decide)), if_neg (hwords "false" (by decide)),
    if_neg (hwords "null" (by decide)), quotedLiteral?_eq_none hquotes]
  rcases numberLiteral? text with _ | e | v <;> rfl

/-- A text that begins with a letter is a literal only if it is one of three words. -/
theorem literal?_of_isAlpha {c : Char} {rest : List Char} (hc : c.isAlpha = true)
    (hwords : ∀ word ∈ literalWords, c :: rest ≠ word.toList) :
    literal? (c :: rest) = .ok none := by
  have hne : ∀ {d : Char}, d.isAlpha = false → c ≠ d := by
    rintro d hd rfl
    rw [hc] at hd
    cases hd
  have hquotes : ∀ q ∈ quotes, (c :: rest).head? ≠ some q := by
    have hall : (quotes.all fun q => !q.isAlpha) = true := by decide
    intro q hq hhead
    exact hne (by simpa using List.all_eq_true.1 hall q hq) (Option.some.inj hhead)
  have hnumber : numberLiteral? (c :: rest) = none :=
    numberLiteral?_eq_none_of_mem List.mem_cons_self
      (by simp [hne (by decide : '\n'.isAlpha = false), hne (by decide : '-'.isAlpha = false),
        hne (by decide : '.'.isAlpha = false)])
      (by rw [isDigit, digitValue?_of_isAlpha hc, Option.isSome_none])
  rw [literal?_eq_number hwords hquotes, hnumber, Option.elim_none]

/-- A text of digits, points and minuses is neither a word nor quoted. -/
theorem literal?_eq_number_of_mem {text : List Char}
    (h : ∀ c ∈ text, c = '-' ∨ c = '.' ∨ isDigit c = true) :
    literal? text = (numberLiteral? text).elim (.ok none) (some <$> ·) := by
  have hfree : ∀ {c : Char}, c ≠ '-' → c ≠ '.' → isDigit c = false → c ∉ text :=
    fun hminus hpoint hdigit hc =>
      (h _ hc).elim hminus fun h => h.elim hpoint fun h => Bool.false_ne_true (hdigit ▸ h)
  refine literal?_eq_number (fun word hword htext => ?_) fun q hq hhead => ?_
  · have hletter : ∃ c ∈ word.toList, c ≠ '-' ∧ c ≠ '.' ∧ isDigit c = false := by
      simp only [literalWords, List.mem_cons, List.not_mem_nil, or_false] at hword
      rcases hword with rfl | rfl | rfl
      · exact ⟨'t', by decide⟩
      · exact ⟨'f', by decide⟩
      · exact ⟨'n', by decide⟩
    obtain ⟨c, hc, hminus, hpoint, hdigit⟩ := hletter
    exact hfree hminus hpoint hdigit (htext ▸ hc)
  · simp only [quotes, List.mem_cons, List.not_mem_nil, or_false] at hq
    rcases hq with rfl | rfl
    · exact hfree (by decide) (by decide) (by decide) (List.mem_of_mem_head? hhead)
    · exact hfree (by decide) (by decide) (by decide) (List.mem_of_mem_head? hhead)

/-- The text of an integer is a literal for an integer, or for one with too many digits. -/
theorem literal?_integerText {negative : Bool} {digits : List Char} (hne : digits ≠ [])
    (h : ∀ c ∈ digits, isDigit c = true) :
    (∃ n, literal? (integerText negative digits) = .ok (some (.int n))) ∨
      ∃ e, literal? (integerText negative digits) = .error e := by
  have hline : '\n' ∉ integerText negative digits := fun hmem =>
    absurd (mem_integerText h hmem) (by decide)
  have hsign : digits.head? ≠ some '-' := fun hhead =>
    absurd (h '-' (List.mem_of_head? hhead)) (by decide)
  rw [literal?_eq_number_of_mem fun c hc => (mem_integerText h hc).imp_right .inr,
    numberLiteral?_integerText hline hsign, sizeLiteral?_run ⟨hne, h⟩, Option.elim_some, intLiteral]
  by_cases hlong : digitLimit < (digitValues digits).length
  · rw [if_pos hlong]
    exact .inr ⟨_, rfl⟩
  · rw [if_neg hlong]
    exact .inl ⟨_, rfl⟩

end Value
end RecordRules
