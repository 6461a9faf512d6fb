import RecordRules.Proofs.Expression.Agreement
import RecordRules.Proofs.Number.Written
import RecordRules.Proofs.Text.Pieces

/-!
# The forms of literals

* `IsNumber` and `IsLiteral` are the forms of literals, each with the value that it denotes.
* `literal?_of_isLiteral` and `isLiteral_of_literal?`: these forms are read to these values, and
  nothing else is read, as long as the text is not longer than the digits of an integer may be.
* `evaluate_of_literal?`: a literal is evaluated to its value, before names and operators are
  looked for.
* `literals_exact` is the whole.
-/

set_option autoImplicit false

namespace RecordRules

/-! ## Digits of numbers -/

namespace Text

theorem digitValue?_of_isDigit {c : Char} (h : c.isDigit = true) :
    digitValue? c = some (c.toNat - '0'.toNat) := by
  have hrange : 0x30 ≤ c.toNat ∧ c.toNat ≤ 0x39 := by
    simpa [Char.isDigit, UInt32.le_iff_toNat_le] using h
  rw [digitValue?, if_pos (by omega), if_pos (by simpa using hrange)]
  rfl

theorem isRun_toDigits (n : Nat) : IsRun (Nat.toDigits 10 n) where
  nonempty := List.length_pos_iff.1 Nat.length_toDigits_pos
  isDigit c hc := by
    rw [isDigit, digitValue?_of_isDigit (Double.allDigits_toDigits n c hc)]
    rfl

/-- The decimal digits of a number are read as that number. -/
theorem readDigits_toDigits (n : Nat) : readDigits (Nat.toDigits 10 n) = n := by
  have hfold : ∀ (cs : List Char) (start : Nat), Double.AllDigits cs →
      cs.foldl (fun n c => n * 10 + (digitValue? c).getD 0) start =
        Nat.ofDigitChars 10 cs start := by
    intro cs
    induction cs with
    | nil => exact fun _ _ => rfl
    | cons c cs ih =>
      intro start hcs
      rw [Double.AllDigits, List.forall_mem_cons] at hcs
      rw [List.foldl_cons, ih _ hcs.2, digitValue?_of_isDigit hcs.1, Option.getD_some,
        Nat.ofDigitChars_cons, Nat.mul_comm]
  rw [readDigits, hfold _ 0 (Double.allDigits_toDigits n)]
  exact Double.digitsNumber_toDigits n

end Text

namespace Value

open Text

/-! ## The forms -/

/-- A number with a sign. -/
def signed {α : Type} [Neg α] (negative : Bool) (size : α) : α := if negative then -size else size

/-- The numbers, and their values: an optional minus and digits, with or without a point among
them. -/
inductive IsNumber : List Char → Value → Prop
  | integer (negative : Bool) {digits : List Char} (h : IsRun digits) :
    IsNumber (integerText negative digits) (.int (signed negative (readDigits digits)))
  | decimal (negative : Bool) {whole fraction : List Char} (hwhole : IsRun whole)
      (hfraction : IsRun fraction) :
    IsNumber (integerText negative (whole ++ '.' :: fraction))
      (.float (signed negative
        (Double.ofDecimal (readDigits (whole ++ fraction)) (-(fraction.length : Int)))))

/-- The literals, and their values: truth values, null, a text in quotes that the quote does not
occur in, and numbers. -/
inductive IsLiteral : List Char → Value → Prop
  | bool (b : Bool) : IsLiteral (toString b).toList (.bool b)
  | null : IsLiteral "null".toList .null
  | quoted {q : Char} {inner : List Char} (hquote : q ∈ quotes) (hinner : q ∉ inner) :
    IsLiteral (q :: (inner ++ [q])) (.text (String.ofList inner))
  | number {text : List Char} {v : Value} (h : IsNumber text v) : IsLiteral text v

/-! ## Numbers -/

section Numbers

variable {text whole fraction : List Char} {negative : Bool} {v : Value}

theorem intLiteral_digitValues {digits : List Char} (h : digits.length ≤ digitLimit) :
    intLiteral negative (digitValues digits) =
      .ok (.int (signed negative (readDigits digits))) := by
  have hlength : ¬ digitLimit < (digitValues digits).length := by
    rw [digitValues, List.length_map]
    exact Nat.not_lt.2 h
  rw [intLiteral, if_neg hlength, ofDigits_digitValues]
  rfl

theorem decimalLiteral_digitValues :
    decimalLiteral negative (digitValues whole) (digitValues fraction) =
      .float (signed negative
        (Double.ofDecimal (readDigits (whole ++ fraction)) (-(fraction.length : Int)))) := by
  have happend : digitValues whole ++ digitValues fraction = digitValues (whole ++ fraction) :=
    List.map_append.symm
  have hlength : (digitValues fraction).length = fraction.length := List.length_map _
  rw [decimalLiteral, happend, ofDigits_digitValues, hlength]
  rfl

theorem sizeLiteral?_point (hwhole : IsRun whole) (hfraction : IsRun fraction) :
    sizeLiteral? negative (whole ++ '.' :: fraction) =
      some (.ok (decimalLiteral negative (digitValues whole) (digitValues fraction))) := by
  have hpoint : digitRun? (whole ++ '.' :: fraction) = none := by
    by_contra hrun
    obtain ⟨ds, hds⟩ := Option.ne_none_iff_exists'.1 hrun
    exact absurd ((digitRun?_eq_some_iff.1 hds).1.isDigit '.' (by simp)) (by decide)
  have hfree : ∀ c ∈ whole, (c != '.') = true := by
    intro c hc
    rw [bne_iff_ne]
    rintro rfl
    exact absurd (hwhole.isDigit '.' hc) (by decide)
  rw [sizeLiteral?, hpoint, Double.span_append hfree (by simp)]
  dsimp only
  rw [digitRun?_eq_some_iff.2 ⟨hwhole, rfl⟩, digitRun?_eq_some_iff.2 ⟨hfraction, rfl⟩]

theorem IsNumber.of_mem (h : IsNumber text v) :
    ∀ c ∈ text, c = '-' ∨ c = '.' ∨ isDigit c = true := by
  cases h with
  | integer negative h => exact fun c hc => (mem_integerText h.isDigit hc).imp_right .inr
  | @decimal negative whole fraction hwhole hfraction =>
    have hsize : ∀ c ∈ whole ++ '.' :: fraction, c = '.' ∨ isDigit c = true := by
      simp only [List.mem_append, List.mem_cons]
      rintro c (hc | rfl | hc)
      · exact .inr (hwhole.isDigit c hc)
      · exact .inl rfl
      · exact .inr (hfraction.isDigit c hc)
    cases negative with
    | false => exact fun c hc => .inr (hsize c hc)
    | true => exact fun c hc => (List.mem_cons.1 hc).imp_right (hsize c)

theorem IsNumber.nonempty (h : IsNumber text v) : text ≠ [] := by
  cases h with
  | integer negative h => cases negative <;> simp [integerText, h.nonempty]
  | decimal negative _ _ => cases negative <;> simp [integerText]

theorem IsNumber.isTight (h : IsNumber text v) : IsTight text := by
  refine .of_forall h.nonempty fun c hc => ?_
  obtain rfl | rfl | hdigit := h.of_mem c hc
  · decide
  · decide
  · exact isBlank_of_isDigit hdigit

/-- **A number is read to its value**, unless it is too long. -/
theorem numberLiteral?_of_isNumber (h : IsNumber text v) (hlength : text.length ≤ digitLimit) :
    numberLiteral? text = some (.ok v) := by
  have hline : '\n' ∉ text := fun hmem => absurd (h.of_mem '\n' hmem) (by decide)
  have hsign : ∀ {size : List Char}, IsRun size → ∀ rest, (size ++ rest).head? ≠ some '-' := by
    intro size hsize rest
    obtain ⟨c, cs, rfl⟩ := List.exists_cons_of_ne_nil hsize.nonempty
    rintro ⟨⟩
    exact absurd (hsize.isDigit '-' List.mem_cons_self) (by decide)
  cases h with
  | @integer negative digits h =>
    have hdigits : digits.length ≤ digitLimit := by
      cases negative with
      | false => exact hlength
      | true => exact (Nat.le_succ _).trans hlength
    rw [numberLiteral?_integerText hline (List.append_nil digits ▸ hsign h []),
      sizeLiteral?_run h, intLiteral_digitValues hdigits]
  | decimal negative hwhole hfraction =>
    rw [numberLiteral?_integerText hline (hsign hwhole _), sizeLiteral?_point hwhole hfraction,
      decimalLiteral_digitValues]

/-- **Only numbers are read as numbers**, and fail only by their length. -/
theorem isNumber_of_numberLiteral? (hline : dropLineEnd text = text)
    {number : Except ValueError Value} (h : numberLiteral? text = some number) :
    (∃ v, IsNumber text v ∧ number = .ok v) ∨ digitLimit < text.length := by
  obtain ⟨negative, size, htext, hnumber⟩ := exists_integerText text
  rw [hnumber] at h
  rw [hline] at htext
  subst htext
  obtain ⟨hrun, rfl⟩ | ⟨whole, fraction, hwhole, hfraction, rfl, rfl⟩ := sizeLiteral?_cases h
  · rcases Nat.lt_or_ge digitLimit size.length with hlong | hshort
    · refine .inr (hlong.trans_le ?_)
      cases negative with
      | false => exact le_rfl
      | true => exact Nat.le_succ _
    · exact .inl ⟨_, .integer negative hrun, intLiteral_digitValues hshort⟩
  · exact .inl ⟨_, .decimal negative hwhole hfraction, congrArg _ decimalLiteral_digitValues⟩

end Numbers

/-! ## Literals -/

section Literals

variable {text inner : List Char} {q : Char} {v : Value}

theorem of_mem_quotes (hq : q ∈ quotes) : isWord q = false ∧ isBlank q = false := by
  have hall : (quotes.all fun q => !isWord q && !isBlank q) = true := by decide
  simpa using List.all_eq_true.1 hall q hq

theorem isTight_word {word : String} (hword : word ∈ literalWords) : IsTight word.toList := by
  have hne : (literalWords.all fun word => !word.toList.isEmpty) = true := by decide
  exact .of_forall (by simpa using List.all_eq_true.1 hne word hword) fun c hc =>
    isBlank_of_isWord (isWord_of_mem_literalWords hword c hc)

theorem quotedLiteral?_concat (hq : q ∈ quotes) (inner : List Char) :
    quotedLiteral? (q :: (inner ++ [q])) =
      some (if inner.contains q then none else some inner) := by
  have hquote : (q == '\'' || q == '"') = true := by simpa [quotes] using hq
  rw [quotedLiteral?, hquote, List.getLast?_concat, List.dropLast_concat]
  simp

/-- What is quoted begins and ends with the same quote. -/
theorem exists_of_quotedLiteral? {quoted : Option (List Char)}
    (h : quotedLiteral? text = some quoted) :
    ∃ q ∈ quotes, ∃ inner, text = q :: (inner ++ [q]) ∧
      quoted = if inner.contains q then none else some inner := by
  cases text with
  | nil => cases h
  | cons q rest =>
    rw [quotedLiteral?] at h
    split at h
    · next hquote =>
      rw [Bool.and_eq_true] at hquote
      obtain ⟨inner, rfl⟩ := List.getLast?_eq_some_iff.1 (eq_of_beq hquote.2)
      rw [Option.some.injEq, List.dropLast_concat] at h
      exact ⟨q, by simpa [quotes] using hquote.1, inner, rfl, h.symm⟩
    · cases h

/-- A text in quotes is read to the text. -/
theorem literal?_quoted (hquote : q ∈ quotes) (hinner : q ∉ inner) :
    literal? (q :: (inner ++ [q])) = .ok (some (.text (String.ofList inner))) := by
  have hword : ∀ word ∈ literalWords, q :: (inner ++ [q]) ≠ word.toList := by
    intro word hword htext
    have hq := isWord_of_mem_literalWords hword q (htext ▸ List.mem_cons_self)
    exact Bool.false_ne_true ((of_mem_quotes hquote).1.symm.trans hq)
  have hcontains : inner.contains q = false := by simpa using hinner
  rw [literal?, if_neg (hword "true" (by decide)), if_neg (hword "false" (by decide)),
    if_neg (hword "null" (by decide)), quotedLiteral?_concat hquote, hcontains]
  rfl

/-- **A literal is read to its value**, unless it is too long. -/
theorem literal?_of_isLiteral (h : IsLiteral text v) (hlength : text.length ≤ digitLimit) :
    literal? text = .ok (some v) := by
  cases h with
  | bool b => cases b <;> rfl
  | null => rfl
  | quoted hquote hinner => exact literal?_quoted hquote hinner
  | number h =>
    rw [literal?_eq_number_of_mem h.of_mem, numberLiteral?_of_isNumber h hlength]
    rfl

/-- **Only literals are read**, and reading fails only by the length. -/
theorem isLiteral_of_literal? (hline : dropLineEnd text = text)
    (hlength : text.length ≤ digitLimit) :
    ∃ found, literal? text = .ok found ∧ ∀ v ∈ found, IsLiteral text v := by
  rw [literal?]
  split
  · next htext => exact ⟨_, rfl, fun v hv => by cases hv; exact htext ▸ .bool true⟩
  split
  · next htext => exact ⟨_, rfl, fun v hv => by cases hv; exact htext ▸ .bool false⟩
  split
  · next htext => exact ⟨_, rfl, fun v hv => by cases hv; exact htext ▸ .null⟩
  cases hquoted : quotedLiteral? text with
  | some quoted =>
    obtain ⟨q, hq, inner, rfl, rfl⟩ := exists_of_quotedLiteral? hquoted
    by_cases hinner : q ∈ inner
    · exact ⟨none, by simp [hinner], fun v hv => absurd hv (Option.not_mem_none v)⟩
    · refine ⟨some (.text (String.ofList inner)), by simp [hinner], fun v hv => ?_⟩
      cases hv
      exact .quoted hq hinner
  | none =>
    cases hnumber : numberLiteral? text with
    | none => exact ⟨none, rfl, fun v hv => absurd hv (Option.not_mem_none v)⟩
    | some number =>
      obtain ⟨v, hv, rfl⟩ | hlong := isNumber_of_numberLiteral? hline hnumber
      · refine ⟨some v, rfl, fun w hw => ?_⟩
        cases hw
        exact .number hv
      · exact absurd hlong (Nat.not_lt.2 hlength)

theorem IsLiteral.isTight (h : IsLiteral text v) : IsTight text := by
  cases h with
  | bool b => exact isTight_word (by cases b <;> decide)
  | null => exact isTight_word (by decide)
  | @quoted q inner hquote _ =>
    have hblank := (of_mem_quotes hquote).2
    exact ⟨⟨q, rfl, hblank⟩, q, by rw [← List.cons_append, List.getLast?_concat], hblank⟩
  | number h => exact h.isTight

theorem dropLineEnd_of_trim (h : trim text = text) : dropLineEnd text = text := by
  rw [dropLineEnd, if_neg]
  intro hlast
  have hlast := eq_of_beq hlast
  have htight : IsTight text := by
    rw [← h]
    refine isTight_trim ?_
    rw [h]
    rintro rfl
    cases hlast
  obtain ⟨c, hc, hblank⟩ := htight.last
  rw [hlast, Option.some.injEq] at hc
  subst hc
  exact absurd hblank (by decide)

end Literals

end Value

namespace Expression

open Value (IsLiteral integerText quotes)

/-! ## Literals as expressions -/

/-- **A literal is evaluated to its value**, whatever names there are and whatever it contains. -/
theorem evaluate_of_literal? {text : List Char} {v : Value} (htight : Text.IsTight text)
    (hvalue : Value.literal? text = .ok (some v)) (limits : Limits) (context : Context)
    (hlimit : (text.length : Int) ≤ limits.maxLength) :
    evaluate limits context (String.ofList text) = .ok v := by
  rw [evaluate_of_isTight htight hlimit, evaluateTrimmed, hvalue]
  rfl

theorem isLiteral_toString (n : Int) : IsLiteral (toString n).toList (.int n) := by
  have htext : (toString n).toList = integerText (decide (n < 0)) (Nat.toDigits 10 n.natAbs) := by
    simp only [Double.toString_int, integerText, decide_eq_true_eq]
  have hvalue : Value.signed (decide (n < 0)) (n.natAbs : Int) = n := by
    simp only [Value.signed, decide_eq_true_eq]
    split <;> omega
  have h := Value.IsNumber.integer (decide (n < 0)) (Text.isRun_toDigits n.natAbs)
  rw [Text.readDigits_toDigits, hvalue, ← htext] at h
  exact .number h

/-- **Literals are exactly these forms, and stand for themselves.**  A trimmed text of at most 4096
characters is read, and it is read as a literal only if it has one of the forms.  The decimal text
of an integer is evaluated to the integer, and a text in quotes that it does not contain to the
text, in every context. -/
theorem literals_exact :
    (∀ text : List Char, Text.trim text = text → text.length ≤ 4096 →
      ∃ found, Value.literal? text = .ok found ∧ ∀ v, found = some v ↔ IsLiteral text v) ∧
    (∀ n : Int, (toString n).length ≤ 4096 → ∀ (limits : Limits) (context : Context),
      ((toString n).length : Int) ≤ limits.maxLength →
        evaluate limits context (toString n) = .ok (.int n)) ∧
    ∀ (s : String), ∀ q ∈ quotes, q ∉ s.toList → ∀ (limits : Limits) (context : Context),
      (s.length + 2 : Int) ≤ limits.maxLength →
        evaluate limits context (String.singleton q ++ s ++ String.singleton q) =
          .ok (.text s) := by
  refine ⟨fun text htrim hlength => ?_, fun n hlength limits context hlimit => ?_,
    fun s q hq hs limits context hlimit => ?_⟩
  · have hlength : text.length ≤ digitLimit := hlength.trans (by decide)
    obtain ⟨found, hfound, hsound⟩ :=
      Value.isLiteral_of_literal? (Value.dropLineEnd_of_trim htrim) hlength
    refine ⟨found, hfound, fun v => ⟨hsound v, fun h => ?_⟩⟩
    rw [Value.literal?_of_isLiteral h hlength, Except.ok.injEq] at hfound
    exact hfound.symm
  · have hliteral := isLiteral_toString n
    have hlength : (toString n).toList.length ≤ digitLimit :=
      String.length_toList.trans_le (hlength.trans (by decide))
    have hvalue := evaluate_of_literal? hliteral.isTight
      (Value.literal?_of_isLiteral hliteral hlength) limits context (String.length_toList ▸ hlimit)
    rwa [String.ofList_toList] at hvalue
  · have htext : String.singleton q ++ s ++ String.singleton q =
        String.ofList (q :: (s.toList ++ [q])) := by
      rw [← String.toList_inj, String.toList_append, String.toList_append]
      simp
    have hlength : (q :: (s.toList ++ [q])).length = s.length + 2 := by
      rw [List.length_cons, List.length_append, List.length_singleton, String.length_toList]
    have hvalue := evaluate_of_literal? (IsLiteral.quoted hq hs).isTight
      (Value.literal?_quoted hq hs) limits context (by rw [hlength]; exact_mod_cast hlimit)
    rw [String.ofList_toList] at hvalue
    rwa [htext]

/-- A context with the texts of two literals as names. -/
def shadowing : Context := [("-12", .null), ("\" a == 'b' && c\"", .null)]

/-- Names do not stand in the way of literals, nor do operators inside of them; a point with no
digit behind it makes no number. -/
theorem literals_exact_shadowing :
    (∀ v, ¬ IsLiteral "12.".toList v) ∧
      evaluate {} shadowing "-12" = .ok (.int (-12)) ∧
      evaluate {} shadowing "\" a == 'b' && c\"" = .ok (.text " a == 'b' && c") := by
  obtain ⟨hforms, hintegers, hquoted⟩ := literals_exact
  refine ⟨fun v hv => ?_, ?_, ?_⟩
  · obtain ⟨found, hfound, hiff⟩ := hforms "12.".toList (by decide +kernel) (by decide +kernel)
    have hnone : Value.literal? "12.".toList = .ok none := by cbv
    rw [hnone, Except.ok.injEq] at hfound
    have := (hiff v).2 hv
    rw [← hfound] at this
    cases this
  · exact hintegers (-12) (by decide +kernel) {} shadowing (by decide +kernel)
  · exact hquoted " a == 'b' && c" '"' (by decide) (by decide +kernel) {} shadowing
      (by decide +kernel)

end Expression
end RecordRules
