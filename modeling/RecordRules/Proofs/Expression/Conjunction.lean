import RecordRules.Proofs.Expression.Agreement
import RecordRules.Proofs.Expression.Literals
import RecordRules.Proofs.Expression.Nesting
import RecordRules.Proofs.Text.Pieces

/-!
# Conjunctions, and their operands on their own

The whole text of an expression is first taken for a literal or for a name of the context, and only
then cut at operators.  An operand of `&&` is cut at operators at once.  The two ways meet for every
text that has no operator:

* `IsSimple` says that a text is not cut at all, and `isSimple_of_numberLiteral?` that numbers are
  not.
* `evaluateTrimmed_eq`: a text is evaluated on its own as it is as an operand, unless it is quoted
  or a name of the context and has an operator in it.
* `isMet_evaluateWithin`: whether a text is met is decided by its pieces between `&&`, also if it
  has only one.
* `holds_and` puts two conditions together, and `holds_and_hyphenated` is a text in quotes that is
  true on its own and false as an operand.
-/

set_option autoImplicit false

namespace RecordRules
namespace Expression

variable {limits : Limits} {context : Context} {text : List Char}

/-! ## Texts that are not cut -/

/-- A text that is not cut at any operator and is no call: its value is a simple value. -/
structure IsSimple (text : List Char) : Prop where
  comparison : findComparison? text = none
  logical : ∀ c : Connective, ¬ c.symbol <:+: text
  plus : ¬ ['+'] <:+: text
  /-- A minus at the start is no operator, and hides all others. -/
  minus : text.head? ≠ some '-' → ¬ ['-'] <:+: text
  times : ¬ ['*'] <:+: text
  slash : ¬ ['/'] <:+: text
  call : sumArgument? text = none

theorem IsSimple.evaluateWithin_eq (h : IsSimple text) (limits : Limits) (context : Context)
    (left : Nat) : evaluateWithin limits context (left + 1) text = simpleValue context text := by
  have hnone : connective? text = none := by
    by_contra hsome
    obtain ⟨c, hc⟩ := Option.ne_none_iff_exists'.1 hsome
    exact h.logical c (connective?_eq_some_iff.1 hc).2.1
  have hminus : (if text.head? = some '-' then none else Text.cut? ['-'] text) = none := by
    split
    · rfl
    · exact Text.cut?_eq_none_iff.2 (h.minus ‹_›)
  rw [evaluateWithin_succ, hnone]
  dsimp only
  rw [evaluateFlat, h.comparison]
  dsimp only
  rw [evaluateTerm, if_neg (mt Text.occurs_iff.1 h.plus), hminus]
  dsimp only
  rw [if_neg (mt Text.occurs_iff.1 h.times), Text.cut?_eq_none_iff.2 h.slash, h.call]

/-- The characters of operators and calls, apart from the minus. -/
def cutMarks : List Char := ['=', '<', '>', '&', '|', '+', '*', '/', '(']

/-- Neither these characters nor a minus are part of a word, digits, points or line breaks. -/
theorem of_mem_cutMarks : ∀ c ∈ '-' :: cutMarks, Text.isWord c = false ∧
    Text.isDigit c = false ∧ c ≠ '.' ∧ c ≠ '\n' := by
  intro c hc
  simp only [cutMarks, List.mem_cons, List.not_mem_nil, or_false] at hc
  rcases hc with rfl | rfl | rfl | rfl | rfl | rfl | rfl | rfl | rfl | rfl <;> decide

/-- A text is simple if it has none of these characters, and no minus unless there is one in
front. -/
theorem isSimple_of_not_mem (hmarks : ∀ c ∈ cutMarks, c ∉ text)
    (hminus : text.head? ≠ some '-' → '-' ∉ text) : IsSimple text where
  comparison := findComparison?_eq_none (hmarks '=' (by decide)) (hmarks '<' (by decide))
    (hmarks '>' (by decide))
  logical
    | .conjunction, h => hmarks '&' (by decide) (h.subset List.mem_cons_self)
    | .disjunction, h => hmarks '|' (by decide) (h.subset List.mem_cons_self)
  plus h := hmarks '+' (by decide) (h.subset List.mem_cons_self)
  minus hhead h := hminus hhead (h.subset List.mem_cons_self)
  times h := hmarks '*' (by decide) (h.subset List.mem_cons_self)
  slash h := hmarks '/' (by decide) (h.subset List.mem_cons_self)
  call := by
    rw [sumArgument?, Text.cut?_eq_none_of_not_mem (List.mem_singleton_self '(')
      (hmarks '(' (by decide))]
    rfl

/-! ## Numbers -/

theorem isSimple_of_numberLiteral? {number : Except ValueError Value}
    (h : Value.numberLiteral? text = some number) : IsSimple text := by
  obtain ⟨negative, size, ending, rfl, hsize, hending⟩ := Value.parts_of_numberLiteral? h
  have hmarks : ∀ c ∈ '-' :: cutMarks, c ∉ size ∧ c ∉ ending := by
    intro c hc
    obtain ⟨-, hdigit, hpoint, hline⟩ := of_mem_cutMarks c hc
    refine ⟨fun hmem => ?_, fun hmem => hline (hending c hmem)⟩
    rcases hsize c hmem with h | h
    · exact hpoint h
    · rw [hdigit] at h
      cases h
  refine isSimple_of_not_mem (fun c hc hmem => ?_) fun hhead hmem => ?_
  · have hne : c ≠ '-' := fun h => absurd (h ▸ hc) (by decide)
    obtain ⟨hnotsize, hnotending⟩ := hmarks c (List.mem_cons_of_mem _ hc)
    cases negative <;> simp [Value.integerText, hne, hnotsize, hnotending] at hmem
  · obtain ⟨hnotsize, hnotending⟩ := hmarks '-' List.mem_cons_self
    cases negative with
    | false => simp [Value.integerText, hnotsize, hnotending] at hmem
    | true => exact hhead rfl

/-- A literal without quotes is not cut. -/
theorem isSimple_of_literal? (h : Value.literal? text ≠ .ok none)
    (hquoted : ∀ inner, Value.quotedLiteral? text ≠ some (some inner)) : IsSimple text := by
  by_cases hword : ∃ word ∈ Value.literalWords, text = word.toList
  · obtain ⟨word, hword, rfl⟩ := hword
    have hfree : ∀ c ∈ '-' :: cutMarks, c ∉ word.toList := fun c hc hmem =>
      Bool.false_ne_true ((of_mem_cutMarks c hc).1.symm.trans
        (Value.isWord_of_mem_literalWords hword c hmem))
    exact isSimple_of_not_mem (fun c hc => hfree c (List.mem_cons_of_mem _ hc))
      fun _ => hfree '-' List.mem_cons_self
  · rw [not_exists] at hword
    have hne : ∀ word ∈ Value.literalWords, text ≠ word.toList :=
      fun word hmem heq => hword word ⟨hmem, heq⟩
    rw [Value.literal?, if_neg (hne "true" (by decide)), if_neg (hne "false" (by decide)),
      if_neg (hne "null" (by decide))] at h
    cases hquote : Value.quotedLiteral? text with
    | some quoted =>
      rw [hquote] at h
      cases quoted with
      | some inner => exact absurd hquote (hquoted inner)
      | none => exact absurd rfl h
    | none =>
      rw [hquote] at h
      cases hnumber : Value.numberLiteral? text with
      | some number => exact isSimple_of_numberLiteral? hnumber
      | none =>
        rw [hnumber] at h
        exact absurd rfl h

/-! ## Texts on their own -/

/-- A text that is taken as it stands when it is evaluated on its own, whatever characters it has:
a text in quotes, or a name of the context. -/
def TakenWhole (context : Context) (text : List Char) : Prop :=
  (∃ inner, Value.quotedLiteral? text = some (some inner)) ∨
    (context.get? (String.ofList text)).isSome

theorem evaluateTrimmed_eq (h : TakenWhole context text → IsSimple text)
    (hdepth : 0 < limits.maxDepth) :
    evaluateTrimmed limits context text =
      evaluateWithin limits context limits.maxDepth.toNat text := by
  obtain ⟨left, hleft⟩ : ∃ left, limits.maxDepth.toNat = left + 1 :=
    ⟨limits.maxDepth.toNat - 1, by omega⟩
  by_cases hsimple : IsSimple text
  · have hvalue : evaluateWithin limits context limits.maxDepth.toNat text =
        simpleValue context text := by
      rw [hleft, hsimple.evaluateWithin_eq]
    rw [evaluateTrimmed, hvalue, simpleValue]
    cases Value.literal? text with
    | error e => rfl
    | ok literal =>
      cases literal with
      | some value => rfl
      | none =>
        rw [reference]
        cases context.get? (String.ofList text) <;> rfl
  · -- only a quoted text or a name is cut as an operand and taken whole on its own
    have htaken := mt h hsimple
    rw [TakenWhole, not_or, not_exists] at htaken
    have hliteral : Value.literal? text = .ok none := by
      by_contra hliteral
      exact hsimple (isSimple_of_literal? hliteral htaken.1)
    rw [evaluateTrimmed, hliteral, Option.not_isSome_iff_eq_none.1 htaken.2]
    rfl

/-! ## Conditions -/

/-- Whether a condition with this outcome is met. -/
def isMet : Outcome Value → Bool
  | .ok value => value.isTrue
  | .error _ => false

theorem holds_eq_isMet (limits : Limits) (context : Context) (expression : String) :
    holds limits context expression = isMet (evaluate limits context expression) := by
  rw [holds]
  cases evaluate limits context expression <;> rfl

theorem isMet_mapError (outcome : Outcome Value) (f : Error → Error) :
    isMet (outcome.mapError f) = isMet outcome := by
  cases outcome <;> rfl

/-- A conjunction is met if every operand is. -/
theorem isMet_join (limits : Limits) (context : Context) (left : Nat) (parts : List (List Char)) :
    isMet (Value.bool <$> Connective.conjunction.join (operandIsTrue limits context left) parts) =
      parts.all fun part => isMet (evaluateWithin limits context left (Text.trim part)) := by
  induction parts with
  | nil => rfl
  | cons part rest ih =>
    rw [Connective.join_cons, List.all_cons, ← ih, operandIsTrue]
    cases evaluateWithin limits context left (Text.trim part) with
    | error e => rfl
    | ok v =>
      have hv : isMet (.ok v) = v.isTrue := rfl
      rw [map_ok, ok_bind, hv]
      cases v.isTrue <;> rfl

/-- **A text without comparisons is met if all of its pieces between `&&` are**, on the level below
or on any other that leaves enough of them. -/
theorem isMet_evaluateWithin (hnone : findComparison? text = none) (htrim : Text.trim text = text)
    {left : Nat} (hleft : 2 ≤ left) :
    isMet (evaluateWithin limits context (left + 1) text) =
      (Text.pieces Connective.conjunction.symbol text).all fun part =>
        isMet (evaluateWithin limits context left (Text.trim part)) := by
  by_cases hand : Connective.conjunction.symbol <:+: text
  · have hcut : connective? text = some .conjunction :=
      connective?_eq_some_iff.2 ⟨hnone, hand, nofun⟩
    rw [evaluateWithin_succ, hcut]
    exact isMet_join limits context left _
  · have hrank : rank text ≤ 2 := by
      rw [rank]
      split
      · decide
      · decide
      · rename_i hcut
        exact absurd (connective?_eq_some_iff.1 hcut).2.1 hand
    have hstable : evaluateWithin limits context (left + 1) text =
        evaluateWithin limits context left text :=
      evaluateWithin_stable (by omega) (by omega)
    rw [Text.pieces_of_not_isInfix hand, List.all_cons, List.all_nil, Bool.and_true, htrim, hstable]

/-! ## Conjunctions -/

/-- What a condition is as an operand of a logical operator. -/
def operandHolds (limits : Limits) (context : Context) (expression : String) : Bool :=
  isMet (evaluateWithin limits context limits.maxDepth.toNat (Text.trim expression.toList))

variable {p q expression : String}

/-- A condition is the same on its own and as an operand, unless it is quoted or a name of the
context and has an operator in it. -/
theorem holds_eq_operandHolds (hdepth : 0 < limits.maxDepth)
    (hacceptable : ¬ Unacceptable limits expression)
    (hwhole : TakenWhole context (Text.trim expression.toList) →
      IsSimple (Text.trim expression.toList)) :
    holds limits context expression = operandHolds limits context expression := by
  rw [holds_eq_isMet, evaluate_of_acceptable hacceptable, isMet_mapError,
    evaluateTrimmed_eq hwhole hdepth, operandHolds]

theorem isBlank_of_mem_and : ∀ c ∈ ['&', '&'], Text.isBlank c = false := by
  intro c hc
  obtain rfl | rfl := List.mem_pair.1 hc <;> rfl

/-- The pieces of a condition between `&&` decide it as an operand. -/
theorem operandHolds_eq_all (hdepth : 3 ≤ limits.maxDepth)
    (hnone : findComparison? (Text.trim expression.toList) = none) :
    operandHolds limits context expression =
      ((Text.pieces ['&', '&'] expression.toList).map Text.trim).all fun part =>
        isMet (evaluateWithin limits context (limits.maxDepth.toNat - 1) part) := by
  obtain ⟨left, hleft⟩ : ∃ left, limits.maxDepth.toNat = left + 1 :=
    ⟨limits.maxDepth.toNat - 1, by omega⟩
  rw [operandHolds, hleft, isMet_evaluateWithin hnone (Text.trim_trim _) (by omega),
    ← Text.trim_pieces_trim (List.cons_ne_nil _ _) isBlank_of_mem_and, List.all_map]
  rfl

theorem findComparison?_eq_none_iff :
    findComparison? text = none ↔ ∀ op : Comparison, ¬ op.symbol <:+: text := by
  have hall : ∀ op : Comparison, op ∈ Comparison.all := fun op => by cases op <;> decide
  rw [findComparison?, List.findSome?_eq_none_iff]
  simp [hall, Text.cut?_eq_none_iff]

/-- The text of a conjunction. -/
theorem toList_and (p q : String) :
    (p ++ " && " ++ q).toList = p.toList ++ Text.spaced ['&', '&'] ++ q.toList := by
  rw [String.toList_append, String.toList_append]
  rfl

/-- No comparison comes about where two texts are put together. -/
theorem findComparison?_and (hp : findComparison? p.toList = none)
    (hq : findComparison? q.toList = none) : findComparison? (p ++ " && " ++ q).toList = none := by
  rw [findComparison?_eq_none_iff] at hp hq ⊢
  intro op
  have hblank : ' ' ∉ op.symbol := by cases op <;> decide
  have hand : '&' ∉ op.symbol := by cases op <;> decide
  have htext : (p ++ " && " ++ q).toList =
      p.toList ++ ' ' :: '&' :: '&' :: ' ' :: q.toList := by
    simp
  rw [htext, Text.isInfix_append_cons_iff hblank, Text.isInfix_cons_iff hand,
    Text.isInfix_cons_iff hand, Text.isInfix_cons_iff hblank]
  exact not_or.2 ⟨hp op, hq op⟩

/-- A conjunction is met as an operand if both sides are. -/
theorem operandHolds_and (hdepth : 3 ≤ limits.maxDepth) (hp : findComparison? p.toList = none)
    (hq : findComparison? q.toList = none) :
    operandHolds limits context (p ++ " && " ++ q) =
      (operandHolds limits context p && operandHolds limits context q) := by
  have htrim : ∀ {s : String}, findComparison? s.toList = none →
      findComparison? (Text.trim s.toList) = none :=
    findComparison?_eq_none_of_isInfix (Text.trim_isInfix _)
  have hpieces : (Text.pieces ['&', '&']
      (p.toList ++ Text.spaced ['&', '&'] ++ q.toList)).map Text.trim =
        (Text.pieces ['&', '&'] p.toList).map Text.trim ++
          (Text.pieces ['&', '&'] q.toList).map Text.trim :=
    Text.trim_pieces_spaced (List.cons_ne_nil _ _) isBlank_of_mem_and p.toList q.toList
  rw [operandHolds_eq_all hdepth (htrim (findComparison?_and hp hq)),
    operandHolds_eq_all hdepth (htrim hp), operandHolds_eq_all hdepth (htrim hq), toList_and,
    hpieces, List.all_append]

/-- **Conjunction is compositional.**  Two conditions without comparisons, joined by `&&`, hold if
each of them does on its own; provided that an operand that is quoted, or a name of the context, has
no operator in it. -/
theorem holds_and (limits : Limits) (context : Context) (p q : String)
    (hp : Text.allBlank p = false) (hq : Text.allBlank q = false)
    (hfree : ∀ op : Comparison, ¬ op.symbol <:+: p.toList ∧ ¬ op.symbol <:+: q.toList)
    (hlength : ((p ++ " && " ++ q).toList.length : Int) ≤ limits.maxLength)
    (hkey : context.get? (Text.trimmed (p ++ " && " ++ q)) = none)
    (hliteral : Value.literal? (Text.trim (p ++ " && " ++ q).toList) = .ok none)
    (hdepth : 3 ≤ limits.maxDepth)
    (hwhole : ∀ operand ∈ [p, q], TakenWhole context (Text.trim operand.toList) →
      IsSimple (Text.trim operand.toList)) :
    holds limits context (p ++ " && " ++ q) =
      (holds limits context p && holds limits context q) := by
  have hpnone := findComparison?_eq_none_iff.2 fun op => (hfree op).1
  have hqnone := findComparison?_eq_none_iff.2 fun op => (hfree op).2
  have hsides : p.toList.length ≤ (p ++ " && " ++ q).toList.length ∧
      q.toList.length ≤ (p ++ " && " ++ q).toList.length := by
    simp only [toList_and, List.length_append]
    omega
  have hacceptable : ∀ {s : String}, Text.allBlank s = false →
      s.toList.length ≤ (p ++ " && " ++ q).toList.length → ¬ Unacceptable limits s := by
    intro s hblank hle
    rw [Unacceptable, hblank, not_or]
    exact ⟨Bool.false_ne_true, by omega⟩
  have hblank : Text.allBlank (p ++ " && " ++ q) = false := by
    simp [Text.allBlank, show Text.isBlank '&' = false from rfl]
  -- as a whole the text is neither quoted nor a name, so it is evaluated as an operand would be
  have hwholeText : ¬ TakenWhole context (Text.trim (p ++ " && " ++ q).toList) := by
    rintro (⟨inner, hinner⟩ | hname)
    · rw [Value.literal?, hinner] at hliteral
      split_ifs at hliteral <;> cases hliteral
    · rw [← Text.trimmed, hkey] at hname
      cases hname
  rw [holds_eq_operandHolds (by omega) (hacceptable hblank (Nat.le_refl _)) fun h =>
      absurd h hwholeText, operandHolds_and hdepth hpnone hqnone,
    holds_eq_operandHolds (by omega) (hacceptable hp hsides.1) (hwhole p (by simp)),
    holds_eq_operandHolds (by omega) (hacceptable hq hsides.2) (hwhole q (by simp))]

/-- A context in which something is ready. -/
def readyContext : Context := [("ready", .bool true)]

/-- A text in quotes, and a disjunction. -/
theorem holds_and_quoted :
    holds {} readyContext "'low risk' && 0 || ready" =
        (holds {} readyContext "'low risk'" && holds {} readyContext "0 || ready") ∧
      holds {} readyContext "'low risk'" = true ∧
      holds {} readyContext "0 || ready" = true := by
  have hsimple : ∀ operand ∈ ["'low risk'", "0 || ready"],
      TakenWhole readyContext (Text.trim operand.toList) →
        IsSimple (Text.trim operand.toList) := by
    intro operand hoperand hwhole
    rcases List.mem_pair.1 hoperand with rfl | rfl
    · have hmarks : (cutMarks.all fun c => !(Text.trim "'low risk'".toList).contains c) = true := by
        decide
      refine isSimple_of_not_mem (fun c hc hmem => ?_) (by decide)
      have hfree := List.all_eq_true.1 hmarks c hc
      rw [List.contains_iff_mem.2 hmem] at hfree
      cases hfree
    · rcases hwhole with ⟨inner, hinner⟩ | hname
      · cases hinner
      · cases hname
  have hlaw := holds_and {} readyContext "'low risk'" "0 || ready" (by decide +kernel)
    (by decide +kernel) (by rintro (_ | _) <;> decide +kernel) (by decide +kernel)
    (by decide +kernel) rfl (by decide) hsimple
  exact ⟨hlaw, by decide +kernel, by decide +kernel⟩

/-- The text `'low-risk'` is true on its own; as an operand it is a difference of two texts that are
no numbers. -/
theorem holds_and_hyphenated :
    Text.allBlank "'low-risk'" = false ∧ Text.allBlank "ready" = false ∧
      (∀ op : Comparison, ¬ op.symbol <:+: "'low-risk'".toList ∧
        ¬ op.symbol <:+: "ready".toList) ∧
      ("'low-risk' && ready".toList.length : Int) ≤ ({} : Limits).maxLength ∧
      readyContext.get? (Text.trimmed "'low-risk' && ready") = none ∧
      Value.literal? (Text.trim "'low-risk' && ready".toList) = .ok none ∧
      3 ≤ ({} : Limits).maxDepth ∧
      holds {} readyContext "'low-risk'" = true ∧
      holds {} readyContext "ready" = true ∧
      holds {} readyContext "'low-risk' && ready" = false := by
  refine ⟨by decide +kernel, by decide +kernel, by rintro (_ | _) <;> decide +kernel,
    by decide +kernel, by decide +kernel, rfl, by decide, by decide +kernel, by decide +kernel,
    by decide +kernel⟩

end Expression
end RecordRules
