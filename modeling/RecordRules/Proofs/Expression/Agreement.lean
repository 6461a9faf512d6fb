import RecordRules.Proofs.Expression.Formula
import RecordRules.Proofs.Expression.Literals
import RecordRules.Proofs.Outcome
import Mathlib.Data.List.TakeDrop

/-!
# Formulas mean what they say

Evaluating the text of a formula gives the value of the formula, although evaluation has no grammar
and only cuts text at operators:

* `simpleValue_atom` and `evaluateTerm_text` are the first two levels;
* `evaluateWithin_term`, `evaluateWithin_clause` and `evaluateWithin_formula` need one, two and
  three levels of logical operators;
* `evaluate_formula` is the whole.
-/

set_option autoImplicit false

namespace RecordRules
namespace Expression

variable {limits : Limits} {context : Context} {operation : Arithmetic} {source : List Char}

/-! ## Atoms -/

theorem walk?_eq_foldlM (path : List (List Char)) (value : Value) :
    walk? value path = path.foldlM field? value := by
  induction path generalizing value with
  | nil => simp [walk?]
  | cons segment path ih =>
    cases value with
    | map entries =>
      simp only [walk?, List.foldlM_cons, field?]
      cases Fields.get? entries (String.ofList segment) with
      | none => rfl
      | some next => exact ih next
    | _ => simp [walk?, field?]

/-- A path is followed from the context as from any other map. -/
theorem pathValue?_eq_foldlM {text : List Char} (h : context.get? (String.ofList text) = none) :
    pathValue? context text = (text.splitOn '.').foldlM field? (.map context) := by
  rw [pathValue?, Text.pieces_singleton]
  match hsplit : text.splitOn '.' with
  | [] => exact absurd hsplit (List.splitOnP_ne_nil _ _)
  | [only] =>
    have hwhole : ['.'].intercalate (text.splitOn '.') = text := List.intercalate_splitOn '.'
    have honly : only = text := by simpa [hsplit] using hwhole
    simp [field?, honly, h]
  | head :: segment :: path =>
    rw [List.foldlM_cons]
    dsimp only [field?]
    cases context.get? (String.ofList head) with
    | none => rfl
    | some value => exact walk?_eq_foldlM (segment :: path) value

theorem reference_atom (a : Atom) : reference context a.chars = a.referent context := by
  unfold reference Atom.referent
  cases h : context.get? (String.ofList a.chars) with
  | some value => simp [h]
  | none => simp [h, pathValue?_eq_foldlM h]

theorem simpleValue_atom (a : Atom) : simpleValue context a.chars = a.value context := by
  unfold simpleValue Atom.value
  cases Value.literal? a.chars with
  | error e => rfl
  | ok literal =>
    cases literal with
    | none => simp [ofValueError, reference_atom]
    | some value => rfl

/-! ## Terms -/

theorem operand_atom {text : List Char} {a : Atom} (h : Text.trim text = a.chars) :
    operand context operation source text = a.number context operation source := by
  rw [operand, Atom.number, h, simpleValue_atom]
  refine congrArg _ (funext fun value => ?_)
  rcases value.toNumber with e | _ | x <;> rfl

theorem foldOperands_cons {combine : Float → Float → Float} {start : Float} {part : List Char}
    {parts : List (List Char)} :
    foldOperands context operation source combine start (part :: parts) = (do
      let x ← operand context operation source part
      foldOperands context operation source combine (combine start x) parts) := by
  rw [foldOperands, List.foldlM_cons]
  cases operand context operation source part <;> rfl

/-- Operands that are atoms up to blanks are combined as the numbers of the atoms. -/
theorem foldOperands_atoms {combine : Float → Float → Float} {parts : List (List Char)}
    {atoms : List Atom} (h : parts.map Text.trim = atoms.map Atom.chars) (start : Float) :
    foldOperands context operation source combine start parts =
      (fun xs => xs.foldl combine start) <$>
        atoms.mapM (Atom.number context operation source) := by
  induction atoms generalizing parts start with
  | nil =>
    obtain rfl : parts = [] := by simpa using h
    rfl
  | cons a atoms ih =>
    obtain ⟨part, parts, rfl, hpart, hparts⟩ := List.map_eq_cons_iff.1 h
    rw [foldOperands_cons, operand_atom hpart, List.mapM_cons]
    cases a.number context operation source with
    | error e => rfl
    | ok x =>
      simp only [ok_bind, pure_eq_ok, ih hparts]
      cases atoms.mapM (Atom.number context operation source) <;> rfl

theorem trim_pieces_atoms {s : Char} (hs : s ∈ marks) (first : Atom) (rest : List Atom) :
    (Text.pieces [s] (Text.joined [s] ((first :: rest).map Atom.chars))).map Text.trim
      = (first :: rest).map Atom.chars :=
  Text.trim_pieces_joined (ne_blank_of_mem_marks hs) (by simp [Atom.isTight, Atom.not_mem _ hs])

/-- The other signs do not stand in atoms joined by one. -/
theorem cut?_atoms_eq_none {c s : Char} (hc : c ∈ marks) (hne : c ≠ s) (atoms : List Atom) :
    Text.cut? [c] (Text.joined [s] (atoms.map Atom.chars)) = none :=
  Text.cut?_eq_none_of_not_mem (List.mem_singleton_self c)
    (Text.not_mem_joined (ne_blank_of_mem_marks hc) (by simpa using hne)
      (by simp [Atom.not_mem _ hc]))

theorem occurs_atoms_eq_false {c s : Char} (hc : c ∈ marks) (hne : c ≠ s) (atoms : List Atom) :
    Text.occurs [c] (Text.joined [s] (atoms.map Atom.chars)) = false := by
  rw [Text.occurs, cut?_atoms_eq_none hc hne]; rfl

theorem cut?_atoms {s : Char} (hs : s ∈ marks) (left right : Atom) :
    Text.cut? [s] (Text.joined [s] ([left, right].map Atom.chars))
      = some (left.chars ++ [' '], ' ' :: right.chars) := by
  rw [List.map_cons, List.map_cons, List.map_nil,
    Text.cut?_joined (ne_blank_of_mem_marks hs) (left.not_mem hs), Text.joined_singleton]

theorem occurs_atoms {s : Char} (hs : s ∈ marks) (first second : Atom) (rest : List Atom) :
    Text.occurs [s] (Text.joined [s] ((first :: second :: rest).map Atom.chars)) = true :=
  Text.occurs_joined (ne_blank_of_mem_marks hs) (first.not_mem hs)

theorem difference_atoms (left right : Atom) :
    difference context source (left.chars ++ [' ']) (' ' :: right.chars) = (do
      let x ← left.number context .subtract source
      let y ← right.number context .subtract source
      return x - y) := by
  rw [difference, operand_atom (Text.trim_append_blank left.isTight),
    operand_atom (Text.trim_cons_blank right.isTight)]

theorem quotient_atoms (left right : Atom) :
    quotient context source (left.chars ++ [' ']) (' ' :: right.chars) = (do
      let x ← left.number context .divide source
      let y ← right.number context .divide source
      if y == 0.0 then .error ⟨.zeroDivisor, some source⟩ else return x / y) := by
  rw [quotient, operand_atom (Text.trim_append_blank left.isTight),
    operand_atom (Text.trim_cons_blank right.isTight)]

/-- A text without a sign and without a call is a simple value. -/
theorem evaluateTerm_of_not_mem {text : List Char} (hplus : '+' ∉ text) (hminus : '-' ∉ text)
    (htimes : '*' ∉ text) (hslash : '/' ∉ text) (hcall : '(' ∉ text) :
    evaluateTerm context text = simpleValue context text := by
  unfold evaluateTerm
  rw [Text.occurs_eq_false_of_not_mem (by simp) hplus,
    Text.cut?_eq_none_of_not_mem (by simp) hminus,
    Text.occurs_eq_false_of_not_mem (by simp) htimes,
    Text.cut?_eq_none_of_not_mem (by simp) hslash]
  simp [sumArgument?, Text.cut?_eq_none_of_not_mem (List.mem_singleton_self _) hcall]

/-- A text of atoms does not start with a minus. -/
theorem head?_joined_atoms {s : Char} (first second : Atom) (rest : List Atom) :
    (Text.joined [s] ((first :: second :: rest).map Atom.chars)).head? ≠ some '-' := by
  obtain ⟨c, cs, hchars⟩ := List.exists_cons_of_ne_nil first.nonempty
  have : '-' ≠ c := fun h =>
    first.not_mem (c := '-') (by decide) (by rw [hchars, h]; exact List.mem_cons_self)
  simp [Text.joined_cons_cons, hchars, this.symm]

/-- **A term is evaluated to its value.** -/
theorem evaluateTerm_text (t : Term) : evaluateTerm context t.text = t.value context := by
  cases t with
  | atom a =>
    rw [Term.text, evaluateTerm_of_not_mem (a.not_mem (by decide)) (a.not_mem (by decide))
      (a.not_mem (by decide)) (a.not_mem (by decide)) (a.not_mem (by decide)), simpleValue_atom,
      Term.value]
  | sum first second rest =>
    rw [evaluateTerm, Term.value, Term.text, if_pos (occurs_atoms (by decide) ..),
      foldOperands_atoms (trim_pieces_atoms (by decide) first (second :: rest))]
    cases (first :: second :: rest).mapM (Atom.number context .add _) <;> rfl
  | difference left right =>
    rw [evaluateTerm, Term.value, Term.text, occurs_atoms_eq_false (by decide) (by decide),
      if_neg (head?_joined_atoms left right []), cut?_atoms (by decide)]
    simp [difference_atoms]
  | product first second rest =>
    rw [evaluateTerm, Term.value, Term.text, occurs_atoms_eq_false (by decide) (by decide),
      cut?_atoms_eq_none (by decide) (by decide), ite_self, occurs_atoms (by decide),
      foldOperands_atoms (trim_pieces_atoms (by decide) first (second :: rest))]
    cases (first :: second :: rest).mapM (Atom.number context .multiply _) <;> rfl
  | quotient left right =>
    rw [evaluateTerm, Term.value, Term.text, occurs_atoms_eq_false (by decide) (by decide),
      cut?_atoms_eq_none (by decide) (by decide), ite_self,
      occurs_atoms_eq_false (by decide) (by decide), cut?_atoms (by decide)]
    simp [quotient_atoms, apply_ite]

/-! ## Clauses and conjunctions -/

theorem findComparison?_eq_none {text : List Char} (hequal : '=' ∉ text) (hless : '<' ∉ text)
    (hgreater : '>' ∉ text) : findComparison? text = none := by
  refine List.findSome?_eq_none_iff.2 fun op _ => ?_
  rw [Option.map_eq_none_iff]
  cases op with
  | less => exact Text.cut?_eq_none_of_not_mem (c := '<') (by decide) hless
  | greater => exact Text.cut?_eq_none_of_not_mem (c := '>') (by decide) hgreater
  | equal => exact Text.cut?_eq_none_of_not_mem (c := '=') (by decide) hequal
  | unequal => exact Text.cut?_eq_none_of_not_mem (c := '=') (by decide) hequal
  | atMost => exact Text.cut?_eq_none_of_not_mem (c := '=') (by decide) hequal
  | atLeast => exact Text.cut?_eq_none_of_not_mem (c := '=') (by decide) hequal

theorem anyTrue_trim (evaluated : List Char → Outcome Value) (pieces : List (List Char)) :
    anyTrue (fun part => Value.isTrue <$> evaluated (Text.trim part)) pieces
      = someTrue ((pieces.map Text.trim).map evaluated) := by
  induction pieces with
  | nil => rfl
  | cons piece pieces ih =>
    rw [anyTrue, ih, List.map_cons, List.map_cons]
    cases evaluated (Text.trim piece) <;> rfl

theorem allTrue_trim (evaluated : List Char → Outcome Value) (pieces : List (List Char)) :
    allTrue (fun part => Value.isTrue <$> evaluated (Text.trim part)) pieces
      = everyTrue ((pieces.map Text.trim).map evaluated) := by
  induction pieces with
  | nil => rfl
  | cons piece pieces ih =>
    rw [allTrue, ih, List.map_cons, List.map_cons]
    cases evaluated (Text.trim piece) <;> rfl

/-- A term is evaluated at any depth. -/
theorem evaluateWithin_term (depth : Nat) (t : Term) :
    evaluateWithin limits context (depth + 1) t.text = t.value context := by
  rw [evaluateWithin, findComparison?_eq_none (t.not_mem (by decide) (by decide))
    (t.not_mem (by decide) (by decide)) (t.not_mem (by decide) (by decide)),
    Text.occurs_eq_false_of_not_mem (c := '&') (by simp) (t.not_mem (by decide) (by decide)),
    Text.occurs_eq_false_of_not_mem (c := '|') (by simp) (t.not_mem (by decide) (by decide))]
  exact evaluateTerm_text t

/-- **A clause is evaluated to its value**, its terms one level below it. -/
theorem evaluateWithin_clause (depth : Nat) (c : Clause) :
    evaluateWithin limits context (depth + 2) c.text = c.value context := by
  obtain ⟨first, _ | ⟨second, rest⟩⟩ := c
  · have honly : Clause.text ⟨first, []⟩ = first.text := Text.joined_singleton
    rw [honly, evaluateWithin_term, Clause.value]
  · have hfree : ∀ t : Term, '|' ∉ t.text := Term.not_mem (by decide) (by decide)
    have hpieces : (Text.pieces ['|', '|'] (Clause.text ⟨first, second :: rest⟩)).map Text.trim
        = (first :: second :: rest).map Term.text :=
      Text.trim_pieces_joined (by decide) (by simp [Term.isTight, hfree])
    have hvalues : evaluateWithin limits context (depth + 1) ∘ Term.text = Term.value context :=
      funext (evaluateWithin_term depth)
    have hoccurs : Text.occurs ['|', '|'] (Clause.text ⟨first, second :: rest⟩) = true :=
      Text.occurs_joined (by decide) (hfree first)
    rw [evaluateWithin, findComparison?_eq_none (Clause.not_mem (by decide) (by decide) _)
      (Clause.not_mem (by decide) (by decide) _) (Clause.not_mem (by decide) (by decide) _)]
    dsimp only
    rw [Text.occurs_eq_false_of_not_mem (c := '&') (by simp)
        (Clause.not_mem (by decide) (by decide) _), if_neg (by simp), if_pos hoccurs,
      anyTrue_trim (evaluateWithin limits context (depth + 1)), hpieces, List.map_map,
      hvalues, Clause.value]

/-- **A conjunction is evaluated to its value**, its terms two levels below it. -/
theorem evaluateWithin_conjunction (depth : Nat) (first : Clause) (rest : List Clause) :
    evaluateWithin limits context (depth + 3) (Formula.conjunction first rest).text
      = (Formula.conjunction first rest).value context := by
  obtain _ | ⟨second, rest⟩ := rest
  · have honly : (Formula.conjunction first []).text = first.text := Text.joined_singleton
    rw [honly, evaluateWithin_clause, Formula.value]
  · have hfree : ∀ c : Clause, '&' ∉ c.text := Clause.not_mem (by decide) (by decide)
    have hpieces : (Text.pieces ['&', '&'] (Formula.conjunction first (second :: rest)).text).map
        Text.trim = (first :: second :: rest).map Clause.text :=
      Text.trim_pieces_joined (by decide) (by simp [Clause.isTight, hfree])
    have hvalues : evaluateWithin limits context (depth + 2) ∘ Clause.text = Clause.value context :=
      funext (evaluateWithin_clause depth)
    have hoccurs :
        Text.occurs ['&', '&'] (Formula.conjunction first (second :: rest)).text = true :=
      Text.occurs_joined (by decide) (hfree first)
    rw [evaluateWithin, findComparison?_eq_none
      (Formula.not_mem_conjunction (c := '=') (by decide) (by decide) first (second :: rest))
      (Formula.not_mem_conjunction (c := '<') (by decide) (by decide) first (second :: rest))
      (Formula.not_mem_conjunction (c := '>') (by decide) (by decide) first (second :: rest))]
    dsimp only
    rw [if_pos hoccurs,
      allTrue_trim (evaluateWithin limits context (depth + 2)), hpieces, List.map_map,
      hvalues, Formula.value]
    exact fun h => nomatch h

/-! ## Comparisons -/

/-- An operator that is looked for earlier has a character that this one lacks or has less often. -/
theorem Comparison.all_eq_append (op : Comparison) :
    ∃ before after, Comparison.all = before ++ op :: after ∧
      ∀ other ∈ before, ∃ c ∈ marks, op.symbol.count c < other.symbol.count c := by
  have hmark : ∀ before : List Comparison,
      (before.all fun other => marks.any fun c =>
        op.symbol.count c < other.symbol.count c) = true →
      ∀ other ∈ before, ∃ c ∈ marks, op.symbol.count c < other.symbol.count c :=
    fun before h => by simpa using h
  cases op with
  | equal => exact ⟨[], _, rfl, hmark _ rfl⟩
  | unequal => exact ⟨[.equal], _, rfl, hmark _ (by decide)⟩
  | atMost => exact ⟨[.equal, .unequal], _, rfl, hmark _ (by decide)⟩
  | atLeast => exact ⟨[.equal, .unequal, .atMost], _, rfl, hmark _ (by decide)⟩
  | less => exact ⟨[.equal, .unequal, .atMost, .atLeast], _, rfl, hmark _ (by decide)⟩
  | greater => exact ⟨[.equal, .unequal, .atMost, .atLeast, .less], _, rfl, hmark _ (by decide)⟩

theorem Comparison.symbol_eq_cons (op : Comparison) : ∃ s ∈ marks, ∃ sep, op.symbol = s :: sep := by
  cases op <;> exact ⟨_, by decide, _, rfl⟩

/-- The characters of comparison operators. -/
def comparisonMarks : List Char := ['=', '!', '<', '>']

theorem Comparison.mem_comparisonMarks {op : Comparison} {c : Char} (h : c ∈ op.symbol) :
    c ∈ comparisonMarks := by
  have hsubset : op.symbol ⊆ comparisonMarks := by cases op <;> decide
  exact hsubset h

/-- A comparison is found between sides without such characters. -/
theorem findComparison?_append (op : Comparison) {left right : List Char}
    (hleft : ∀ c ∈ comparisonMarks, c ∉ left) (hright : ∀ c ∈ comparisonMarks, c ∉ right) :
    findComparison? (left ++ (op.symbol ++ right)) = some (op, left, right) := by
  obtain ⟨before, after, hall, hbefore⟩ := op.all_eq_append
  obtain ⟨s, -, sep, hsymbol⟩ := op.symbol_eq_cons
  refine List.findSome?_eq_some_iff.2 ⟨before, op, after, hall, ?_, fun other hother => ?_⟩
  · have hs : s ∈ comparisonMarks := op.mem_comparisonMarks (hsymbol ▸ List.mem_cons_self)
    rw [hsymbol, Text.cut?_append (hleft s hs), Option.map_some]
  · obtain ⟨c, -, hcount⟩ := hbefore other hother
    have hc : c ∈ comparisonMarks :=
      other.mem_comparisonMarks (List.count_pos_iff.1 (Nat.zero_lt_of_lt hcount))
    rw [Option.map_eq_none_iff]
    refine Text.cut?_eq_none_of_count_lt c ?_
    rwa [List.count_append, List.count_append, List.count_eq_zero.2 (hleft c hc),
      List.count_eq_zero.2 (hright c hc), Nat.zero_add, Nat.add_zero]

/-- A comparison is found where it was written. -/
theorem findComparison?_text (op : Comparison) (left right : Atom) :
    findComparison? (Formula.comparison op left right).text
      = some (op, left.chars ++ [' '], ' ' :: right.chars) := by
  have hfree : ∀ (a : Atom), ∀ c ∈ comparisonMarks, c ≠ ' ' ∧ c ∉ a.chars := fun a c hc =>
    ⟨by rintro rfl; exact absurd hc (by decide),
      a.not_mem ((by decide : comparisonMarks ⊆ marks) hc)⟩
  rw [Formula.text, Text.joined_cons_cons, Text.joined_singleton]
  exact findComparison?_append op (fun c hc => by simp [hfree left c hc])
    fun c hc => by simp [hfree right c hc]

theorem evaluateWithin_comparison (depth : Nat) (op : Comparison) (left right : Atom) :
    evaluateWithin limits context (depth + 1) (Formula.comparison op left right).text
      = (Formula.comparison op left right).value context := by
  rw [evaluateWithin, findComparison?_text]
  simp only [Text.trim_append_blank left.isTight, Text.trim_cons_blank right.isTight,
    simpleValue_atom, Formula.value]
  refine congrArg _ (funext fun x => congrArg _ (funext fun y => ?_))
  cases op.decide x y <;> rfl

/-- **A formula is evaluated to its value**, with three levels of logical operators. -/
theorem evaluateWithin_formula (depth : Nat) (f : Formula) :
    evaluateWithin limits context (depth + 3) f.text = f.value context := by
  cases f with
  | conjunction first rest => exact evaluateWithin_conjunction depth first rest
  | comparison op left right => exact evaluateWithin_comparison (depth + 2) op left right

/-! ## Whole expressions -/

/-- A text with a blank in it is a literal only if it is quoted. -/
theorem literal?_of_blank_mem {text : List Char} (hblank : ' ' ∈ text) (hsingle : '\'' ∉ text)
    (hdouble : '"' ∉ text) : Value.literal? text = .ok none := by
  have hword : ∀ word ∈ Value.literalWords, text ≠ word.toList := by
    have hfree : (Value.literalWords.all fun word => !word.toList.contains ' ') = true := by decide
    rintro word hword rfl
    exact absurd hblank (by simpa using List.all_eq_true.1 hfree word hword)
  have hquotes : ∀ q ∈ Value.quotes, text.head? ≠ some q := by
    intro q hq hhead
    simp only [Value.quotes, List.mem_cons, List.not_mem_nil, or_false] at hq
    rcases hq with rfl | rfl
    · exact hsingle (List.mem_of_mem_head? hhead)
    · exact hdouble (List.mem_of_mem_head? hhead)
  rw [Value.literal?_eq_number hword hquotes,
    Value.numberLiteral?_eq_none_of_mem hblank (by decide) (by decide), Option.elim_none]

/-- A formula is an atom, or there are blanks in it. -/
theorem Formula.eq_atom_or_blank_mem (f : Formula) :
    (∃ a, f = .conjunction ⟨.atom a, []⟩ []) ∨ ' ' ∈ f.text := by
  match f with
  | .comparison op left right => exact .inr Text.blank_mem_joined
  | .conjunction first (second :: rest) => exact .inr Text.blank_mem_joined
  | .conjunction ⟨first, second :: rest⟩ [] =>
    refine .inr ?_
    rw [Formula.text, List.map_cons, List.map_nil, Text.joined_singleton]
    exact Text.blank_mem_joined
  | .conjunction ⟨only, []⟩ [] =>
    have honly : (Formula.conjunction ⟨only, []⟩ []).text = only.text := by
      simp [Formula.text, Clause.text]
    rw [honly]
    cases only with
    | atom a => exact .inl ⟨a, rfl⟩
    | sum first second rest => exact .inr Text.blank_mem_joined
    | difference left right => exact .inr Text.blank_mem_joined
    | product first second rest => exact .inr Text.blank_mem_joined
    | quotient left right => exact .inr Text.blank_mem_joined

theorem Formula.quote_not_mem {c : Char} (hc : c ∈ ['\'', '"']) (f : Formula) : c ∉ f.text := by
  have hquote : c = '\'' ∨ c = '"' := by simpa using hc
  have hmark : c ∈ marks := by rcases hquote with rfl | rfl <;> decide
  cases f with
  | conjunction first rest =>
    have hsigns : c ∉ '&' :: '|' :: signs := by rcases hquote with rfl | rfl <;> decide
    exact Formula.not_mem_conjunction hmark hsigns first rest
  | comparison op left right =>
    refine Text.not_mem_joined (ne_blank_of_mem_marks hmark) ?_ (by simp [Atom.not_mem _ hmark])
    cases op <;> rcases hquote with rfl | rfl <;> decide

/-- A formula that is not itself a name of the context is evaluated to its value. -/
theorem evaluateTrimmed_formula (f : Formula) (hkey : context.get? (String.ofList f.text) = none)
    (hdepth : 3 ≤ limits.maxDepth) : evaluateTrimmed limits context f.text = f.value context := by
  obtain ⟨depth, hlevels⟩ : ∃ depth, limits.maxDepth.toNat = depth + 3 :=
    ⟨limits.maxDepth.toNat - 3, by omega⟩
  have hvalue : evaluateWithin limits context (depth + 3) f.text = f.value context :=
    evaluateWithin_formula depth f
  obtain ⟨a, rfl⟩ | hblank := f.eq_atom_or_blank_mem
  · -- a literal is taken before anything is looked up, and it is the value of the atom
    have htext : (Formula.conjunction ⟨.atom a, []⟩ []).text = a.chars := by
      simp [Formula.text, Clause.text, Term.text]
    have hatom : (Formula.conjunction ⟨.atom a, []⟩ []).value context = a.value context := rfl
    rw [htext] at hkey hvalue ⊢
    rw [hatom] at hvalue ⊢
    unfold evaluateTrimmed
    cases hliteral : Value.literal? a.chars with
    | error e => simp [ofValueError, Atom.value, hliteral]
    | ok literal =>
      cases literal with
      | some value => simp [ofValueError, Atom.value, hliteral]
      | none => simp [ofValueError, hkey, hlevels, hvalue]
  · have hnone := literal?_of_blank_mem hblank (f.quote_not_mem (by simp))
      (f.quote_not_mem (by simp))
    simp [evaluateTrimmed, hnone, ofValueError, hkey, hlevels, hvalue]

/-- A text without blanks around it is evaluated as it stands, unless it is too long. -/
theorem evaluate_of_isTight {text : List Char} (h : Text.IsTight text)
    (hlength : (text.length : Int) ≤ limits.maxLength) :
    evaluate limits context (String.ofList text) =
      (evaluateTrimmed limits context text).mapError (Error.within text) := by
  have hnonempty : text ≠ [] := by
    obtain ⟨c, hhead, -⟩ := h.head
    exact List.ne_nil_of_mem (List.mem_of_head? hhead)
  rw [evaluate, String.toList_ofList, h.trim_eq, if_neg hnonempty, if_neg (Int.not_lt.2 hlength)]

/-- **Evaluation implements the meaning of formulas.**  The text of a formula that is not itself a
name of the context evaluates to the value of the formula, or fails as the formula does; an error
about a value names the whole text. -/
theorem evaluate_formula (f : Formula) (hkey : context.get? (String.ofList f.text) = none)
    (hlength : (f.text.length : Int) ≤ limits.maxLength) (hdepth : 3 ≤ limits.maxDepth) :
    evaluate limits context (String.ofList f.text)
      = (f.value context).mapError (Error.within f.text) := by
  have hsome : f.text ≠ [] := by
    obtain ⟨c, hhead, -⟩ := f.isTight.head
    exact fun h => by simp [h] at hhead
  rw [evaluate]
  simp only [String.toList_ofList, f.isTight.trim_eq]
  rw [if_neg hsome, if_neg (Int.not_lt.2 hlength), evaluateTrimmed_formula f hkey hdepth]

/-- The formula `order.qty * 2 || x / 0 && ready`. -/
def orderedAndReady : Formula :=
  .conjunction
    ⟨.product (.ofText "order.qty" (by decide) (by decide))
        (.ofText "2" (by decide) (by decide)) [],
      [.quotient (.ofText "x" (by decide) (by decide)) (.ofText "0" (by decide) (by decide))]⟩
    [⟨.atom (.ofText "ready" (by decide) (by decide)), []⟩]

/-- A context in which something is ordered and ready. -/
def orderContext : Context := [("order", .map [("qty", .int 3)]), ("ready", .bool true)]

/-- The product is true, so the division is not reached. -/
theorem evaluate_formula_order :
    orderContext.get? (String.ofList orderedAndReady.text) = none ∧
      (orderedAndReady.text.length : Int) ≤ ({} : Limits).maxLength ∧
      3 ≤ ({} : Limits).maxDepth ∧
      evaluate {} orderContext "order.qty * 2 || x / 0 && ready" = .ok (.bool true) := by
  have hkey : orderContext.get? (String.ofList orderedAndReady.text) = none := by decide
  have hlength : (orderedAndReady.text.length : Int) ≤ ({} : Limits).maxLength := by decide
  have hdepth : 3 ≤ ({} : Limits).maxDepth := by decide
  have htext : String.ofList orderedAndReady.text = "order.qty * 2 || x / 0 && ready" := by
    decide +kernel
  refine ⟨hkey, hlength, hdepth, ?_⟩
  rw [← htext, evaluate_formula orderedAndReady hkey hlength hdepth]
  rfl

end Expression
end RecordRules
