import RecordRules.Expression.Evaluate
import RecordRules.Proofs.Text.Cutting

/-!
# Formulas

The expressions that are written as intended, as trees: each has a text, and a value that is read
off the tree.

* `Atom` is a text without blanks and operators: a literal, a name, a dotted path, or itself.
* `Term` is an atom, or a sum, product, difference or quotient of atoms.
* `Clause` is one term or a disjunction of terms, and `Formula` one clause or a conjunction of
  clauses, or else a comparison of two atoms.

Evaluating a text cuts it at operators and knows nothing of these trees.
-/

set_option autoImplicit false

namespace RecordRules
namespace Expression

/-! ## Texts -/

/-- The characters of operators, calls and quotes. -/
def marks : List Char := "=!<>&|+-*/()'\"".toList

/-- A text without blanks and marks. -/
structure Atom where
  chars : List Char
  nonempty : chars ≠ []
  noBlank : ∀ c ∈ chars, Text.isBlank c = false
  noMark : ∀ c ∈ chars, c ∉ marks

/-- The atom that a text is. -/
def Atom.ofText (text : String) (nonempty : text.toList ≠ [])
    (plain : (text.toList.all fun c => !Text.isBlank c && !marks.contains c) = true) : Atom :=
  have hplain : ∀ c ∈ text.toList, Text.isBlank c = false ∧ c ∉ marks := by simpa using plain
  ⟨text.toList, nonempty, fun c hc => (hplain c hc).1, fun c hc => (hplain c hc).2⟩

/-- An atom, or arithmetic on two or more of them. -/
inductive Term where
  | atom (a : Atom)
  | sum (first second : Atom) (rest : List Atom)
  | difference (left right : Atom)
  | product (first second : Atom) (rest : List Atom)
  | quotient (left right : Atom)

/-- A disjunction of one or more terms. -/
structure Clause where
  first : Term
  rest : List Term

/-- A conjunction of one or more clauses, or a comparison. -/
inductive Formula where
  | conjunction (first : Clause) (rest : List Clause)
  | comparison (op : Comparison) (left right : Atom)

def Term.text : Term → List Char
  | .atom a => a.chars
  | .sum first second rest => Text.joined ['+'] ((first :: second :: rest).map Atom.chars)
  | .difference left right => Text.joined ['-'] ([left, right].map Atom.chars)
  | .product first second rest => Text.joined ['*'] ((first :: second :: rest).map Atom.chars)
  | .quotient left right => Text.joined ['/'] ([left, right].map Atom.chars)

def Clause.text (c : Clause) : List Char :=
  Text.joined ['|', '|'] ((c.first :: c.rest).map Term.text)

def Formula.text : Formula → List Char
  | .conjunction first rest => Text.joined ['&', '&'] ((first :: rest).map Clause.text)
  | .comparison op left right => Text.joined op.symbol [left.chars, right.chars]

/-! ## Values -/

/-- The value under a name of a map. -/
def field? : Value → List Char → Option Value
  | .map entries, name => Fields.get? entries (String.ofList name)
  | _, _ => none

/-- What an atom refers to: a name of the context, or a path from the context through nested maps,
or the atom itself. -/
def Atom.referent (context : Context) (a : Atom) : Value :=
  let text := String.ofList a.chars
  match context.get? text with
  | some value => value
  | none => ((a.chars.splitOn '.').foldlM field? (.map context)).getD (.text text)

/-- The value of an atom: the literal that it is, or what it refers to. -/
def Atom.value (context : Context) (a : Atom) : Outcome Value :=
  match Value.literal? a.chars with
  | .error e => .error ⟨.broken e, none⟩
  | .ok (some value) => .ok value
  | .ok none => .ok (a.referent context)

/-- The number that an atom denotes as an operand in `source`. -/
def Atom.number (context : Context) (operation : Arithmetic) (source : List Char) (a : Atom) :
    Outcome Float := do
  let value ← a.value context
  match value.toNumber with
  | .error e => .error ⟨.broken e, none⟩
  | .ok none => .error ⟨.notNumeric operation, some source⟩
  | .ok (some x) => .ok x

/-- The value of a term.  All operands are read before anything is computed. -/
def Term.value (context : Context) (t : Term) : Outcome Value :=
  match t with
  | .atom a => a.value context
  | .sum first second rest => do
    let xs ← (first :: second :: rest).mapM (Atom.number context .add t.text)
    return .float (xs.foldl (· + ·) 0.0)
  | .difference left right => do
    let x ← left.number context .subtract t.text
    let y ← right.number context .subtract t.text
    return .float (x - y)
  | .product first second rest => do
    let xs ← (first :: second :: rest).mapM (Atom.number context .multiply t.text)
    return .float (xs.foldl (· * ·) 1.0)
  | .quotient left right => do
    let x ← left.number context .divide t.text
    let y ← right.number context .divide t.text
    if y == 0.0 then .error ⟨.zeroDivisor, some t.text⟩ else return .float (x / y)

/-- Whether one of some values is true.  A failure counts only if no true value stands before
it. -/
def someTrue : List (Outcome Value) → Outcome Bool
  | [] => .ok false
  | .error e :: _ => .error e
  | .ok value :: rest => if value.isTrue then .ok true else someTrue rest

/-- Whether all of some values are true.  A failure counts only if no false value stands before
it. -/
def everyTrue : List (Outcome Value) → Outcome Bool
  | [] => .ok true
  | .error e :: _ => .error e
  | .ok value :: rest => if value.isTrue then everyTrue rest else .ok false

/-- The value of a clause: that of its only term, or whether one of its terms is true. -/
def Clause.value (context : Context) (c : Clause) : Outcome Value :=
  match c.rest with
  | [] => c.first.value context
  | _ :: _ => Value.bool <$> someTrue ((c.first :: c.rest).map (Term.value context))

/-- The value of a formula: that of its only clause, whether all of its clauses are true, or whether
its comparison holds. -/
def Formula.value (context : Context) : Formula → Outcome Value
  | .conjunction only [] => only.value context
  | .conjunction first rest =>
    Value.bool <$> everyTrue ((first :: rest).map (Clause.value context))
  | .comparison op left right => do
    let x ← left.value context
    let y ← right.value context
    match op.decide x y with
    | .error e => .error ⟨.broken e, none⟩
    | .ok b => return .bool b

/-! ## Which characters stand in a text -/

theorem Atom.isTight (a : Atom) : Text.IsTight a.chars := .of_forall a.nonempty a.noBlank

theorem Atom.not_mem (a : Atom) {c : Char} (h : c ∈ marks) : c ∉ a.chars :=
  fun hc => a.noMark c hc h

theorem blank_not_mem_marks : ' ' ∉ marks := by decide

theorem ne_blank_of_mem_marks {c : Char} (h : c ∈ marks) : c ≠ ' ' :=
  fun he => blank_not_mem_marks (he ▸ h)

theorem Term.isTight (t : Term) : Text.IsTight t.text := by
  cases t with
  | atom a => exact a.isTight
  | sum first second rest => exact Text.isTight_joined (by simp [Atom.isTight])
  | difference left right => exact Text.isTight_joined (by simp [Atom.isTight])
  | product first second rest => exact Text.isTight_joined (by simp [Atom.isTight])
  | quotient left right => exact Text.isTight_joined (by simp [Atom.isTight])

theorem Clause.isTight (c : Clause) : Text.IsTight c.text :=
  Text.isTight_joined (by simp [Term.isTight])

theorem Formula.isTight (f : Formula) : Text.IsTight f.text := by
  cases f with
  | conjunction first rest => exact Text.isTight_joined (by simp [Clause.isTight])
  | comparison op left right => exact Text.isTight_joined (by simp [Atom.isTight])

/-- The signs of arithmetic. -/
def signs : List Char := ['+', '-', '*', '/']

/-- The only marks of a term are the signs of arithmetic. -/
theorem Term.not_mem {c : Char} (hc : c ∈ marks) (h : c ∉ signs) (t : Term) : c ∉ t.text := by
  have hsign : ∀ s ∈ signs, c ∉ [s] := fun s hs he => h (List.mem_singleton.1 he ▸ hs)
  have hb := ne_blank_of_mem_marks hc
  cases t with
  | atom a => exact a.not_mem hc
  | sum first second rest =>
    exact Text.not_mem_joined hb (hsign _ (by decide)) (by simp [Atom.not_mem _ hc])
  | difference left right =>
    exact Text.not_mem_joined hb (hsign _ (by decide)) (by simp [Atom.not_mem _ hc])
  | product first second rest =>
    exact Text.not_mem_joined hb (hsign _ (by decide)) (by simp [Atom.not_mem _ hc])
  | quotient left right =>
    exact Text.not_mem_joined hb (hsign _ (by decide)) (by simp [Atom.not_mem _ hc])

/-- A clause adds only the bar to the marks of its terms. -/
theorem Clause.not_mem {c : Char} (hc : c ∈ marks) (h : c ∉ '|' :: signs) (d : Clause) :
    c ∉ d.text :=
  Text.not_mem_joined (ne_blank_of_mem_marks hc) (by simp [List.ne_of_not_mem_cons h])
    (by simp [Term.not_mem hc (List.not_mem_of_not_mem_cons h)])

/-- A conjunction adds only the ampersand to the marks of its clauses. -/
theorem Formula.not_mem_conjunction {c : Char} (hc : c ∈ marks) (h : c ∉ '&' :: '|' :: signs)
    (first : Clause) (rest : List Clause) : c ∉ (Formula.conjunction first rest).text :=
  Text.not_mem_joined (ne_blank_of_mem_marks hc) (by simp [List.ne_of_not_mem_cons h])
    (by simp [Clause.not_mem hc (List.not_mem_of_not_mem_cons h)])

end Expression
end RecordRules
