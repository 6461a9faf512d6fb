import Mathlib.Data.List.ReduceOption
import RecordRules.Proofs.Expression.Agreement
import RecordRules.Proofs.Expression.Literals
import RecordRules.Proofs.Expression.Nesting

/-!
# Sums over a field and sums over a list

`sum` takes a list, or a path to a list of maps with the name of a field after the last point.  Both
come to the same: the sum over a field is the sum over the list of its values.

* `total_eq` and `total_congr`: numbers are added from left to right, beginning with zero, and
  values without a numeric reading make no difference.
* `FieldOfList`: a path leads to a list, and nothing stands in the way of a field of its items.
* `FieldOfList.sumOf_eq` and `sumOf_name`: what the argument of a sum comes to.
* `evaluate_sumText`: an expression that is a sum is evaluated as one.
* `evaluate_sum_field` is the theorem.
-/

set_option autoImplicit false

namespace RecordRules

/-! ## Numeric readings -/

/-- Whether a value has a numeric reading, or would have one if it were not too large for it. -/
def Value.hasReading (v : Value) : Bool :=
  match v.toNumber with
  | .ok none => false
  | _ => true

namespace Expression

/-- Adds the numeric reading of a value, if it has one. -/
def addReading (sum : Float) (v : Value) : Outcome Float := do
  match ← ofValueError v.toNumber with
  | some x => return sum + x
  | none => return sum

theorem total_eq_foldlM (values : List Value) : total values = values.foldlM addReading 0.0 := rfl

/-- **Numbers are added from left to right**, beginning with zero, unless a value cannot be read. -/
theorem total_eq (values : List Value) :
    total values = ofValueError ((values.mapM Value.toNumber).map fun readings =>
      readings.reduceOption.foldl (· + ·) 0.0) := by
  rw [total_eq_foldlM]
  generalize (0.0 : Float) = start
  induction values generalizing start with
  | nil => rfl
  | cons v rest ih =>
    rw [List.foldlM_cons, List.mapM_cons, addReading]
    cases v.toNumber with
    | error e => rfl
    | ok reading =>
      cases reading with
      | none =>
        refine (ih start).trans ?_
        cases rest.mapM Value.toNumber <;> rfl
      | some x =>
        refine (ih (start + x)).trans ?_
        cases rest.mapM Value.toNumber <;> rfl

/-- Values without a numeric reading make no difference. -/
theorem total_filter (values : List Value) :
    total (values.filter Value.hasReading) = total values := by
  rw [total_eq_foldlM, total_eq_foldlM]
  generalize (0.0 : Float) = start
  induction values generalizing start with
  | nil => rfl
  | cons v rest ih =>
    rw [List.filter_cons, Value.hasReading, List.foldlM_cons, addReading]
    rcases hreading : v.toNumber with e | _ | x
    · rw [if_pos rfl, List.foldlM_cons, addReading, hreading]
      rfl
    · exact ih start
    · rw [if_pos rfl, List.foldlM_cons, addReading, hreading]
      exact ih (start + x)

/-! ## Columns -/

/-- Whether the field of an item has a numeric reading. -/
def fieldHasReading (field : String) (item : Value) : Bool :=
  (column field [item]).any Value.hasReading

theorem column_map_cons (field : String) (entries : List (String × Value)) (rest : List Value) :
    column field (.map entries :: rest) =
      (Fields.get? entries field).getD .null :: column field rest := rfl

/-- Items whose field has no numeric reading have no share in the readings of the column. -/
theorem filter_column (field : String) (items : List Value) :
    (column field items).filter Value.hasReading =
      column field (items.filter (fieldHasReading field)) := by
  induction items with
  | nil => rfl
  | cons item rest ih =>
    cases item with
    | map entries =>
      have hread : fieldHasReading field (.map entries) =
          ((Fields.get? entries field).getD .null).hasReading := Bool.or_false _
      rw [column_map_cons, List.filter_cons, List.filter_cons, hread, ih]
      split
      · rw [column_map_cons]
      · rfl
    | _ => exact ih

/-- Items whose field has no numeric reading make no difference to a sum over it. -/
theorem total_column_congr {field : String} {items items' : List Value}
    (h : items'.filter (fieldHasReading field) = items.filter (fieldHasReading field)) :
    total (column field items') = total (column field items) := by
  rw [← total_filter, filter_column, h, ← filter_column, total_filter]

/-- Values without a numeric reading make no difference to their sum. -/
theorem total_congr {values values' : List Value}
    (h : values'.filter Value.hasReading = values.filter Value.hasReading) :
    total values' = total values := by
  rw [← total_filter, h, total_filter]

/-! ## Names and paths -/

/-- A letter, and then letters, digits and underscores, all of them in ASCII. -/
structure IsIdentifier (name : String) : Prop where
  head : ∃ c rest, name.toList = c :: rest ∧ c.isAlpha = true
  word : ∀ c ∈ name.toList, Text.isWord c = true

/-- The text of a path: its names, and points between them. -/
def dotted (path : List String) : List Char := ['.'].intercalate (path.map String.toList)

section Paths

variable {path : List String} {name : String}

theorem IsIdentifier.not_mem (h : IsIdentifier name) {c : Char} (hc : Text.isWord c = false) :
    c ∉ name.toList := fun hmem => by
  rw [h.word c hmem] at hc
  cases hc

theorem IsIdentifier.of_all {c : Char} {rest : List Char} (hname : name.toList = c :: rest)
    (hc : c.isAlpha = true) (hword : name.toList.all Text.isWord = true) : IsIdentifier name :=
  ⟨⟨c, rest, hname, hc⟩, List.all_eq_true.1 hword⟩

@[simp] theorem dotted_singleton (name : String) : dotted [name] = name.toList :=
  List.intercalate_singleton

theorem dotted_cons_cons (first second : String) (rest : List String) :
    dotted (first :: second :: rest) = first.toList ++ '.' :: dotted (second :: rest) := by
  rw [dotted, List.map_cons, List.map_cons, List.intercalate_cons_cons, List.append_assoc]
  rfl

theorem dotted_concat (hne : path ≠ []) (field : String) :
    dotted (path ++ [field]) = dotted path ++ '.' :: field.toList := by
  induction path with
  | nil => exact absurd rfl hne
  | cons first rest ih =>
    cases rest with
    | nil => simp [dotted_cons_cons]
    | cons second rest =>
      have hrest := ih (List.cons_ne_nil _ _)
      rw [List.cons_append] at hrest
      rw [List.cons_append, List.cons_append, dotted_cons_cons, hrest, dotted_cons_cons,
        List.append_assoc, List.cons_append]

/-- A path has no characters but those of its names, and points. -/
theorem isWord_of_mem_dotted (h : ∀ name ∈ path, IsIdentifier name) :
    ∀ c ∈ dotted path, Text.isWord c = true ∨ c = '.' := by
  induction path with
  | nil => exact List.forall_mem_nil _
  | cons first rest ih =>
    rw [List.forall_mem_cons] at h
    cases rest with
    | nil =>
      rw [dotted_singleton]
      exact fun c hc => .inl (h.1.word c hc)
    | cons second rest =>
      intro c hc
      rw [dotted_cons_cons] at hc
      rcases List.mem_append.1 hc with hc | hc
      · exact .inl (h.1.word c hc)
      · rcases List.mem_cons.1 hc with rfl | hc
        · exact .inr rfl
        · exact ih h.2 c hc

/-- A path begins with a letter. -/
theorem exists_dotted_eq_cons (hne : path ≠ []) (h : ∀ name ∈ path, IsIdentifier name) :
    ∃ c rest, dotted path = c :: rest ∧ c.isAlpha = true := by
  obtain ⟨first, path, rfl⟩ := List.exists_cons_of_ne_nil hne
  obtain ⟨c, rest, hfirst, hc⟩ := (h first List.mem_cons_self).head
  cases path with
  | nil => exact ⟨c, rest, by rw [dotted_singleton, hfirst], hc⟩
  | cons second path =>
    refine ⟨c, rest ++ '.' :: dotted (second :: path), ?_, hc⟩
    rw [dotted_cons_cons, hfirst, List.cons_append]

theorem trim_dotted (hne : path ≠ []) (h : ∀ name ∈ path, IsIdentifier name) :
    Text.trim (dotted path) = dotted path := by
  obtain ⟨first, rest, hdotted, -⟩ := exists_dotted_eq_cons hne h
  refine (Text.IsTight.of_forall (by simp [hdotted]) fun c hc => ?_).trim_eq
  rcases isWord_of_mem_dotted h c hc with hword | rfl
  · exact Text.isBlank_of_isWord hword
  · decide

theorem splitOn_dotted (hne : path ≠ []) (h : ∀ name ∈ path, IsIdentifier name) :
    (dotted path).splitOn '.' = path.map String.toList := by
  refine List.splitOn_intercalate '.' ?_ (by simpa using hne)
  exact List.forall_mem_map.2 fun name hname => (h name hname).not_mem (by decide)

/-- A text that begins with a letter, and has more to it than letters, digits and underscores, is no
literal. -/
theorem literal?_of_not_word {c : Char} {rest : List Char} (hc : c.isAlpha = true) {d : Char}
    (hmem : d ∈ c :: rest) (hd : Text.isWord d = false) :
    Value.literal? (c :: rest) = .ok none := by
  refine Value.literal?_of_isAlpha hc fun word hword heq => ?_
  rw [Value.isWord_of_mem_literalWords hword d (heq ▸ hmem)] at hd
  cases hd

end Paths

/-! ## The argument of a sum -/

/-- A path leads to a list, and nothing else stands in the way of a field of its items: no name of
the context is the text of the path with the field or, if there is more than one name in it, of the
path. -/
structure FieldOfList (context : Context) (path : List String) (field : String)
    (items : List Value) : Prop where
  list : ∃ value, simpleValue context (dotted path) = .ok value ∧ value.items? = some items
  path_free : 1 < path.length → context.get? (String.ofList (dotted path)) = none
  field_free : context.get? (String.ofList (dotted (path ++ [field]))) = none

section Arguments

variable {context : Context} {path : List String} {field name : String} {items : List Value}

theorem kindOf_of_items {value : Value} (h : value.items? = some items) :
    kindOf value = .ok .list := by
  cases value with
  | list => rfl
  | tuple => rfl
  | _ => cases h

/-- What stands for a list is no literal. -/
theorem reference_of_items {c : Char} {rest : List Char} (hc : c.isAlpha = true) {value : Value}
    (h : simpleValue context (c :: rest) = .ok value) (hitems : value.items? = some items) :
    reference context (c :: rest) = value := by
  by_cases hword : ∃ word ∈ Value.literalWords, c :: rest = word.toList
  · obtain ⟨word, hword, heq⟩ := hword
    rw [heq] at h
    simp only [Value.literalWords, List.mem_cons, List.not_mem_nil, or_false] at hword
    rcases hword with rfl | rfl | rfl <;>
    · cases h
      cases hitems
  · have hnone : Value.literal? (c :: rest) = .ok none :=
      Value.literal?_of_isAlpha hc fun word hmem heq => hword ⟨word, hmem, heq⟩
    rw [simpleValue, hnone] at h
    exact Except.ok.inj h

/-- The list is what the names of the path lead to, one after the other. -/
theorem FieldOfList.walk (h : FieldOfList context path field items) (hne : path ≠ [])
    (hpath : ∀ name ∈ path, IsIdentifier name) :
    ∃ value, (path.map String.toList).foldlM field? (.map context) = some value ∧
      value.items? = some items := by
  obtain ⟨value, hvalue, hitems⟩ := h.list
  refine ⟨value, ?_, hitems⟩
  obtain ⟨c, rest, hdotted, hc⟩ := exists_dotted_eq_cons hne hpath
  have href : reference context (dotted path) = value := by
    rw [hdotted] at hvalue ⊢
    exact reference_of_items hc hvalue hitems
  rw [reference] at href
  cases hwhole : context.get? (String.ofList (dotted path)) with
  | some found =>
    rw [hwhole] at href
    cases path with
    | nil => exact absurd rfl hne
    | cons first rest =>
      cases rest with
      | nil =>
        rw [dotted_singleton, String.ofList_toList] at hwhole
        simp [field?, hwhole, href]
      | cons second rest =>
        rw [h.path_free (by simp)] at hwhole
        cases hwhole
  | none =>
    rw [hwhole] at href
    rw [← splitOn_dotted hne hpath, ← pathValue?_eq_foldlM hwhole]
    cases hfound : pathValue? context (dotted path) with
    | some found =>
      rw [hfound] at href
      exact congrArg some href
    | none =>
      rw [hfound] at href
      subst href
      cases hitems

/-- A list has no fields, so the whole argument of the sum leads nowhere. -/
theorem FieldOfList.simpleValue_eq (h : FieldOfList context path field items) (hne : path ≠ [])
    (hpath : ∀ name ∈ path, IsIdentifier name) (hfield : IsIdentifier field) :
    simpleValue context (dotted (path ++ [field])) =
      .ok (.text (String.ofList (dotted (path ++ [field])))) := by
  have hall : ∀ name ∈ path ++ [field], IsIdentifier name :=
    List.forall_mem_append.2 ⟨hpath, List.forall_mem_singleton.2 hfield⟩
  have hne' : path ++ [field] ≠ [] := by simp
  obtain ⟨value, hwalk, hitems⟩ := h.walk hne hpath
  have hlost : field? value field.toList = none := by
    cases value with
    | map => cases hitems
    | _ => rfl
  have hnone : pathValue? context (dotted (path ++ [field])) = none := by
    rw [pathValue?_eq_foldlM h.field_free, splitOn_dotted hne' hall, List.map_append,
      List.foldlM_append, hwalk]
    simpa using hlost
  have hliteral : Value.literal? (dotted (path ++ [field])) = .ok none := by
    obtain ⟨c, rest, hdotted, hc⟩ := exists_dotted_eq_cons hne' hall
    have hpoint : '.' ∈ dotted (path ++ [field]) := by simp [dotted_concat hne]
    rw [hdotted] at hpoint ⊢
    exact literal?_of_not_word hc hpoint (by decide)
  rw [simpleValue, hliteral, reference, h.field_free, hnone]
  rfl

/-- **The argument of a sum over a field** comes to the column of the field. -/
theorem FieldOfList.sumOf_eq (h : FieldOfList context path field items) (hne : path ≠ [])
    (hpath : ∀ name ∈ path, IsIdentifier name) (hfield : IsIdentifier field) :
    sumOf context (dotted (path ++ [field])) = total (column field items) := by
  obtain ⟨value, hvalue, hitems⟩ := h.list
  have hcut : Text.cutLast? ['.'] (dotted (path ++ [field])) =
      some (dotted path, field.toList) := by
    have hpoint : '.' ∉ field.toList.reverse := by
      rw [List.mem_reverse]
      exact hfield.not_mem (by decide)
    have hreverse : (dotted (path ++ [field])).reverse =
        field.toList.reverse ++ (['.'] ++ (dotted path).reverse) := by
      simp [dotted_concat hne]
    rw [Text.cutLast?, hreverse, List.reverse_singleton, Text.cut?_append hpoint]
    simp
  have htrim := trim_dotted hne hpath
  have htrim' := trim_dotted (List.cons_ne_nil field []) (List.forall_mem_singleton.2 hfield)
  rw [dotted_singleton] at htrim'
  have htext : ∀ s : String, kindOf (.text s) = .ok .string ∧ (Value.text s).items? = none :=
    fun _ => ⟨rfl, rfl⟩
  rw [sumOf, h.simpleValue_eq hne hpath hfield, ok_bind, (htext _).1, ok_bind, (htext _).2, hcut]
  dsimp only
  rw [htrim, htrim', hvalue, ok_bind, kindOf_of_items hitems, ok_bind, hitems, String.ofList_toList]

/-- The argument of a sum over a list that has a name. -/
theorem sumOf_name (hname : IsIdentifier name) (hfree : name ∉ Value.literalWords)
    (values : List Value) : sumOf [(name, .list values)] name.toList = total values := by
  obtain ⟨c, rest, hhead, hc⟩ := hname.head
  have hliteral : Value.literal? name.toList = .ok none := by
    rw [hhead]
    refine Value.literal?_of_isAlpha hc fun word hword heq => hfree ?_
    rwa [← String.toList_inj.1 (hhead.trans heq)] at hword
  have hvalue : simpleValue [(name, .list values)] name.toList = .ok (.list values) := by
    rw [simpleValue, hliteral, reference, String.ofList_toList]
    simp [Fields.get?, ofValueError]
  rw [sumOf, hvalue]
  rfl

end Arguments

/-! ## Expressions that are sums -/

/-- The text of a sum over a path. -/
def sumText (path : List String) : String := String.ofList ("sum(".toList ++ (dotted path ++ [')']))

/-- Naming the whole expression in an error does not change its cause. -/
theorem mapError_within_cause {α : Type} (text : List Char) (x : Outcome α) :
    (x.mapError (Error.within text)).mapError Error.cause = x.mapError Error.cause := by
  cases x with
  | ok a => rfl
  | error e => exact congrArg Except.error (within_cause text e)

theorem sumText_toList (path : List String) :
    (sumText path).toList = 's' :: ("um(".toList ++ (dotted path ++ [')'])) := by
  rw [sumText, String.toList_ofList]
  rfl

theorem trim_sumText (path : List String) :
    Text.trim (sumText path).toList = (sumText path).toList := by
  have hopen : Text.IsTight "sum(".toList := ⟨⟨'s', rfl, by decide⟩, ⟨'(', rfl, by decide⟩⟩
  have hclose : Text.IsTight [')'] := ⟨⟨')', rfl, by decide⟩, ⟨')', rfl, by decide⟩⟩
  rw [sumText, String.toList_ofList]
  exact (hopen.append hclose (dotted path)).trim_eq

theorem literal?_sumText (path : List String) :
    Value.literal? (sumText path).toList = .ok none := by
  rw [sumText_toList]
  exact literal?_of_not_word (d := '(') (by decide) (by simp) (by decide)

section Sums

variable {path : List String} (hpath : ∀ name ∈ path, IsIdentifier name)
include hpath

/-- A mark other than points and parentheses does not stand in a sum. -/
theorem not_mem_sumText {c : Char} (hc : Text.isWord c = false) (hmark : c ∉ ['.', '(', ')']) :
    c ∉ (sumText path).toList := by
  intro hmem
  rw [sumText, String.toList_ofList] at hmem
  rcases List.mem_append.1 hmem with hmem | hmem
  · have hsum : ("sum(".toList.all fun d => Text.isWord d || d == '(') = true := by decide
    rcases Bool.or_eq_true_iff.1 (List.all_eq_true.1 hsum c hmem) with hword | hopen
    · exact Bool.false_ne_true (hc.symm.trans hword)
    · rw [eq_of_beq hopen] at hmark
      exact hmark (by decide)
  · rcases List.mem_append.1 hmem with hmem | hmem
    · rcases isWord_of_mem_dotted hpath c hmem with hword | rfl
      · exact Bool.false_ne_true (hc.symm.trans hword)
      · exact hmark (by decide)
    · rw [List.mem_singleton.1 hmem] at hmark
      exact hmark (by decide)

theorem sumArgument?_sumText (hne : path ≠ []) :
    sumArgument? (sumText path).toList = some (dotted path) := by
  have hopen : Text.cut? ['('] (sumText path).toList =
      some ("sum".toList, dotted path ++ [')']) := by
    rw [sumText, String.toList_ofList]
    exact Text.cut?_append (show '(' ∉ "sum".toList by decide) _
  have hclose : Text.cutLast? [')'] (dotted path ++ [')']) = some (dotted path, []) := by
    rw [Text.cutLast?, List.reverse_append, List.reverse_singleton]
    simp [Text.cut?]
  have hsum : Text.trim ['s', 'u', 'm'] = ['s', 'u', 'm'] := by decide
  rw [sumArgument?, hopen]
  simp [hclose, hsum, trim_dotted hne hpath]

/-- A sum has no operator, so nothing is left but its argument. -/
theorem evaluateWithin_sumText (hne : path ≠ []) (limits : Limits) (context : Context)
    (left : Nat) :
    evaluateWithin limits context (left + 1) (sumText path).toList =
      Value.float <$> sumOf context (dotted path) := by
  have hmark : ∀ {c : Char}, Text.isWord c = false → c ∉ ['.', '(', ')'] →
      c ∉ (sumText path).toList := not_mem_sumText hpath
  rw [evaluateWithin, findComparison?_eq_none (hmark (by decide) (by decide))
    (hmark (by decide) (by decide)) (hmark (by decide) (by decide)),
    Text.occurs_eq_false_of_not_mem (c := '&') (by simp) (hmark (by decide) (by decide)),
    Text.occurs_eq_false_of_not_mem (c := '|') (by simp) (hmark (by decide) (by decide))]
  dsimp only
  rw [if_neg Bool.false_ne_true, if_neg Bool.false_ne_true, evaluateTerm,
    Text.occurs_eq_false_of_not_mem (c := '+') (by simp) (hmark (by decide) (by decide)),
    if_neg Bool.false_ne_true,
    Text.cut?_eq_none_of_not_mem (c := '-') (by simp) (hmark (by decide) (by decide)), ite_self,
    Text.occurs_eq_false_of_not_mem (c := '*') (by simp) (hmark (by decide) (by decide)),
    Text.cut?_eq_none_of_not_mem (c := '/') (by simp) (hmark (by decide) (by decide)),
    sumArgument?_sumText hpath hne]
  rfl

/-- **An expression that is a sum is evaluated as one**, unless its text is a name of the
context. -/
theorem evaluate_sumText (hne : path ≠ []) {limits : Limits} {context : Context}
    (hlength : (sumText path).length ≤ limits.maxLength)
    (hfree : context.get? (sumText path) = none) :
    (evaluate limits context (sumText path)).mapError Error.cause =
      if limits.maxDepth < 1 then .error (.tooDeep limits.maxDepth)
      else (Value.float <$> sumOf context (dotted path)).mapError Error.cause := by
  have hnonempty : (sumText path).toList ≠ [] := by
    rw [sumText_toList]
    exact List.cons_ne_nil _ _
  rw [← String.length_toList] at hlength
  rw [evaluate, trim_sumText, if_neg hnonempty, if_neg (Int.not_lt.2 hlength),
    mapError_within_cause, evaluateTrimmed, literal?_sumText, ofValueError, ok_bind]
  dsimp only
  rw [String.ofList_toList, hfree]
  dsimp only
  split
  · rename_i hdepth
    have hzero : limits.maxDepth.toNat = 0 := by omega
    rw [hzero]
    rfl
  · rename_i hdepth
    obtain ⟨left, hleft⟩ : ∃ left, limits.maxDepth.toNat = left + 1 :=
      ⟨limits.maxDepth.toNat - 1, by omega⟩
    rw [hleft, evaluateWithin_sumText hpath hne]

end Sums

/-! ## The theorem -/

/-- What a sum over values comes to: the numbers of those that have one, added from left to right,
beginning with zero. -/
def summed (limits : Limits) (values : List Value) : Except Cause Value :=
  if limits.maxDepth < 1 then .error (.tooDeep limits.maxDepth)
  else
    match values.mapM Value.toNumber with
    | .ok readings => .ok (.float (readings.reduceOption.foldl (· + ·) 0.0))
    | .error e => .error (.broken e)

theorem summed_eq (limits : Limits) (values : List Value) :
    summed limits values = if limits.maxDepth < 1 then .error (.tooDeep limits.maxDepth)
      else (Value.float <$> total values).mapError Error.cause := by
  rw [summed, total_eq]
  cases values.mapM Value.toNumber <;> rfl

/-- A sum whose argument comes to some values comes to their sum. -/
theorem evaluate_eq_summed {path : List String} (hne : path ≠ [])
    (hpath : ∀ name ∈ path, IsIdentifier name) {limits : Limits} {context : Context}
    (hlength : (sumText path).length ≤ limits.maxLength)
    (hfree : context.get? (sumText path) = none) {values : List Value}
    (hargument : sumOf context (dotted path) = total values) :
    (evaluate limits context (sumText path)).mapError Error.cause = summed limits values := by
  rw [evaluate_sumText hpath hne hlength hfree, hargument, summed_eq]

/-- **A sum over a field is the sum over the list of its values.**  If a path leads to a list, and
nothing else stands in the way of a field of its items, then the sum over the field has the value,
or fails with the cause, that the sum over the column of the field has under any name:

* the numbers of the column are added from left to right, beginning with zero;
* items whose field has no numeric reading make no difference, wherever the path leads to a list
  with or without them;
* neither do values without a numeric reading in the column. -/
theorem evaluate_sum_field {path : List String} (hne : path ≠ [])
    (hpath : ∀ name ∈ path, IsIdentifier name) {field : String} (hfield : IsIdentifier field)
    {name : String} (hname : IsIdentifier name) (hword : name ∉ Value.literalWords)
    {limits : Limits} (hlength : (sumText (path ++ [field])).length ≤ limits.maxLength)
    (hlength' : (sumText [name]).length ≤ limits.maxLength) {context : Context}
    {items : List Value} (h : FieldOfList context path field items)
    (hfree : context.get? (sumText (path ++ [field])) = none) :
    let overField (given : Context) : Except Cause Value :=
      (evaluate limits given (sumText (path ++ [field]))).mapError Error.cause
    let overList (values : List Value) : Except Cause Value :=
      (evaluate limits [(name, .list values)] (sumText [name])).mapError Error.cause
    overField context = overList (column field items) ∧
      overList (column field items) = summed limits (column field items) ∧
      (∀ (other : Context) (kept : List Value), FieldOfList other path field kept →
        other.get? (sumText (path ++ [field])) = none →
        kept.filter (fieldHasReading field) = items.filter (fieldHasReading field) →
        overField other = overField context) ∧
      ∀ kept : List Value,
        kept.filter Value.hasReading = (column field items).filter Value.hasReading →
        overList kept = overList (column field items) := by
  intro overField overList
  have hall : ∀ name ∈ path ++ [field], IsIdentifier name :=
    List.forall_mem_append.2 ⟨hpath, List.forall_mem_singleton.2 hfield⟩
  have hsingle : ∀ n ∈ [name], IsIdentifier n := List.forall_mem_singleton.2 hname
  have hover : ∀ {context : Context} {items : List Value}, FieldOfList context path field items →
      context.get? (sumText (path ++ [field])) = none →
      overField context = summed limits (column field items) := fun h hfree =>
    evaluate_eq_summed (by simp) hall hlength hfree (h.sumOf_eq hne hpath hfield)
  have hlist : ∀ values, overList values = summed limits values := by
    intro values
    have hother : Fields.get? [(name, Value.list values)] (sumText [name]) = none := by
      rw [Fields.get?, if_neg, Fields.get?]
      intro heq
      refine hname.not_mem (c := '(') (by decide) ?_
      rw [heq, sumText_toList]
      simp
    refine evaluate_eq_summed (by simp) hsingle hlength' hother ?_
    rw [dotted_singleton]
    exact sumOf_name hname hword values
  refine ⟨?_, hlist _, fun other kept hkept hfree' hsame => ?_, fun kept hsame => ?_⟩
  · rw [hover h hfree, hlist]
  · rw [hover h hfree, hover hkept hfree', summed_eq, summed_eq, total_column_congr hsame]
  · rw [hlist, hlist, summed_eq, summed_eq, total_congr hsame]

namespace Order

/-- Lines with a price. -/
def priced : List Value := [.map [("price", .float 1.5)], .map [("price", .float 2.5)]]

/-- The same, among lines whose price is no number. -/
def lines : List Value :=
  [.map [("price", .null)], .map [("price", .float 1.5)], .text "2.5", .map [("count", .int 3)],
    .map [("price", .text "free")], .map [("price", .list [.float 0.5])],
    .map [("price", .float 2.5)], .map [("price", .bool true)]]

/-- An order with some lines, among other things. -/
def context (lines : List Value) : Context :=
  [("customer", .text "ann"), ("order", .map [("lines", .list lines)])]

/-- The path to the lines of an order. -/
def path : List String := ["order", "lines"]

theorem path_isIdentifier : ∀ name ∈ path, IsIdentifier name := by
  simp only [path, List.forall_mem_cons]
  exact ⟨.of_all rfl rfl (by decide), .of_all rfl rfl (by decide), List.forall_mem_nil _⟩

theorem price_isIdentifier : IsIdentifier "price" := .of_all rfl rfl (by decide)

theorem prices_isIdentifier : IsIdentifier "prices" := .of_all rfl rfl (by decide)

theorem fieldOfList (lines : List Value) : FieldOfList (context lines) path "price" lines :=
  ⟨⟨.list lines, rfl, rfl⟩, fun _ => rfl, rfl⟩

/-- What the sum over the prices of some lines comes to. -/
def total (lines : List Value) : Except Cause Value :=
  (evaluate {} (context lines) "sum(order.lines.price)").mapError Error.cause

/-- What the sum over some prices comes to. -/
def totalOf (prices : List Value) : Except Cause Value :=
  (evaluate {} [("prices", .list prices)] "sum(prices)").mapError Error.cause

end Order

/-- An order costs what its lines with a price cost, and that is the sum of the prices. -/
theorem evaluate_sum_field_order :
    Order.total Order.lines = .ok (.float (0.0 + 1.5 + 2.5)) ∧
      Order.totalOf (column "price" Order.lines) = .ok (.float (0.0 + 1.5 + 2.5)) ∧
      Order.total Order.priced = Order.total Order.lines ∧
      Order.totalOf [.float 1.5, .text "free", .float 2.5] =
        Order.totalOf (column "price" Order.lines) := by
  have hlength : (sumText (Order.path ++ ["price"])).length ≤ ({} : Limits).maxLength := by decide
  obtain ⟨hsame, hvalue, hkept, hcolumn⟩ :=
    evaluate_sum_field (List.cons_ne_nil _ _) Order.path_isIdentifier Order.price_isIdentifier
      Order.prices_isIdentifier (by decide) hlength (by decide) (Order.fieldOfList Order.lines) rfl
  have hprices : summed {} (column "price" Order.lines) = .ok (.float (0.0 + 1.5 + 2.5)) := rfl
  exact ⟨(hsame.trans hvalue).trans hprices, hvalue.trans hprices,
    hkept _ _ (Order.fieldOfList Order.priced) rfl rfl, hcolumn _ rfl⟩

end Expression
end RecordRules
