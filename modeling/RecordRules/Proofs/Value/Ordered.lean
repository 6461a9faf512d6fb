import Mathlib.Data.List.Perm.Basic
import RecordRules.Value.Coercion

/-!
# Values without regard to order

The order of the entries of a map does not matter, at any depth: `Value.ordered` puts them into the
order of their names, and whatever is read off a value is read off its ordered form.

* `Fields.get?_sorted`: the look-up of a name does not depend on the order.
* `Value.Alike`: two values differ at most in the order of entries.
* `Value.equal_ordered`: equality does not see the difference.
-/

set_option autoImplicit false

namespace RecordRules
namespace Fields

variable {α β : Type}

theorem precedes_trans (a b c : String × α) (hab : decide (a.1 ≤ b.1) = true)
    (hbc : decide (b.1 ≤ c.1) = true) : decide (a.1 ≤ c.1) = true :=
  decide_eq_true (String.le_trans (of_decide_eq_true hab) (of_decide_eq_true hbc))

theorem precedes_total (a b : String × α) : (decide (a.1 ≤ b.1) || decide (b.1 ≤ a.1)) = true := by
  rw [Bool.or_eq_true, decide_eq_true_eq, decide_eq_true_eq]
  exact String.le_total a.1 b.1

theorem sorted_perm (fields : Fields α) : (sorted fields).Perm fields := List.mergeSort_perm _ _

theorem mem_of_get? {fields : Fields α} {name : String} {a : α} (h : get? fields name = some a) :
    (name, a) ∈ fields := by
  induction fields with
  | nil => cases h
  | cons f rest ih =>
    rw [get?] at h
    split at h
    · rename_i hname
      cases h
      rw [← hname]
      exact List.mem_cons_self ..
    · exact List.mem_cons_of_mem _ (ih h)

theorem get?_eq_filter (fields : Fields α) (name : String) :
    get? fields name = ((fields.filter fun f => f.1 = name).head?).map Prod.snd := by
  induction fields with
  | nil => rfl
  | cons f rest ih =>
    by_cases h : f.1 = name
    · rw [get?, if_pos h, List.filter_cons_of_pos (by simpa using h)]
      rfl
    · rw [get?, if_neg h, List.filter_cons_of_neg (by simpa using h), ih]

/-- The look-up of a name does not depend on the order of other names. -/
theorem get?_sorted (fields : Fields α) (name : String) :
    get? (sorted fields) name = get? fields name := by
  rw [get?_eq_filter, get?_eq_filter]
  -- the entries of one name keep their order
  have hnamed : (fields.filter fun f => f.1 = name).Pairwise
      fun a b => decide (a.1 ≤ b.1) = true := by
    refine List.pairwise_of_forall_mem_list fun a ha b hb => decide_eq_true ?_
    rw [List.mem_filter, decide_eq_true_eq] at ha hb
    exact (ha.2.trans hb.2.symm) ▸ String.le_refl a.1
  have hsub : (fields.filter fun f => f.1 = name).Sublist (sorted fields) :=
    List.sublist_mergeSort precedes_trans precedes_total hnamed List.filter_sublist
  have hsub' := hsub.filter fun f => decide (f.1 = name)
  rw [List.filter_filter] at hsub'
  simp only [Bool.and_self] at hsub'
  rw [hsub'.eq_of_length ((sorted_perm fields).filter _).length_eq.symm]

theorem get?_map (f : α → β) (fields : Fields α) (name : String) :
    get? (fields.map fun e => (e.1, f e.2)) name = (get? fields name).map f := by
  induction fields with
  | nil => rfl
  | cons e rest ih =>
    rw [List.map_cons, get?, get?, ih]
    split <;> rfl

/-- Sorting only looks at names. -/
theorem sorted_map (f : α → β) (fields : Fields α) :
    sorted (fields.map fun e => (e.1, f e.2)) = (sorted fields).map fun e => (e.1, f e.2) := by
  have hnames : ∀ a ∈ fields, ∀ b ∈ fields, decide (a.1 ≤ b.1) =
      (fun c d : String × β => decide (c.1 ≤ d.1)) (a.1, f a.2) (b.1, f b.2) :=
    fun _ _ _ _ => rfl
  exact (List.map_mergeSort hnames).symm

end Fields

namespace Value

mutual

/-- A value with the entries of its maps in the order of their names. -/
def ordered : Value → Value
  | .list items => .list (orderedItems items)
  | .tuple items => .tuple (orderedItems items)
  | .map entries => .map (Fields.sorted (orderedEntries entries))
  | v => v

/-- Ordered items. -/
def orderedItems : List Value → List Value
  | [] => []
  | v :: rest => ordered v :: orderedItems rest

/-- Entries with ordered values. -/
def orderedEntries : List (String × Value) → List (String × Value)
  | [] => []
  | (name, v) :: rest => (name, ordered v) :: orderedEntries rest

end

/-- Two values differ at most in the order of the entries of their maps. -/
def Alike (v w : Value) : Prop := v.ordered = w.ordered

theorem orderedItems_eq_map (items : List Value) : orderedItems items = items.map ordered := by
  induction items with
  | nil => rfl
  | cons v rest ih => rw [orderedItems, ih, List.map_cons]

theorem orderedEntries_eq_map (entries : List (String × Value)) :
    orderedEntries entries = entries.map fun e => (e.1, ordered e.2) := by
  induction entries with
  | nil => rfl
  | cons e rest ih => rw [orderedEntries, ih, List.map_cons]

theorem get?_orderedEntries (entries : List (String × Value)) (name : String) :
    Fields.get? (orderedEntries entries) name = (Fields.get? entries name).map ordered := by
  rw [orderedEntries_eq_map, Fields.get?_map]

/-! ## What is read off a value -/

@[simp] theorem kind?_ordered (v : Value) : v.ordered.kind? = v.kind? := by
  cases v <;> rfl

@[simp] theorem isTrue_ordered (v : Value) : v.ordered.isTrue = v.isTrue := by
  cases v <;> rfl

@[simp] theorem toNumber_ordered (v : Value) : v.ordered.toNumber = v.toNumber := by
  cases v <;> rfl

@[simp] theorem items?_ordered (v : Value) : v.ordered.items? = v.items?.map orderedItems := by
  cases v <;> rfl

theorem sameEntries_eq_all (xs ys : List (String × Value)) :
    sameEntries xs ys = xs.all fun e => match Fields.get? ys e.1 with
      | some y => sameItem e.2 y
      | none => false := by
  induction xs with
  | nil => rfl
  | cons e rest ih => exact congrArg (and _) ih

mutual

theorem sameItem_ordered : ∀ v w : Value, sameItem v.ordered w.ordered = sameItem v w
  | .list xs, w => by
    cases w with
    | list ys => exact sameItems_ordered xs ys
    | _ => rfl
  | .tuple xs, w => by
    cases w with
    | tuple ys => exact sameItems_ordered xs ys
    | _ => rfl
  | .map xs, w => by
    cases w with
    | map ys =>
      have hlength : ∀ es : List (String × Value),
          (Fields.sorted (orderedEntries es)).length = es.length := fun es => by
        rw [(Fields.sorted_perm _).length_eq, orderedEntries_eq_map, List.length_map]
      have hentries := sameEntries_ordered xs ys
      rw [ordered, ordered, sameItem, sameItem, hlength, hlength, ← hentries, sameEntries_eq_all,
        sameEntries_eq_all (orderedEntries xs), (Fields.sorted_perm _).all_eq]
    | _ => rfl
  | .null, w => by cases w <;> rfl
  | .bool _, w => by cases w <;> rfl
  | .int _, w => by cases w <;> rfl
  | .float _, w => by cases w <;> rfl
  | .nan _, w => by cases w <;> rfl
  | .text _, w => by cases w <;> rfl
  | .date _, w => by cases w <;> rfl
  | .moment _, w => by cases w <;> rfl

theorem sameItems_ordered : ∀ xs ys : List Value,
    sameItems (orderedItems xs) (orderedItems ys) = sameItems xs ys
  | [], ys => by cases ys <;> rfl
  | x :: xs, ys => by
    cases ys with
    | nil => rfl
    | cons y ys =>
      rw [orderedItems, orderedItems, sameItems, sameItems, sameItem_ordered x y,
        sameItems_ordered xs ys]

theorem sameEntries_ordered : ∀ xs ys : List (String × Value),
    sameEntries (orderedEntries xs) (Fields.sorted (orderedEntries ys)) = sameEntries xs ys
  | [], _ => rfl
  | (name, x) :: xs, ys => by
    rw [orderedEntries, sameEntries, sameEntries, sameEntries_ordered xs ys, Fields.get?_sorted,
      get?_orderedEntries]
    cases Fields.get? ys name with
    | none => rfl
    | some y =>
      rw [Option.map_some]
      dsimp only
      rw [sameItem_ordered x y]

end

@[simp] theorem same_ordered (v w : Value) : same v.ordered w.ordered = same v w := by
  have h := sameItem_ordered v w
  cases v with
  | nan _ => rfl
  | _ => exact h

/-- Equality does not see the order of entries. -/
@[simp] theorem equal_ordered (v w : Value) : equal v.ordered w.ordered = equal v w := by
  have h := same_ordered v w
  cases v <;> cases w <;> first | rfl | exact congrArg Except.ok h

end Value
end RecordRules
