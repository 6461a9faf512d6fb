import Mathlib.Data.List.Rotate
import RecordRules.Proofs.Expression.Mentions
import RecordRules.Proofs.Measure.Resolution

/-!
# The order in which parameters are declared

An expression finds a parameter under two names: its own, and its own after a dollar sign.  They are
all set in one pass, so where the second name of a parameter is the own name of another one, the
later of the two is found and the earlier is not.  Nothing else depends on the order.

* `Measure.Holder` is the last of some parameters that go by a name, and
  `Measure.get?_context_eq_getLast?` says that it is what an expression finds.
* `Measure.Contest`: two parameters with different values want the same name.
* `Measure.context_agree_iff`: the order makes a difference exactly to contests, and
  `Measure.own_names_iff` says who is found under the own names.
* `Measure.evaluate_reordered` is the theorem.
-/

set_option autoImplicit false

namespace RecordRules
namespace Measure

variable {xs ys : Fields Value} {a b e f : String × Value} {name : String}

/-! ## What stands before what -/

/-- Among different things, each two stand in one order. -/
theorem not_sublist_swap {α : Type} {l : List α} {a b : α} (h : l.Nodup)
    (hab : List.Sublist [a, b] l) : ¬ List.Sublist [b, a] l := by
  induction l with
  | nil => cases hab
  | cons c rest ih =>
    rw [List.nodup_cons] at h
    intro hba
    cases hab with
    | cons _ hab =>
      cases hba with
      | cons _ hba => exact ih h.2 hab hba
      | cons_cons _ _ => exact h.1 (hab.subset (by simp))
    | cons_cons _ hb =>
      cases hba with
      | cons _ hba => exact h.1 (hba.subset (by simp))
      | cons_cons _ _ => exact h.1 (List.singleton_sublist.1 hb)

/-- What a test selects stands before the last of it. -/
theorem sublist_of_getLast? {α : Type} {l : List α} {p : α → Bool} {a b : α}
    (hlast : (l.filter p).getLast? = some a) (hb : b ∈ l) (hp : p b = true) (hne : b ≠ a) :
    List.Sublist [b, a] l := by
  obtain ⟨before, hbefore⟩ := List.getLast?_eq_some_iff.1 hlast
  have hmem : b ∈ before ++ [a] := hbefore ▸ List.mem_filter.2 ⟨hb, hp⟩
  have hfirst : b ∈ before :=
    (List.mem_append.1 hmem).resolve_right fun h => hne (List.mem_singleton.1 h)
  have hpair : List.Sublist ([b] ++ [a]) (before ++ [a]) :=
    (List.singleton_sublist.2 hfirst).append (List.Sublist.refl [a])
  exact (hbefore ▸ hpair).trans List.filter_sublist

/-! ## Names of parameters -/

/-- An expression can find a parameter under this name. -/
def goesBy (name : String) (e : String × Value) : Bool := name == e.1 || name == "$" ++ e.1

theorem goesBy_iff : goesBy name e = true ↔ name = e.1 ∨ name = "$" ++ e.1 := by
  rw [goesBy, Bool.or_eq_true, beq_iff_eq, beq_iff_eq]

/-- Under a name, an expression finds the last of the parameters that go by it. -/
theorem get?_context_eq_getLast? (xs : Fields Value) (name : String) :
    (context xs).get? name = ((xs.filter (goesBy name)).getLast?).map Prod.snd := by
  induction xs using List.reverseRecOn with
  | nil => rfl
  | append_singleton xs e ih =>
    rw [context, List.foldl_append, List.foldl_cons, List.foldl_nil, ← context, Fields.get?_set,
      Fields.get?_set, ih, List.filter_append]
    by_cases hname : goesBy name e = true
    · rw [List.filter_cons_of_pos hname, List.filter_nil, List.getLast?_concat, Option.map_some]
      rcases goesBy_iff.1 hname with rfl | rfl
      · simp
      · simp
    · rw [List.filter_cons_of_neg hname, List.filter_nil, List.append_nil]
      rw [goesBy_iff, not_or] at hname
      rw [if_neg hname.2, if_neg hname.1]

/-- The last of some parameters that go by a name. -/
structure Holder (xs : Fields Value) (name : String) (a : String × Value) : Prop where
  mem : a ∈ xs
  goesBy : goesBy name a = true
  last : ∀ b ∈ xs, Measure.goesBy name b = true → b ≠ a → List.Sublist [b, a] xs
  found : (context xs).get? name = some a.2

theorem exists_holder (he : e ∈ xs) (hname : goesBy name e = true) : ∃ a, Holder xs name a := by
  have hsome : (xs.filter (goesBy name)).getLast? ≠ none := by
    rw [ne_eq, List.getLast?_eq_none_iff]
    exact List.ne_nil_of_mem (List.mem_filter.2 ⟨he, hname⟩)
  obtain ⟨a, ha⟩ := Option.ne_none_iff_exists'.1 hsome
  obtain ⟨hmem, hgoes⟩ := List.mem_filter.1 (List.mem_of_getLast? ha)
  exact ⟨a, hmem, hgoes, fun b hb hgoes hne => sublist_of_getLast? ha hb hgoes hne,
    by rw [get?_context_eq_getLast?, ha, Option.map_some]⟩

/-! ## Contests for a name -/

/-- The second name of a parameter is the own name of another one with another value. -/
def Contest (e f : String × Value) : Prop := e.1 = "$" ++ f.1 ∧ e.2 ≠ f.2

theorem Contest.ne (h : Contest e f) : e ≠ f := by
  rintro rfl
  exact h.2 rfl

theorem nodup_of_names (h : xs.names.Nodup) : xs.Nodup := List.Nodup.of_map _ h

theorem eq_of_names (h : xs.names.Nodup) (ha : a ∈ xs) (hb : b ∈ xs) (hab : a.1 = b.1) : a = b :=
  List.inj_on_of_nodup_map h ha hb hab

/-- Only one of the two parameters that contest a name is found under it. -/
theorem Holder.cases_of_own (h : Holder xs e.1 a) (hunique : xs.names.Nodup) (he : e ∈ xs) :
    a = e ∨ e.1 = "$" ++ a.1 ∧ List.Sublist [e, a] xs := by
  by_cases hae : a = e
  · exact .inl hae
  · have hsecond : e.1 = "$" ++ a.1 := (goesBy_iff.1 h.goesBy).resolve_left fun hown =>
      hae (eq_of_names hunique h.mem he hown.symm)
    exact .inr ⟨hsecond, h.last e he (goesBy_iff.2 (.inl rfl)) (Ne.symm hae)⟩

/-- A parameter is found under its own name if it has it after the one it contests the name with. -/
theorem Contest.found (h : Contest e f) (hunique : xs.names.Nodup)
    (hef : List.Sublist [e, f] xs) : (context xs).get? e.1 = some f.2 := by
  have he : e ∈ xs := hef.subset (by simp)
  have hf : f ∈ xs := hef.subset (by simp)
  obtain ⟨a, ha⟩ := exists_holder he (goesBy_iff.2 (.inl rfl))
  rcases ha.cases_of_own hunique he with rfl | ⟨hsecond, -⟩
  · -- the other one goes by this name too, and would have to stand before
    have hfe := ha.last f hf (goesBy_iff.2 (.inr h.1)) (Ne.symm h.ne)
    exact absurd hfe (not_sublist_swap (nodup_of_names hunique) hef)
  · have hname : a.1 = f.1 := String.append_right_inj "$" |>.1 (hsecond.symm.trans h.1)
    rw [ha.found, eq_of_names hunique ha.mem hf hname]

/-- **Every parameter is found under its own name** exactly if none stands before one that it
contests its name with. -/
theorem own_names_iff (hunique : xs.names.Nodup) :
    (∀ e ∈ xs, (context xs).get? e.1 = some e.2) ↔
      ∀ e f, List.Sublist [e, f] xs → ¬ Contest e f := by
  constructor
  · intro hown e f hef hcontest
    have hfound := hown e (hef.subset (by simp))
    rw [hcontest.found hunique hef] at hfound
    exact hcontest.2 (Option.some.inj hfound).symm
  · intro hnone e he
    obtain ⟨a, ha⟩ := exists_holder he (goesBy_iff.2 (.inl rfl))
    rcases ha.cases_of_own hunique he with rfl | ⟨hsecond, hea⟩
    · exact ha.found
    · have hsame : e.2 = a.2 := Classical.byContradiction fun hne => hnone e a hea ⟨hsecond, hne⟩
      rw [ha.found, hsame]

/-- Two orders of the same parameters, in which contests end alike, make no difference. -/
theorem context_agree (hperm : xs.Perm ys) (hunique : xs.names.Nodup)
    (horder : ∀ e f, Contest e f → (List.Sublist [e, f] xs ↔ List.Sublist [e, f] ys)) :
    (context xs).get? name = (context ys).get? name := by
  by_cases hnone : ∃ e ∈ xs, goesBy name e = true
  · obtain ⟨e, he, hname⟩ := hnone
    obtain ⟨a, ha⟩ := exists_holder he hname
    obtain ⟨b, hb⟩ := exists_holder (hperm.subset he) hname
    rw [ha.found, hb.found]
    by_cases hab : a = b
    · rw [hab]
    · have hba : List.Sublist [b, a] xs :=
        ha.last b (hperm.symm.subset hb.mem) hb.goesBy (Ne.symm hab)
      have hab' : List.Sublist [a, b] ys := hb.last a (hperm.subset ha.mem) ha.goesBy hab
      have hunique' : ys.names.Nodup := (hperm.map Prod.fst).nodup_iff.1 hunique
      have hswap := not_sublist_swap (nodup_of_names hunique) hba
      have hswap' := not_sublist_swap (nodup_of_names hunique') hab'
      -- they go by one name, which is the own name of one of them
      have hcontest : ¬ Contest a b ∧ ¬ Contest b a :=
        ⟨fun h => hswap ((horder a b h).2 hab'), fun h => hswap' ((horder b a h).1 hba)⟩
      rcases goesBy_iff.1 ha.goesBy with rfl | hname'
      · rcases goesBy_iff.1 hb.goesBy with hown | hsecond
        · exact absurd (eq_of_names hunique ha.mem (hperm.symm.subset hb.mem) hown) hab
        · exact congrArg some (Classical.byContradiction fun hne => hcontest.1 ⟨hsecond, hne⟩)
      · rcases goesBy_iff.1 hb.goesBy with rfl | hsecond
        · exact congrArg some
            (Classical.byContradiction fun hne => hcontest.2 ⟨hname', Ne.symm hne⟩)
        · have hnames := String.append_right_inj "$" |>.1 (hname'.symm.trans hsecond)
          exact absurd (eq_of_names hunique ha.mem (hperm.symm.subset hb.mem) hnames) hab
  · have hempty : ∀ {zs : Fields Value}, (∀ e ∈ zs, e ∈ xs) → (context zs).get? name = none := by
      intro zs hzs
      rw [get?_context_eq_getLast?, List.filter_eq_nil_iff.2 fun e he hname =>
        hnone ⟨e, hzs e he, hname⟩]
      rfl
    rw [hempty fun _ he => he, hempty fun _ he => hperm.symm.subset he]

/-- **The order of parameters makes a difference exactly to contests.** -/
theorem context_agree_iff (hperm : xs.Perm ys) (hunique : xs.names.Nodup) :
    (∀ name, (context xs).get? name = (context ys).get? name) ↔
      ∀ e f, Contest e f → (List.Sublist [e, f] xs ↔ List.Sublist [e, f] ys) := by
  refine ⟨fun hagree e f hcontest => ?_, fun horder name => context_agree hperm hunique horder⟩
  have hunique' : ys.names.Nodup := (hperm.map Prod.fst).nodup_iff.1 hunique
  -- whoever is found under the name in one order is found in the other
  have hone : ∀ {xs ys : Fields Value}, xs.Perm ys → xs.names.Nodup → ys.names.Nodup →
      (context xs).get? e.1 = (context ys).get? e.1 → List.Sublist [e, f] xs →
        List.Sublist [e, f] ys := by
    intro xs ys hperm hunique hunique' hsame hef
    have he : e ∈ ys := hperm.subset (hef.subset (by simp))
    have hf : f ∈ ys := hperm.subset (hef.subset (by simp))
    obtain ⟨a, ha⟩ := exists_holder he (goesBy_iff.2 (.inl rfl))
    rw [hcontest.found hunique hef, ha.found] at hsame
    rcases ha.cases_of_own hunique' he with rfl | ⟨hsecond, hea⟩
    · exact absurd (Option.some.inj hsame).symm hcontest.2
    · have hname : a.1 = f.1 := String.append_right_inj "$" |>.1 (hsecond.symm.trans hcontest.1)
      rwa [eq_of_names hunique' ha.mem hf hname] at hea
  exact ⟨hone hperm hunique hunique' (hagree _),
    hone hperm.symm hunique' hunique (hagree _).symm⟩

/-! ## Evaluation -/

/-- The measure with its parameters declared in another order. -/
def reordered (m : Measure) (ps : List Parameter) (h : ps.Perm m.parameters) : Measure :=
  { m with parameters := ps, unique := (h.map Parameter.name).nodup_iff.2 m.unique }

/-- The key of some parameters does not depend on their order. -/
theorem cacheKey_of_perm (hperm : xs.Perm ys) (hunique : xs.names.Nodup) (identifier : String)
    (version : Int) : cacheKey identifier version xs = cacheKey identifier version ys := by
  rw [cacheKey, cacheKey, hperm.any_eq, (Fields.sorted_eq_iff_perm hunique).2 hperm]

section Evaluation

variable {m : Measure} {ps : List Parameter} {supplied values others : Fields Value}
  {db : Database} {identifier : String} {version : Option Int}

/-- In another order, the same values are settled. -/
theorem resolve_reordered (hps : ps.Perm m.parameters) (h : m.resolve supplied = .ok values) :
    ∃ others, (m.reordered ps hps).resolve supplied = .ok others ∧ others.Perm values := by
  have hvalues := resolve_eq_ok_iff.1 ⟨values, h⟩
  refine ⟨_, resolveFrom_eq_ok_of_hasValue _ fun p hp => hvalues p (hps.subset hp), ?_⟩
  rw [resolveFrom_eq_ok h]
  exact hps.map _

theorem prepareMeasure_of_resolve (hfind : findMeasure db identifier version = .ok m)
    (h : m.resolve supplied = .ok values) :
    prepareMeasure db identifier version supplied =
      (MeasureCall.mk m values ·) <$>
        (cacheKey m.identifier m.version values).mapError ValueError.toFailure := by
  rw [prepareMeasure, hfind, ok_bind, h]
  rfl

/-- Measures that find the same under every name have the same value. -/
theorem compute_reordered (hps : ps.Perm m.parameters) (limits : Expression.Limits)
    (h : ∀ name, (context others).get? name = (context values).get? name) :
    (m.reordered ps hps).compute limits others = m.compute limits values := by
  rw [compute, compute, Expression.evaluate_of_agreeOn limits fun name _ => h name]
  rfl

end Evaluation

/-- **The order of parameters makes no difference to the value of a measure**, unless two of them
contest a name.  For a measure, another order of its parameters, and whatever is supplied so that
all of them have a value:

* both are settled, under the same key;
* every parameter is found under its own name exactly if none stands before one that it contests its
  name with;
* an expression finds the same under every name exactly if all contests end alike;
* and if they do, then an evaluation has the same result or failure, with any cache or without. -/
theorem evaluate_reordered (m : Measure) {ps : List Parameter} (hps : ps.Perm m.parameters)
    {supplied : Fields Value} (hvalues : ∀ p ∈ m.parameters, HasValue supplied p) :
    ∃ values others, m.resolve supplied = .ok values ∧
      (m.reordered ps hps).resolve supplied = .ok others ∧
      (∀ identifier version,
        cacheKey identifier version others = cacheKey identifier version values) ∧
      ((∀ e ∈ values, (context values).get? e.1 = some e.2) ↔
        ∀ e f, List.Sublist [e, f] values → ¬ Contest e f) ∧
      ((∀ name, (context others).get? name = (context values).get? name) ↔
        ∀ e f, Contest e f → (List.Sublist [e, f] others ↔ List.Sublist [e, f] values)) ∧
      ((∀ e f, Contest e f → (List.Sublist [e, f] others ↔ List.Sublist [e, f] values)) →
        ∀ db db' limits identifier version, findMeasure db identifier version = .ok m →
          findMeasure db' identifier version = .ok (m.reordered ps hps) →
          evaluateMeasure db' limits ⟨identifier, version, supplied⟩ =
              evaluateMeasure db limits ⟨identifier, version, supplied⟩ ∧
            ∀ cache, evaluateMeasureWith db' limits cache ⟨identifier, version, supplied⟩ =
              evaluateMeasureWith db limits cache ⟨identifier, version, supplied⟩) := by
  obtain ⟨values, hresolve⟩ := resolve_eq_ok_iff.2 hvalues
  obtain ⟨others, hothers, hperm⟩ := resolve_reordered hps hresolve
  have hunique : values.names.Nodup := names_of_resolve hresolve ▸ m.unique
  have hunique' : others.names.Nodup := (hperm.map Prod.fst).nodup_iff.2 hunique
  have hkey := cacheKey_of_perm hperm hunique'
  refine ⟨values, others, hresolve, hothers, hkey, own_names_iff hunique,
    context_agree_iff hperm hunique', fun horder db db' limits identifier version hm hm' => ?_⟩
  have hcompute := compute_reordered hps limits
    ((context_agree_iff hperm hunique').2 horder)
  have hprepare := prepareMeasure_of_resolve hm hresolve
  have hprepare' := prepareMeasure_of_resolve hm' hothers
  rw [show cacheKey (m.reordered ps hps).identifier (m.reordered ps hps).version others =
    cacheKey m.identifier m.version values from hkey _ _] at hprepare'
  refine ⟨?_, fun cache => ?_⟩
  · rw [evaluateMeasure, evaluateMeasure, hprepare, hprepare']
    cases cacheKey m.identifier m.version values with
    | error e => rfl
    | ok key =>
      dsimp only [mapError_ok, map_ok, ok_bind]
      rw [hcompute]
      rfl
  · rw [evaluateMeasureWith, evaluateMeasureWith, hprepare, hprepare']
    cases cacheKey m.identifier m.version values with
    | error e => rfl
    | ok key =>
      dsimp only [mapError_ok, map_ok, MeasureCall.evaluateWith]
      rw [hcompute]
      rfl

namespace Fee

/-- A fee whose rate can be given twice, and a note about it. -/
def measure : Measure :=
  { id := some "fee-1", identifier := "fee", version := 1, name := none, description := none
    parameters := [⟨"rate", .null, none⟩, ⟨"$rate", .null, none⟩, ⟨"note", .null, none⟩]
    expression := "$rate", returnType := .string, unique := by decide }

/-- The first parameters of the fee come last: two of them for the note to be the first, one for the
rates to be swapped. -/
def turned (n : Nat) : Measure :=
  measure.reordered (measure.parameters.rotate n) (List.rotate_perm _ n)

/-- Different rates. -/
def supplied : Fields Value := [("rate", .text "low"), ("$rate", .text "high"), ("note", .null)]

/-- What a measure yields for different rates. -/
def result (m : Measure) : Result MeasureResult :=
  evaluateMeasure { tables := some { measures := [m] } } {} ⟨"fee", none, supplied⟩

/-- Every parameter has a value. -/
theorem hasValue : ∀ p ∈ measure.parameters, HasValue supplied p := by
  simp [measure, supplied, HasValue, Fields.names]

end Fee

/-- The rates contest a name, but as long as they keep their order, the note can go anywhere. -/
theorem evaluate_reordered_note :
    Fee.result (Fee.turned 2) = Fee.result Fee.measure ∧
      Fee.result Fee.measure = .ok ⟨"fee", 1, .text "high"⟩ := by
  obtain ⟨values, others, hvalues, hothers, -, -, -, hsame⟩ :=
    evaluate_reordered Fee.measure (List.rotate_perm _ 2) Fee.hasValue
  have hnames := names_of_resolve hvalues
  have hnames' := names_of_resolve hothers
  -- in neither order does the second rate stand before the first
  have hnone : ∀ {e f : String × Value} {zs : Fields Value}, Contest e f →
      zs.names = ["rate", "$rate", "note"] ∨ zs.names = ["note", "rate", "$rate"] →
        ¬ List.Sublist [e, f] zs := by
    intro e f zs hcontest hzs hef
    have hsub : List.Sublist ["$" ++ f.1, f.1] zs.names := hcontest.1 ▸ hef.map Prod.fst
    have hmem : f.1 ∈ zs.names := hsub.subset (by simp)
    generalize f.1 = name at hsub hmem
    rcases hzs with hzs | hzs <;> rw [hzs] at hsub hmem <;>
      revert hsub <;> revert name <;> decide
  refine ⟨(hsame (fun e f hcontest => iff_of_false (hnone hcontest (.inr hnames'))
    (hnone hcontest (.inl hnames))) _ _ {} "fee" none rfl rfl).1, rfl⟩

/-- Two rates that differ contest a name, and the one that is declared later is found. -/
theorem evaluate_reordered_contest :
    (∀ p ∈ Fee.measure.parameters, HasValue Fee.supplied p) ∧
      Fee.result Fee.measure = .ok ⟨"fee", 1, .text "high"⟩ ∧
      Fee.result (Fee.turned 1) = .ok ⟨"fee", 1, .text "low"⟩ :=
  ⟨Fee.hasValue, rfl, rfl⟩

end Measure
end RecordRules
