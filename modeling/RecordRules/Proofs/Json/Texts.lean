import RecordRules.Json.Reader
import RecordRules.Json.Writer
import RecordRules.Proofs.Store.Keys

/-!
# Texts in JSON

A text in JSON ends where it says so: whatever follows, two texts begin with the same text or come
apart.

* `Text.Told` are the texts that their units tell.  Every text that is read from JSON is one.
* `Json.encodeUnit_append_inj` is the statement for one unit, `Json.encodeText_append_inj` the one
  for texts.
-/

set_option autoImplicit false

namespace RecordRules

/-! ## Units -/

namespace Text

/-- The code point of a character, or the unit that it stands for. -/
def code (c : Char) : Nat := (half? c).getD c.toNat

/-- The UTF-16 units of a character, or of half of one. -/
def units (c : Char) : List Nat :=
  if code c < 0x10000 then [code c]
  else [0xD800 + (code c - 0x10000) / 0x400, 0xDC00 + (code c - 0x10000) % 0x400]

/-- A text that its units tell: no two of its characters are the halves of one. -/
def Told (s : String) : Prop := ofUnits (s.toList.flatMap units) = s.toList

instance (s : String) : Decidable (Told s) := inferInstanceAs (Decidable (_ = _))

theorem toNat_lt (c : Char) : c.toNat < 0x110000 := by
  have h := c.valid
  rw [UInt32.isValidChar, Nat.isValidChar] at h
  exact h.elim (fun h => Nat.lt_trans h (by decide)) And.right

theorem toNat_ofNat {n : Nat} (h : n < 0x80) : (Char.ofNat n).toNat = n := by
  rw [Char.ofNat, dif_pos (.inl (by omega))]
  rfl

theorem code_of_lt {c : Char} (h : c.toNat < 0x80) : code c = c.toNat := by
  rw [code, half?, if_neg, Option.getD_none]
  rw [Bool.and_eq_true, decide_eq_true_eq, decide_eq_true_eq, firstStandIn]
  omega

theorem le_code {c : Char} (h : 0x80 ≤ c.toNat) : 0x80 ≤ code c := by
  rw [code, half?]
  split
  · rw [Option.getD_some, firstHalf]
    omega
  · exact h

theorem code_lt (c : Char) : code c < 0x110000 := by
  have h := toNat_lt c
  rw [code, half?]
  split
  · rename_i hhalf
    rw [Bool.and_eq_true, decide_eq_true_eq, decide_eq_true_eq] at hhalf
    simp only [firstStandIn, halfCount, firstHalf, Option.getD_some] at hhalf ⊢
    omega
  · exact h

theorem units_lt (c : Char) : ∀ n ∈ units c, n < 0x10000 := by
  intro n hn
  have h := code_lt c
  rw [units] at hn
  split at hn
  · rwa [List.mem_singleton.1 hn]
  · rw [List.mem_cons, List.mem_singleton] at hn
    omega

end Text

namespace Json

/-! ## Texts -/

/-- A unit inside a text. -/
def encodeUnit (n : Nat) : List Char := if n < 0x80 then encodeChar (Char.ofNat n) else escapeUnit n

theorem encodeChar_of_le {c : Char} (h : 0x80 ≤ c.toNat) : encodeChar c = escapeChar c := by
  have hne : ∀ d : Char, d.toNat < 0x80 → ¬ (c == d) = true := fun d hd heq => by
    rw [beq_iff_eq.1 heq] at h
    omega
  have hplain : ¬ (decide (' ' ≤ c) && decide (c ≤ '~')) = true := by
    rw [Bool.and_eq_true, decide_eq_true_eq, decide_eq_true_eq]
    rintro ⟨-, hle⟩
    have : c.toNat ≤ 126 := hle
    omega
  rw [encodeChar, if_neg (hne _ (by decide)), if_neg (hne _ (by decide)),
    if_neg (hne _ (by decide)), if_neg (hne _ (by decide)), if_neg (hne _ (by decide)),
    if_neg (hne _ (by decide)), if_neg (hne _ (by decide)), if_neg hplain]

/-- A character is written unit by unit. -/
theorem encodeChar_eq_units (c : Char) : encodeChar c = (Text.units c).flatMap encodeUnit := by
  rcases Nat.lt_or_ge c.toNat 0x80 with h | h
  · rw [Text.units, Text.code_of_lt h, if_pos (by omega), List.flatMap_singleton, encodeUnit,
      if_pos h, Char.ofNat_toNat]
  · have hcode := Text.le_code h
    rw [encodeChar_of_le h, escapeChar, Text.units, ← Text.code]
    split
    · rw [List.flatMap_singleton, encodeUnit, if_neg (by omega)]
    · rw [List.flatMap_cons, List.flatMap_singleton, encodeUnit, if_neg (by omega), encodeUnit,
        if_neg (by omega)]

/-- A unit is written as an escape with a letter, as its character, or as an escape with its
digits. -/
theorem encodeUnit_cases (n : Nat) :
    (∃ letter, encodeUnit n = ['\\', letter] ∧ letter ≠ 'u' ∧
        simpleEscape? letter = some (Char.ofNat n) ∧ n < 0x80) ∨
      (encodeUnit n = [Char.ofNat n] ∧ Char.ofNat n ≠ '"' ∧ Char.ofNat n ≠ '\\' ∧ n < 0x80) ∨
      encodeUnit n = escapeUnit n := by
  rw [encodeUnit]
  split
  · rename_i h
    have htoNat := Text.toNat_ofNat h
    obtain ⟨text, htext⟩ : ∃ text, encodeChar (Char.ofNat n) = text := ⟨_, rfl⟩
    rw [htext]
    rw [encodeChar] at htext
    have hnamed : ∀ {letter c : Char}, (Char.ofNat n == c) = true → letter ≠ 'u' →
        simpleEscape? letter = some c → ∃ l, ['\\', letter] = ['\\', l] ∧ l ≠ 'u' ∧
          simpleEscape? l = some (Char.ofNat n) ∧ n < 0x80 :=
      fun hc hu he => ⟨_, rfl, hu, he.trans (congrArg some (beq_iff_eq.1 hc).symm), h⟩
    split_ifs at htext with hquote hslash hline hreturn htab hback hfeed hplain <;> subst htext
    · exact .inl (hnamed hquote (by decide) rfl)
    · exact .inl (hnamed hslash (by decide) rfl)
    · exact .inl (hnamed hline (by decide) rfl)
    · exact .inl (hnamed hreturn (by decide) rfl)
    · exact .inl (hnamed htab (by decide) rfl)
    · exact .inl (hnamed hback (by decide) rfl)
    · exact .inl (hnamed hfeed (by decide) rfl)
    · exact .inr (.inl ⟨rfl, fun h => hquote (beq_iff_eq.2 h), fun h => hslash (beq_iff_eq.2 h), h⟩)
    · refine .inr (.inr ?_)
      rw [escapeChar, ← Text.code, Text.code_of_lt (by omega), htoNat, if_pos (by omega)]
  · exact .inr (.inr rfl)

theorem encodeUnit_append_inj {m n : Nat} (hm : m < 0x10000) (hn : n < 0x10000) {s t : List Char}
    (h : encodeUnit m ++ s = encodeUnit n ++ t) : m = n ∧ s = t := by
  have hchar : ∀ {m n : Nat}, m < 0x80 → n < 0x80 → Char.ofNat m = Char.ofNat n → m = n := by
    intro m n hm hn h
    have h := congrArg Char.toNat h
    rwa [Text.toNat_ofNat hm, Text.toNat_ofNat hn] at h
  rcases encodeUnit_cases m with ⟨a, ha, hau, hae, hml⟩ | ⟨ha, haq, has, hml⟩ | ha <;>
    rcases encodeUnit_cases n with ⟨b, hb, hbu, hbe, hnl⟩ | ⟨hb, hbq, hbs, hnl⟩ | hb <;>
    rw [ha, hb] at h
  · obtain ⟨hletter, hrest⟩ := List.cons.inj (List.cons.inj h).2
    rw [← hletter, hae, Option.some.injEq] at hbe
    exact ⟨hchar hml hnl hbe, hrest⟩
  · exact (hbs (List.cons.inj h).1.symm).elim
  · exact (hau (List.cons.inj (List.cons.inj h).2).1).elim
  · exact (has (List.cons.inj h).1).elim
  · obtain ⟨h, hrest⟩ := List.cons.inj h
    exact ⟨hchar hml hnl h, hrest⟩
  · exact (has (List.cons.inj h).1).elim
  · exact (hbu (List.cons.inj (List.cons.inj h).2).1.symm).elim
  · exact (hbs (List.cons.inj h).1.symm).elim
  · have h := (List.cons.inj (List.cons.inj h).2).2
    obtain ⟨hdigits, hrest⟩ := List.append_inj h
      (by rw [Text.length_hexDigits, Text.length_hexDigits])
    exact ⟨Text.hexDigits_inj hm hn hdigits, hrest⟩

/-- What units are written as begins with no quote. -/
theorem encodeUnit_ne_quote (n : Nat) (s t : List Char) : encodeUnit n ++ s ≠ '"' :: t := by
  intro h
  rcases encodeUnit_cases n with ⟨letter, heq, -⟩ | ⟨heq, hne, -⟩ | heq <;> rw [heq] at h
  · exact absurd (List.cons.inj h).1 (by decide)
  · exact hne (List.cons.inj h).1
  · exact absurd (List.cons.inj h).1 (by decide)

theorem encodeUnits_append_inj {us vs : List Nat} (hu : ∀ n ∈ us, n < 0x10000)
    (hv : ∀ n ∈ vs, n < 0x10000) {s t : List Char}
    (h : us.flatMap encodeUnit ++ '"' :: s = vs.flatMap encodeUnit ++ '"' :: t) :
    us = vs ∧ s = t := by
  induction us generalizing vs with
  | nil =>
    cases vs with
    | nil => exact ⟨rfl, (List.cons.inj h).2⟩
    | cons n vs =>
      rw [List.flatMap_cons, List.append_assoc] at h
      exact (encodeUnit_ne_quote n _ _ h.symm).elim
  | cons m us ih =>
    rw [List.flatMap_cons, List.append_assoc] at h
    cases vs with
    | nil => exact (encodeUnit_ne_quote m _ _ h).elim
    | cons n vs =>
      rw [List.flatMap_cons, List.append_assoc] at h
      obtain ⟨rfl, htail⟩ := encodeUnit_append_inj (hu m (List.mem_cons_self ..))
        (hv n (List.mem_cons_self ..)) h
      obtain ⟨rfl, hrest⟩ := ih (fun k hk => hu k (List.mem_cons_of_mem _ hk))
        (fun k hk => hv k (List.mem_cons_of_mem _ hk)) htail
      exact ⟨rfl, hrest⟩

/-- **A text in JSON ends where it says so.** -/
theorem encodeText_append_inj {a b : String} (ha : Text.Told a) (hb : Text.Told b)
    {s t : List Char} (h : encodeText a ++ s = encodeText b ++ t) : a = b ∧ s = t := by
  have hunits : ∀ a : String, encodeText a =
      '"' :: ((a.toList.flatMap Text.units).flatMap encodeUnit ++ ['"']) := fun a => by
    rw [encodeText, List.flatMap_assoc, funext encodeChar_eq_units]
    rfl
  have hlt : ∀ (a : String), ∀ n ∈ a.toList.flatMap Text.units, n < 0x10000 := fun a n hn => by
    obtain ⟨c, -, hn⟩ := List.mem_flatMap.1 hn
    exact Text.units_lt c n hn
  rw [hunits, hunits, List.cons_append, List.cons_append, List.append_assoc, List.append_assoc] at h
  obtain ⟨heq, hrest⟩ := encodeUnits_append_inj (hlt a) (hlt b) (List.cons.inj h).2
  refine ⟨String.toList_inj.1 ?_, hrest⟩
  rw [← ha, heq, hb]

end Json

end RecordRules
