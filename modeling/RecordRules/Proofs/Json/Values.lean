import RecordRules.Proofs.Json.Texts
import RecordRules.Proofs.Number.Written
import RecordRules.Proofs.Value.Ordered

/-!
# Values in JSON

A value in JSON ends where it says so: whatever follows, two texts begin with the same value or
come apart.

* `Value.IsJson` are the values that JSON can denote.
* `Json.encode_append_inj` is the statement for values with their entries as given.
* `Json.encode_byName_append_inj` is the one with the entries by name, whose order is then lost.
-/

set_option autoImplicit false

namespace RecordRules

/-! ## Values -/

namespace Value

mutual

/-- A value that JSON can denote. -/
def IsJson : Value → Prop
  | .null => True
  | .bool _ => True
  | .int _ => True
  | .float x => x.isNaN = false ∧ x.isInf = false
  | .text s => Text.Told s
  | .list items => AreJson items
  | .map entries => EntriesJson entries
  | _ => False

/-- Items that JSON can denote. -/
def AreJson : List Value → Prop
  | [] => True
  | v :: rest => v.IsJson ∧ AreJson rest

/-- Entries that JSON can denote. -/
def EntriesJson : List (String × Value) → Prop
  | [] => True
  | (name, v) :: rest => (Text.Told name ∧ v.IsJson) ∧ EntriesJson rest

end

theorem areJson_iff {items : List Value} : AreJson items ↔ ∀ v ∈ items, v.IsJson := by
  induction items with
  | nil => simp [AreJson]
  | cons v rest ih => rw [AreJson, ih, List.forall_mem_cons]

theorem entriesJson_iff {entries : List (String × Value)} :
    EntriesJson entries ↔ ∀ e ∈ entries, Text.Told e.1 ∧ e.2.IsJson := by
  induction entries with
  | nil => simp [EntriesJson]
  | cons e rest ih => rw [EntriesJson, ih, List.forall_mem_cons]

end Value

namespace Json

theorem encodeItems_eq_map (order : EntryOrder) (items : List Value) :
    encodeItems order items = items.map (encode order) := by
  induction items with
  | nil => rfl
  | cons v rest ih => rw [encodeItems, ih, List.map_cons]

theorem encodeEntries_eq_map (order : EntryOrder) (entries : List (String × Value)) :
    encodeEntries order entries = entries.map fun e => (e.1, encode order e.2) := by
  induction entries with
  | nil => rfl
  | cons e rest ih => rw [encodeEntries, ih, List.map_cons]

/-- An entry in JSON. -/
def encodeEntry (e : String × Value) : List Char :=
  encodeText e.1 ++ ':' :: ' ' :: encode .asGiven e.2

theorem encode_list (items : List Value) : encode .asGiven (.list items) =
    '[' :: (commaSeparated (items.map (encode .asGiven)) ++ [']']) := by
  rw [encode, encodeItems_eq_map]
  rfl

theorem encode_map (entries : List (String × Value)) : encode .asGiven (.map entries) =
    '\x7b' :: (commaSeparated (entries.map encodeEntry) ++ ['\x7d']) := by
  rw [encode, encodeEntryTexts, encodeEntries_eq_map]
  dsimp only
  rw [List.map_map]
  rfl

/-! ### Words and numbers -/

/-- The characters of words and numbers. -/
def isToken (c : Char) : Bool := Double.Layout.isNumeral c || ('a' ≤ c && c ≤ 'z')

/-- Whether a value is written without brackets and quotes. -/
def isPlain : Value → Bool
  | .null => true
  | .bool _ => true
  | .int _ => true
  | .float _ => true
  | _ => false

/-- An integer is written by digits, behind a minus if it is negative. -/
theorem toString_toList (n : Int) : ∃ k, (toString n).toList = Nat.toDigits 10 k ∨
    (toString n).toList = '-' :: Nat.toDigits 10 k := by
  rw [Double.toString_int]
  split
  · exact ⟨_, .inr rfl⟩
  · exact ⟨_, .inl rfl⟩

theorem toString_chars (n : Int) : ∀ c ∈ (toString n).toList, c.isDigit = true ∨ c = '-' := by
  intro c hc
  obtain ⟨k, htext | htext⟩ := toString_toList n <;> rw [htext] at hc
  · exact .inl (Double.allDigits_toDigits k c hc)
  · exact (List.mem_cons.1 hc).symm.imp_left (Double.allDigits_toDigits k c)

theorem toString_ne_nil (n : Int) : (toString n).toList ≠ [] := by
  obtain ⟨k, htext | htext⟩ := toString_toList n <;> rw [htext]
  · exact List.length_pos_iff.1 Nat.length_toDigits_pos
  · exact List.cons_ne_nil _ _

theorem toString_inj {m n : Int} (h : (toString m).toList = (toString n).toList) : m = n := by
  have h := congrArg String.toInt? (String.toList_inj.1 h)
  rwa [Int.toString_eq_repr, Int.toString_eq_repr, Int.toInt?_repr, Int.toInt?_repr,
    Option.some.injEq] at h

theorem isNumeral_of_digit {c : Char} (h : c.isDigit = true ∨ c = '-') :
    Double.Layout.isNumeral c = true := by
  rcases h with h | rfl
  · rw [Double.Layout.isNumeral, h]
    rfl
  · rfl

/-- The text of a finite double, which JSON takes over. -/
theorem encode_float {x : Float} (h : (Value.float x).IsJson) :
    encode .asGiven (.float x) = (Double.written x).toList ∧
      ∃ p, Double.parts? x = some p := by
  obtain ⟨hnan, hinf⟩ := h
  refine ⟨?_, ?_⟩
  · rw [encode, encodeFloat, hnan, hinf]
    rfl
  · cases hparts : Double.parts? x with
    | some p => exact ⟨p, rfl⟩
    | none =>
      rw [Double.isInf_of_parts?_eq_none hparts hnan] at hinf
      cases hinf

theorem isToken_of_mem {v : Value} (hv : v.IsJson) (hplain : isPlain v = true) :
    ∀ c ∈ encode .asGiven v, isToken c = true := by
  have hnumeral : ∀ {c : Char}, Double.Layout.isNumeral c = true → isToken c = true := fun h => by
    rw [isToken, h]
    rfl
  cases v with
  | null => simp [encode, isToken]
  | bool b => cases b <;> simp [encode, isToken]
  | int n => exact fun c hc => hnumeral (isNumeral_of_digit (toString_chars n c hc))
  | float x =>
    obtain ⟨htext, p, hp⟩ := encode_float hv
    rw [htext]
    exact fun c hc => hnumeral ((Double.written_chars hp).1 c hc)
  | _ => cases hplain

theorem encode_ne_nil {v : Value} (hv : v.IsJson) (hplain : isPlain v = true) :
    encode .asGiven v ≠ [] := by
  cases v with
  | null => decide
  | bool b => cases b <;> decide
  | int n => exact toString_ne_nil n
  | float x =>
    obtain ⟨htext, p, hp⟩ := encode_float hv
    obtain ⟨-, c, hc, -⟩ := Double.written_chars hp
    rw [htext]
    exact List.ne_nil_of_mem hc
  | _ => cases hplain

/-- Whether a text has nothing but numerals, and whether it has a mark of a double. -/
def traits (cs : List Char) : Bool × Bool :=
  (cs.all Double.Layout.isNumeral, cs.any fun c => c == '.' || c == 'e')

/-- The traits of words and numbers, which tell their kinds. -/
def plainTraits : Value → Bool × Bool
  | .null => (false, false)
  | .bool _ => (false, true)
  | .int _ => (true, false)
  | _ => (true, true)

theorem traits_encode {v : Value} (hv : v.IsJson) (hplain : isPlain v = true) :
    traits (encode .asGiven v) = plainTraits v := by
  cases v with
  | null => simp [traits, plainTraits, encode, Double.Layout.isNumeral]
  | bool b => cases b <;> simp [traits, plainTraits, encode, Double.Layout.isNumeral]
  | int n =>
    refine Prod.ext (List.all_eq_true.2 fun c hc => isNumeral_of_digit (toString_chars n c hc))
      (List.any_eq_false.2 fun c hc hmark => ?_)
    rw [Bool.or_eq_true, beq_iff_eq, beq_iff_eq] at hmark
    rcases hmark with rfl | rfl <;> exact absurd (toString_chars n _ hc) (by decide)
  | float x =>
    obtain ⟨htext, p, hp⟩ := encode_float hv
    obtain ⟨hnumeral, c, hc, hmark⟩ := Double.written_chars hp
    rw [htext]
    refine Prod.ext (List.all_eq_true.2 hnumeral) (List.any_eq_true.2 ⟨c, hc, ?_⟩)
    rw [Bool.or_eq_true, beq_iff_eq, beq_iff_eq]
    exact hmark
  | _ => cases hplain

/-- Words and numbers tell themselves. -/
theorem encode_plain_inj {v w : Value} (hv : v.IsJson) (hw : w.IsJson) (hvp : isPlain v = true)
    (hwp : isPlain w = true) (h : encode .asGiven v = encode .asGiven w) : v = w := by
  have htraits : plainTraits v = plainTraits w := by
    rw [← traits_encode hv hvp, h, traits_encode hw hwp]
  cases v with
  | null =>
    cases w with
    | null => rfl
    | _ => cases htraits
  | bool a =>
    cases w with
    | bool b => cases a <;> cases b <;> first | rfl | exact absurd h (by decide)
    | _ => cases htraits
  | int m =>
    cases w with
    | int n => rw [toString_inj h]
    | _ => cases htraits
  | float x =>
    cases w with
    | float y =>
      obtain ⟨hx, p, hp⟩ := encode_float hv
      obtain ⟨hy, q, hq⟩ := encode_float hw
      rw [hx, hy, String.toList_inj] at h
      rw [Double.written_inj hp hq h]
    | null | bool _ | int _ => cases htraits
    | _ => cases hwp
  | _ => cases hvp

/-! ### Brackets -/

/-- What can stand behind a value: nothing, a comma, or a bracket that closes. -/
def Ends (s : List Char) : Prop := ∀ c ∈ s.head?, c = ',' ∨ c = ']' ∨ c = '\x7d'

theorem ends_nil : Ends [] := nofun

theorem ends_cons {c : Char} (h : c = ',' ∨ c = ']' ∨ c = '\x7d') (s : List Char) :
    Ends (c :: s) := by
  rintro _ ⟨⟩
  exact h

theorem isToken_end {c : Char} (h : c = ',' ∨ c = ']' ∨ c = '\x7d') : isToken c = false := by
  rcases h with rfl | rfl | rfl <;> rfl

/-- The character with which a value opens if it is a text, a list or a map. -/
def opening? : Value → Option Char
  | .text _ => some '"'
  | .list _ => some '['
  | .map _ => some '\x7b'
  | _ => none

theorem isToken_opening {v : Value} {c : Char} (h : opening? v = some c) : isToken c = false := by
  cases v <;> cases h <;> rfl

theorem isPlain_iff {v : Value} (hv : v.IsJson) : isPlain v = true ↔ opening? v = none := by
  cases v with
  | nan _ | tuple _ | date _ | moment _ => exact hv.elim
  | _ => simp [isPlain, opening?]

/-- A value begins with its opening character, or else with a word or a number. -/
theorem head_encode {v : Value} (hv : v.IsJson) : ∃ c rest, encode .asGiven v = c :: rest ∧
    (opening? v = some c ∨ (opening? v = none ∧ isToken c = true)) := by
  have hplain : opening? v = none → ∃ c rest, encode .asGiven v = c :: rest ∧
      (opening? v = some c ∨ (opening? v = none ∧ isToken c = true)) := by
    intro hnone
    have hplain := (isPlain_iff hv).2 hnone
    obtain ⟨c, rest, heq⟩ := List.exists_cons_of_ne_nil (encode_ne_nil hv hplain)
    exact ⟨c, rest, heq, .inr ⟨hnone,
      isToken_of_mem hv hplain c (by rw [heq]; exact List.mem_cons_self ..)⟩⟩
  cases v with
  | text s => exact ⟨_, _, rfl, .inl rfl⟩
  | list items => exact ⟨_, _, encode_list items, .inl rfl⟩
  | map entries => exact ⟨_, _, encode_map entries, .inl rfl⟩
  | _ => exact hplain rfl

/-- Values that begin alike open alike. -/
theorem opening?_eq {v w : Value} (hv : v.IsJson) (hw : w.IsJson) {s t : List Char}
    (h : encode .asGiven v ++ s = encode .asGiven w ++ t) : opening? v = opening? w := by
  obtain ⟨c, rest, hveq, hvc⟩ := head_encode hv
  obtain ⟨d, rest', hweq, hwd⟩ := head_encode hw
  rw [hveq, hweq] at h
  obtain rfl := (List.cons.inj h).1
  rcases hvc with hvc | ⟨hvnone, htoken⟩ <;> rcases hwd with hwd | ⟨hwnone, htoken'⟩
  · rw [hvc, hwd]
  · rw [isToken_opening hvc] at htoken'
    cases htoken'
  · rw [isToken_opening hwd] at htoken
    cases htoken
  · rw [hvnone, hwnone]

/-- What begins with a value begins with no bracket that closes. -/
theorem encode_append_ne {v : Value} (hv : v.IsJson) (s t : List Char) :
    encode .asGiven v ++ s ≠ ']' :: t := by
  obtain ⟨c, rest, heq, hc⟩ := head_encode hv
  rw [heq]
  intro h
  obtain rfl := (List.cons.inj h).1
  rcases hc with hc | ⟨-, hc⟩
  · cases v <;> cases hc
  · cases hc

/-! ### Sequences -/

section Sequences

variable {α : Type} {f : α → List Char} {close : Char}

/-- The rest of a sequence behind its first item. -/
def sequenceTail (close : Char) (items : List (List Char)) (s : List Char) : List Char :=
  match items with
  | [] => close :: s
  | items => ',' :: ' ' :: (commaSeparated items ++ close :: s)

theorem commaSeparated_cons (item : List Char) (rest : List (List Char)) (s : List Char) :
    commaSeparated (item :: rest) ++ close :: s = item ++ sequenceTail close rest s := by
  cases rest with
  | nil => rfl
  | cons next rest =>
    rw [commaSeparated, sequenceTail, List.append_assoc]
    · rfl
    · exact nofun
    · exact nofun

theorem commaSeparated_of_tail (hclose : close ≠ ',') {items others : List (List Char)}
    {s t : List Char} (h : sequenceTail close items s = sequenceTail close others t) :
    commaSeparated items ++ close :: s = commaSeparated others ++ close :: t := by
  cases items with
  | nil =>
    cases others with
    | nil => exact h
    | cons _ _ => exact (hclose (List.cons.inj h).1).elim
  | cons _ _ =>
    cases others with
    | nil => exact (hclose (List.cons.inj h).1.symm).elim
    | cons _ _ => exact (List.cons.inj (List.cons.inj h).2).2

theorem ends_sequenceTail (hclose : close = ']' ∨ close = '\x7d') (items : List (List Char))
    (s : List Char) : Ends (sequenceTail close items s) := by
  cases items with
  | nil => exact ends_cons (.inr hclose) s
  | cons _ _ => exact ends_cons (.inl rfl) _

/-- Sequences tell their items if each item tells itself. -/
theorem commaSeparated_append_inj (hclose : close = ']' ∨ close = '\x7d') {xs ys : List α}
    (htold : ∀ x ∈ xs, ∀ y ∈ ys, ∀ s t, Ends s → Ends t → f x ++ s = f y ++ t → x = y ∧ s = t)
    (hxs : ∀ x ∈ xs, ∀ s t, f x ++ s ≠ close :: t) (hys : ∀ y ∈ ys, ∀ s t, f y ++ s ≠ close :: t)
    {s t : List Char}
    (h : commaSeparated (xs.map f) ++ close :: s = commaSeparated (ys.map f) ++ close :: t) :
    xs = ys ∧ s = t := by
  have hcomma : close ≠ ',' := by rcases hclose with rfl | rfl <;> decide
  induction xs generalizing ys with
  | nil =>
    cases ys with
    | nil => exact ⟨rfl, (List.cons.inj h).2⟩
    | cons y ys =>
      rw [List.map_cons, commaSeparated_cons] at h
      exact (hys y (List.mem_cons_self ..) _ _ h.symm).elim
  | cons x xs ih =>
    rw [List.map_cons, commaSeparated_cons] at h
    cases ys with
    | nil => exact (hxs x (List.mem_cons_self ..) _ _ h).elim
    | cons y ys =>
      rw [List.map_cons, commaSeparated_cons] at h
      obtain ⟨rfl, htail⟩ := htold x (List.mem_cons_self ..) y (List.mem_cons_self ..) _ _
        (ends_sequenceTail hclose _ _) (ends_sequenceTail hclose _ _) h
      obtain ⟨rfl, hrest⟩ := ih
        (fun x hx y hy => htold x (List.mem_cons_of_mem _ hx) y (List.mem_cons_of_mem _ hy))
        (fun x hx => hxs x (List.mem_cons_of_mem _ hx))
        (fun y hy => hys y (List.mem_cons_of_mem _ hy)) (commaSeparated_of_tail hcomma htail)
      exact ⟨rfl, hrest⟩

end Sequences

/-! ### Values -/

/-- The text of a value tells the value. -/
def Tells (v : Value) : Prop :=
  ∀ {w : Value} {s t : List Char}, w.IsJson → Ends s → Ends t →
    encode .asGiven v ++ s = encode .asGiven w ++ t → v = w ∧ s = t

theorem tells_plain {v : Value} (hv : v.IsJson) (hplain : isPlain v = true) : Tells v := by
  intro w s t hw hs ht h
  have hwp : isPlain w = true :=
    (isPlain_iff hw).2 ((opening?_eq hv hw h).symm.trans ((isPlain_iff hv).1 hplain))
  have hrest : ∀ {s : List Char}, Ends s → ∀ c ∈ s.head?, isToken c = false :=
    fun hs c hc => isToken_end (hs c hc)
  have hspan := congrArg (List.span isToken) h
  rw [Double.span_append (isToken_of_mem hv hplain) (hrest hs),
    Double.span_append (isToken_of_mem hw hwp) (hrest ht), Prod.mk.injEq] at hspan
  exact ⟨encode_plain_inj hv hw hplain hwp hspan.1, hspan.2⟩

theorem tells_text {a : String} (ha : Text.Told a) : Tells (.text a) := by
  intro w s t hw _ _ h
  have hopening := opening?_eq (v := .text a) ha hw h
  cases w with
  | text b =>
    obtain ⟨rfl, hrest⟩ := encodeText_append_inj ha hw h
    exact ⟨rfl, hrest⟩
  | _ => cases hopening

theorem tells_list {items : List Value} (hv : (Value.list items).IsJson)
    (hitems : ∀ v ∈ items, Tells v) : Tells (.list items) := by
  intro w s t hw _ _ h
  have hopening := opening?_eq hv hw h
  cases w with
  | list others =>
    have hv := Value.areJson_iff.1 hv
    have hw := Value.areJson_iff.1 hw
    rw [encode_list, encode_list, List.cons_append, List.cons_append, List.append_assoc,
      List.append_assoc] at h
    obtain ⟨rfl, hrest⟩ := commaSeparated_append_inj (.inl rfl)
      (fun x hx y hy _ _ hs ht h => hitems x hx (hw y hy) hs ht h)
      (fun x hx => encode_append_ne (hv x hx)) (fun y hy => encode_append_ne (hw y hy))
      (List.cons.inj h).2
    exact ⟨rfl, hrest⟩
  | _ => cases hopening

theorem tells_map {entries : List (String × Value)} (hv : (Value.map entries).IsJson)
    (hentries : ∀ e ∈ entries, Tells e.2) : Tells (.map entries) := by
  intro w s t hw _ _ h
  have hopening := opening?_eq hv hw h
  cases w with
  | map others =>
    have hv := Value.entriesJson_iff.1 hv
    have hw := Value.entriesJson_iff.1 hw
    have hquote : ∀ (e : String × Value) (s t : List Char), encodeEntry e ++ s ≠ '\x7d' :: t :=
      fun e s t h => absurd (List.cons.inj h).1 (by decide)
    rw [encode_map, encode_map, List.cons_append, List.cons_append, List.append_assoc,
      List.append_assoc] at h
    obtain ⟨rfl, hrest⟩ := commaSeparated_append_inj (.inr rfl)
      (fun e he g hg s t hs ht h => by
        rw [encodeEntry, encodeEntry, List.append_assoc, List.append_assoc] at h
        obtain ⟨hname, hrest⟩ := encodeText_append_inj (hv e he).1 (hw g hg).1 h
        obtain ⟨hvalue, hrest⟩ := hentries e he (hw g hg).2 hs ht
          (List.cons.inj (List.cons.inj hrest).2).2
        exact ⟨Prod.ext hname hvalue, hrest⟩)
      (fun e _ => hquote e) (fun e _ => hquote e) (List.cons.inj h).2
    exact ⟨rfl, hrest⟩
  | _ => cases hopening

mutual

theorem tells : ∀ v : Value, v.IsJson → Tells v
  | .null, h => tells_plain h rfl
  | .bool _, h => tells_plain h rfl
  | .int _, h => tells_plain h rfl
  | .float _, h => tells_plain h rfl
  | .text _, h => tells_text h
  | .list items, h => tells_list h (tellItems items h)
  | .map entries, h => tells_map h (tellEntries entries h)
  | .nan _, h => h.elim
  | .tuple _, h => h.elim
  | .date _, h => h.elim
  | .moment _, h => h.elim

theorem tellItems : ∀ items : List Value, Value.AreJson items → ∀ v ∈ items, Tells v
  | [], _ => nofun
  | v :: rest, h => List.forall_mem_cons.2 ⟨tells v h.1, tellItems rest h.2⟩

theorem tellEntries : ∀ entries : List (String × Value), Value.EntriesJson entries →
    ∀ e ∈ entries, Tells e.2
  | [], _ => nofun
  | (_, v) :: rest, h => List.forall_mem_cons.2 ⟨tells v h.1.2, tellEntries rest h.2⟩

end

/-- **A value in JSON ends where its text says so.** -/
theorem encode_append_inj {v w : Value} (hv : v.IsJson) (hw : w.IsJson) {s t : List Char}
    (hs : Ends s) (ht : Ends t) (h : encode .asGiven v ++ s = encode .asGiven w ++ t) :
    v = w ∧ s = t := tells v hv hw hs ht h

/-! ### Entries by name -/

mutual

/-- Ordering the entries by name is writing the ordered value. -/
theorem encode_byName : ∀ v : Value, encode .byName v = encode .asGiven v.ordered
  | .list items => by rw [Value.ordered, encode, encode, encodeItems_byName items]
  | .tuple items => by rw [Value.ordered, encode, encode, encodeItems_byName items]
  | .map entries => by
    rw [Value.ordered, encode, encode, encodeEntries_byName entries, encodeEntryTexts,
      encodeEntryTexts, encodeEntries_eq_map .asGiven, encodeEntries_eq_map .asGiven]
    dsimp only
    rw [Fields.sorted_map]
  | .null => rfl
  | .bool _ => rfl
  | .int _ => rfl
  | .float _ => rfl
  | .nan _ => rfl
  | .text _ => rfl
  | .date _ => rfl
  | .moment _ => rfl

theorem encodeItems_byName : ∀ items : List Value,
    encodeItems .byName items = encodeItems .asGiven (Value.orderedItems items)
  | [] => rfl
  | v :: rest => by
    rw [Value.orderedItems, encodeItems, encodeItems, encode_byName v, encodeItems_byName rest]

theorem encodeEntries_byName : ∀ entries : List (String × Value),
    encodeEntries .byName entries = encodeEntries .asGiven (Value.orderedEntries entries)
  | [] => rfl
  | (name, v) :: rest => by
    rw [Value.orderedEntries, encodeEntries, encodeEntries, encode_byName v,
      encodeEntries_byName rest]

end

mutual

theorem isJson_ordered : ∀ v : Value, v.IsJson → v.ordered.IsJson
  | .list items, h => areJson_ordered items h
  | .tuple _, h => h.elim
  | .map entries, h => Value.entriesJson_iff.2 fun e he =>
    Value.entriesJson_iff.1 (entriesJson_ordered entries h) e ((Fields.sorted_perm _).subset he)
  | .null, h => h
  | .bool _, h => h
  | .int _, h => h
  | .float _, h => h
  | .nan _, h => h
  | .text _, h => h
  | .date _, h => h
  | .moment _, h => h

theorem areJson_ordered : ∀ items : List Value, Value.AreJson items →
    Value.AreJson (Value.orderedItems items)
  | [], h => h
  | v :: rest, h => ⟨isJson_ordered v h.1, areJson_ordered rest h.2⟩

theorem entriesJson_ordered : ∀ entries : List (String × Value), Value.EntriesJson entries →
    Value.EntriesJson (Value.orderedEntries entries)
  | [], h => h
  | (_, v) :: rest, h => ⟨⟨h.1.1, isJson_ordered v h.1.2⟩, entriesJson_ordered rest h.2⟩

end

/-- With entries by name, the text of a value tells it up to the order of entries. -/
theorem encode_byName_append_inj {v w : Value} (hv : v.IsJson) (hw : w.IsJson) {s t : List Char}
    (hs : Ends s) (ht : Ends t) (h : encode .byName v ++ s = encode .byName w ++ t) :
    v.Alike w ∧ s = t := by
  rw [encode_byName, encode_byName] at h
  exact encode_append_inj (isJson_ordered v hv) (isJson_ordered w hw) hs ht h

end Json
end RecordRules
