import RecordRules.Proofs.Number.Doubles
import RecordRules.Proofs.Outcome
import RecordRules.Store.Metadata

/-!
# Documents

What is kept of a value in a document is what its readers ask for: whether there is anything, the
text that it is, and the value under each name.
-/

set_option autoImplicit false

namespace RecordRules
namespace Value

theorem documentItems_isEmpty {items kept : List Value} (h : documentItems items = .ok kept) :
    kept.isEmpty = items.isEmpty := by
  cases items with
  | nil => cases h; rfl
  | cons v rest =>
    rw [documentItems, bind_eq_ok_iff] at h
    obtain ⟨first, -, h⟩ := h
    obtain ⟨others, -, h⟩ := bind_eq_ok_iff.1 h
    cases h
    rfl

theorem documentEntries_isEmpty {entries kept : List (String × Value)}
    (h : documentEntries entries = .ok kept) : kept.isEmpty = entries.isEmpty := by
  cases entries with
  | nil => cases h; rfl
  | cons entry rest =>
    obtain ⟨name, v⟩ := entry
    rw [documentEntries, bind_eq_ok_iff] at h
    obtain ⟨first, -, h⟩ := h
    obtain ⟨others, -, h⟩ := bind_eq_ok_iff.1 h
    cases h
    rfl

/-- A value and its document are both present, or neither is. -/
theorem document_isPresent {v w : Value} (h : v.document = .ok w) : w.isPresent = v.isPresent := by
  cases v with
  | list items =>
    obtain ⟨kept, hkept, rfl⟩ := map_eq_ok_iff.1 h
    exact congrArg not (documentItems_isEmpty hkept)
  | tuple items =>
    obtain ⟨kept, hkept, rfl⟩ := map_eq_ok_iff.1 h
    exact congrArg not (documentItems_isEmpty hkept)
  | map entries =>
    obtain ⟨kept, hkept, rfl⟩ := map_eq_ok_iff.1 h
    exact congrArg not (documentEntries_isEmpty hkept)
  | date _ => cases h
  | moment _ => cases h
  | int n =>
    rw [document] at h
    split at h
    · cases h
    · cases h
      rfl
  | float x =>
    cases h
    split
    · rename_i hnan
      exact (Double.bne_zero_of_isNaN hnan).symm
    · rfl
  | _ => cases h; rfl

/-- Texts, and nothing else, are kept as texts. -/
theorem document_eq_text_iff {v w : Value} (h : v.document = .ok w) {s : String} :
    w = .text s ↔ v = .text s := by
  cases v with
  | list items =>
    obtain ⟨kept, -, rfl⟩ := map_eq_ok_iff.1 h
    exact ⟨nofun, nofun⟩
  | tuple items =>
    obtain ⟨kept, -, rfl⟩ := map_eq_ok_iff.1 h
    exact ⟨nofun, nofun⟩
  | map entries =>
    obtain ⟨kept, -, rfl⟩ := map_eq_ok_iff.1 h
    exact ⟨nofun, nofun⟩
  | date _ => cases h
  | moment _ => cases h
  | int n =>
    rw [document] at h
    split at h
    · cases h
    · cases h
      exact Iff.rfl
  | float x =>
    cases h
    split <;> exact ⟨nofun, nofun⟩
  | nan _ => cases h; exact ⟨nofun, nofun⟩
  | _ => cases h; exact Iff.rfl

end Value

/-- A document has a value under a name exactly if the map has, and then the value is kept. -/
theorem documentFields_get? {fields kept : Fields Value} (h : documentFields fields = .ok kept)
    (name : String) :
    (fields.get? name = none ∧ kept.get? name = none) ∨
      ∃ v w, fields.get? name = some v ∧ v.document = .ok w ∧ kept.get? name = some w := by
  induction fields generalizing kept with
  | nil =>
    cases h
    exact Or.inl ⟨rfl, rfl⟩
  | cons entry rest ih =>
    obtain ⟨key, v⟩ := entry
    rw [documentFields, Value.documentEntries, bind_eq_ok_iff] at h
    obtain ⟨w, hw, h⟩ := h
    obtain ⟨others, hothers, h⟩ := bind_eq_ok_iff.1 h
    cases h
    rw [Fields.get?, Fields.get?]
    by_cases hkey : key = name
    · rw [if_pos hkey, if_pos hkey]
      exact Or.inr ⟨v, w, rfl, hw, rfl⟩
    · rw [if_neg hkey, if_neg hkey]
      exact ih hothers

end RecordRules
