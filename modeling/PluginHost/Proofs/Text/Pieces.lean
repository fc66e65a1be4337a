import Mathlib.Data.List.Basic
import PluginHost.Text.Blank

/-!
# Texts cut at a separator

The pieces of a text are those of the library's `List.splitOn`.  They are the one nonempty list of
texts without the separator that give the text when they are joined by it.
-/

namespace PluginHost.Text

/-- A list of texts is what a text has between its separators. -/
structure IsCutInto (separator : Char) (text : String) (pieces : List String) : Prop where
  notEmpty : pieces ≠ []
  noSeparator : ∀ piece ∈ pieces, separator ∉ piece.toList
  joined : (String.singleton separator).intercalate pieces = text

variable {separator : Char} {text : String} {pieces : List String}

theorem splitList_eq_splitOn (separator : Char) (text : List Char) :
    splitList separator text = text.splitOn separator := by
  induction text with
  | nil => rfl
  | cons c rest ih =>
      rw [splitList, ih, List.splitOn_cons_eq_if_modifyHead]
      split
      · rfl
      · cases pieces : rest.splitOn separator with
        | nil => exact absurd pieces (List.splitOn_ne_nil separator rest)
        | cons piece more => rfl

theorem splitList_ne_nil (separator : Char) (text : List Char) :
    splitList separator text ≠ [] := by
  rw [splitList_eq_splitOn]
  exact List.splitOn_ne_nil separator text

/-- The pieces before and after a separator are those of the two sides. -/
theorem splitList_append (separator : Char) (before after : List Char) :
    splitList separator (before ++ separator :: after) =
      splitList separator before ++ splitList separator after := by
  simp only [splitList_eq_splitOn]
  exact List.splitOn_append_cons_self before after

theorem splitList_of_not_mem {text : List Char} (absent : separator ∉ text) :
    splitList separator text = [text] := by
  rw [splitList_eq_splitOn]
  exact List.splitOn_eq_singleton absent

theorem not_mem_of_mem_splitList {text piece : List Char}
    (member : piece ∈ splitList separator text) : separator ∉ piece := by
  induction text generalizing piece with
  | nil =>
      obtain rfl : piece = [] := by simpa [splitList] using member
      exact List.not_mem_nil
  | cons c rest ih =>
      rw [splitList] at member
      split at member
      · rcases List.mem_cons.mp member with rfl | later
        · exact List.not_mem_nil
        · exact ih later
      · next apart =>
          cases pieces : splitList separator rest with
          | nil => exact absurd pieces (splitList_ne_nil separator rest)
          | cons first more =>
              rw [pieces] at member ih
              rcases List.mem_cons.mp member with rfl | later
              · have ahead : separator ≠ c := fun same => apart (by simp [same])
                exact List.not_mem_cons_of_ne_of_not_mem ahead (ih List.mem_cons_self)
              · exact ih (List.mem_cons_of_mem _ later)

theorem split_ne_nil (separator : Char) (text : String) : split separator text ≠ [] := by
  simp [split, splitList_ne_nil]

theorem not_mem_of_mem_split {piece : String} (member : piece ∈ split separator text) :
    separator ∉ piece.toList := by
  obtain ⟨letters, among, rfl⟩ := List.mem_map.mp member
  simpa using not_mem_of_mem_splitList among

theorem intercalate_split (separator : Char) (text : String) :
    (String.singleton separator).intercalate (split separator text) = text := by
  have letters : (split separator text).map String.toList = text.toList.splitOn separator := by
    simp [split, splitList_eq_splitOn, Function.comp_def]
  rw [← String.toList_inj, String.toList_intercalate, letters, String.toList_singleton,
    List.intercalate_splitOn]

/-- The pieces of a text are what it has between its separators, and nothing else is. -/
theorem isCutInto_iff : IsCutInto separator text pieces ↔ split separator text = pieces := by
  constructor
  · rintro ⟨notEmpty, noSeparator, rfl⟩
    have apart : ∀ letters ∈ pieces.map String.toList, separator ∉ letters := by
      simpa using noSeparator
    have cut := List.splitOn_intercalate separator apart (by simpa using notEmpty)
    rw [split, splitList_eq_splitOn, String.toList_intercalate, String.toList_singleton, cut]
    simp [Function.comp_def]
  · rintro rfl
    exact ⟨split_ne_nil separator text, fun _ => not_mem_of_mem_split,
      intercalate_split separator text⟩

end PluginHost.Text
