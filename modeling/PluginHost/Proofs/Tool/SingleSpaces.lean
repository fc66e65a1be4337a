import PluginHost.Plugin.CoreText
import PluginHost.Proofs.Text.Words

/-!
# Collapsing white space

The text plugin collapses the white space of a text to single spaces.  This keeps the words, and
it leaves a text alone exactly if the text has nothing but single spaces between its words.
-/

namespace PluginHost.CoreText

open Text

/-- What is left of a text when its white space is collapsed. -/
structure CollapsesBlanks (text : String) : Prop where
  /-- The words are the longest runs without white space. -/
  hasWords : ∀ words : List String,
    HasWords text.toList (words.map String.toList) ↔ Text.words text = words
  /-- The words stay the same, and so does their number, whatever arguments give it the texts. -/
  words_eq : words (normalizeBlanks text) = words text
  handled : ∀ args : ToolArgs, args.getText "text" = .ok text →
    normalizeTool.handler args = .immediate (.returned (.string (normalizeBlanks text))) ∧
      wordCountTool.handler args = .immediate (.returned (.ofNat (words text).length))
  counted : ∀ args collapsed : ToolArgs, args.getText "text" = .ok text →
    collapsed.getText "text" = .ok (normalizeBlanks text) →
      wordCountTool.handler collapsed = wordCountTool.handler args
  /-- There is no white space at the ends, and only single spaces between other characters. -/
  isTrimmed : IsTrimmed (normalizeBlanks text).toList
  singlySpaced : SinglySpaced (normalizeBlanks text).toList
  empty_iff : normalizeBlanks text = "" ↔ ∀ c ∈ text.toList, isBlank c = true
  /-- A text is left alone exactly if its white space is collapsed already. -/
  unchanged_iff : normalizeBlanks text = text ↔ SinglySpaced text.toList
  again : normalizeBlanks (normalizeBlanks text) = normalizeBlanks text

theorem toList_words (text : String) :
    (words text).map String.toList = wordsAfter [] text.toList := by
  rw [words, List.map_map]
  exact List.map_id'' (fun _ => String.toList_ofList) _

theorem toList_normalizeBlanks (text : String) :
    (normalizeBlanks text).toList = [' '].intercalate (wordsAfter [] text.toList) := by
  rw [normalizeBlanks, String.toList_intercalate, toList_words]
  rfl

theorem hasWords_words_iff {text : String} {found : List String} :
    HasWords text.toList (found.map String.toList) ↔ words text = found := by
  rw [hasWords_iff, ← toList_words]
  exact List.map_inj_right fun _ _ => String.toList_inj.mp

theorem hasWords_normalizeBlanks (text : String) :
    HasWords (normalizeBlanks text).toList (wordsAfter [] text.toList) ∧
      SinglySpaced (normalizeBlanks text).toList := by
  rw [toList_normalizeBlanks]
  exact hasWords_intercalate (hasWords_iff.mpr rfl).isWord

theorem words_normalizeBlanks (text : String) : words (normalizeBlanks text) = words text := by
  rw [← hasWords_words_iff, toList_words]
  exact (hasWords_normalizeBlanks text).1

theorem normalizeBlanks_eq_self_iff {text : String} :
    normalizeBlanks text = text ↔ SinglySpaced text.toList := by
  constructor
  · intro unchanged
    exact unchanged ▸ (hasWords_normalizeBlanks text).2
  · intro spaced
    rw [← String.toList_inj, toList_normalizeBlanks]
    exact (hasWords_iff.mpr rfl).intercalate_eq spaced

theorem normalizeBlanks_eq_empty_iff {text : String} :
    normalizeBlanks text = "" ↔ ∀ c ∈ text.toList, isBlank c = true := by
  rw [← wordsAfter_eq_nil_iff]
  constructor
  · intro empty
    have has := (hasWords_normalizeBlanks text).1
    rw [empty] at has
    exact has.wordsAfter_eq.symm
  · intro none
    rw [← String.toList_inj, toList_normalizeBlanks, none]
    rfl

/-- What the two tools that look for words answer to arguments that give a text. -/
theorem handler_of_getText {args : ToolArgs} {text : String}
    (given : args.getText "text" = .ok text) :
    normalizeTool.handler args = .immediate (.returned (.string (normalizeBlanks text))) ∧
      wordCountTool.handler args = .immediate (.returned (.ofNat (words text).length)) := by
  simp only [normalizeTool, wordCountTool, given]
  exact ⟨rfl, rfl⟩

theorem normalizeBlanks_collapsesBlanks (text : String) : CollapsesBlanks text where
  hasWords _ := hasWords_words_iff
  words_eq := words_normalizeBlanks text
  handled _ given := handler_of_getText given
  counted args collapsed given collapsedGiven := by
    rw [(handler_of_getText given).2, (handler_of_getText collapsedGiven).2,
      words_normalizeBlanks]
  isTrimmed := (hasWords_normalizeBlanks text).2.isTrimmed
  singlySpaced := (hasWords_normalizeBlanks text).2
  empty_iff := normalizeBlanks_eq_empty_iff
  unchanged_iff := normalizeBlanks_eq_self_iff
  again := normalizeBlanks_eq_self_iff.mpr (hasWords_normalizeBlanks text).2

end PluginHost.CoreText
