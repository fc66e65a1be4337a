import PluginHost.Text.Blank

/-!
# Words

A text is a sequence of words, the longest runs without white space, and the white space
between them.
-/

namespace PluginHost.Text

/-- The words of a text after a word under way, whose letters are in reverse order. -/
def wordsAfter : List Char → List Char → List (List Char)
  | [], [] => []
  | c :: letters, [] => [(c :: letters).reverse]
  | letters, c :: rest =>
    if isBlank c then
      match letters with
      | [] => wordsAfter [] rest
      | d :: more => (d :: more).reverse :: wordsAfter [] rest
    else
      wordsAfter (c :: letters) rest

/-- The words of a text. -/
def words (text : String) : List String :=
  (wordsAfter [] text.toList).map String.ofList

end PluginHost.Text
