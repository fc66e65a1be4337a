import Mathlib.Data.List.Pairwise
import PluginHost.Proofs.Toml.Suffix

/-!
# The headers of a document

A document is read part by part, and some of its parts are headers: after the blanks of a line they
open a table, with its key in brackets.  All that comes up to the next header belongs to this table.
No document has two headers for the same table.
-/

namespace PluginHost

open KeyedList

namespace TomlReader

variable {draft next : Draft} {text rest content : List Char} {name : String}

/-! ### Parts of documents -/

theorem header_of_change {header : List String} {start : List Char} {entries : Option TomlEntries}
    (changes : draft.change header start entries = .ok next) : next.header = header := by
  cases entries with
  | none => cases changes
  | some entries =>
      cases changes
      rfl

/-- A header in brackets has a dotted key, and opens its table. -/
theorem exists_of_plainHeader (reads : plainHeader draft text = .ok (next, rest)) :
    ∃ path key afterKey afterBracket, dottedKey (text.drop 1) = .ok ((path, key), afterKey) ∧
      expect ']' afterKey = .ok afterBracket ∧ lineTrailing afterBracket = .ok rest ∧
        TomlEntries.openTable path key draft.entries = some next.entries ∧
          next.header = path ++ [key] := by
  rw [plainHeader] at reads
  split at reads
  · cases reads
  · next path key afterKey readsKey =>
      split at reads
      · cases reads
      · next afterBracket closes =>
          split at reads
          · cases reads
          · next after ends =>
              obtain ⟨_, changes, same⟩ := exists_of_map_eq_ok reads
              cases same
              exact ⟨path, key, afterKey, afterBracket, readsKey, closes, ends,
                eq_some_of_change changes, header_of_change changes⟩

/-- So has a header in double brackets, and opens a further table of a list. -/
theorem exists_of_furtherHeader (reads : furtherHeader draft text = .ok (next, rest)) :
    ∃ path key afterKey afterBracket, dottedKey (text.drop 2) = .ok ((path, key), afterKey) ∧
      expectWord [']', ']'] afterKey = .ok afterBracket ∧ lineTrailing afterBracket = .ok rest ∧
        TomlEntries.openFurther path key draft.entries = some next.entries ∧
          next.header = path ++ [key] := by
  rw [furtherHeader] at reads
  split at reads
  · cases reads
  · next path key afterKey readsKey =>
      split at reads
      · cases reads
      · next afterBracket closes =>
          split at reads
          · cases reads
          · next after ends =>
              obtain ⟨_, changes, same⟩ := exists_of_map_eq_ok reads
              cases same
              exact ⟨path, key, afterKey, afterBracket, readsKey, closes, ends,
                eq_some_of_change changes, header_of_change changes⟩

/-- A pair is put into the table of the last header. -/
theorem exists_of_pairLine (reads : pairLine draft text = .ok (next, rest)) :
    ∃ path key value afterKey afterMark afterValue,
      dottedKey text = .ok ((path, key), afterKey) ∧ expect '=' afterKey = .ok afterMark ∧
        topValue (skipBlanks afterMark) = .ok (value, afterValue) ∧
          lineTrailing afterValue = .ok rest ∧
            TomlEntries.insertUnder draft.header path key (.value value) draft.entries =
              some next.entries ∧ next.header = draft.header := by
  rw [pairLine] at reads
  split at reads
  · cases reads
  · next path key afterKey readsKey =>
      split at reads
      · cases reads
      · next afterMark marked =>
          split at reads
          · cases reads
          · next value afterValue readsValue =>
              split at reads
              · cases reads
              · next after ends =>
                  obtain ⟨_, changes, same⟩ := exists_of_map_eq_ok reads
                  cases same
                  exact ⟨path, key, value, afterKey, afterMark, afterValue, readsKey, marked,
                    readsValue, ends, eq_some_of_change changes, header_of_change changes⟩

theorem suffix_of_plainHeader (reads : plainHeader draft text = .ok (next, rest)) :
    rest <:+ text := by
  obtain ⟨_, _, _, _, readsKey, closes, ends, -⟩ := exists_of_plainHeader reads
  exact (suffix_of_lineTrailing ends).trans <| (suffix_of_expect closes).trans <|
    (suffix_of_dottedKey readsKey).trans (List.drop_suffix 1 text)

theorem suffix_of_furtherHeader (reads : furtherHeader draft text = .ok (next, rest)) :
    rest <:+ text := by
  obtain ⟨_, _, _, _, readsKey, closes, ends, -⟩ := exists_of_furtherHeader reads
  exact (suffix_of_lineTrailing ends).trans <| (suffix_of_expectWord closes).trans <|
    (suffix_of_dottedKey readsKey).trans (List.drop_suffix 2 text)

theorem suffix_of_pairLine (reads : pairLine draft text = .ok (next, rest)) : rest <:+ text := by
  obtain ⟨_, _, _, _, _, _, readsKey, marked, readsValue, ends, -⟩ := exists_of_pairLine reads
  exact (suffix_of_lineTrailing ends).trans <| (suffix_of_topValue readsValue).trans <|
    (suffix_skipBlanks _).trans <| (suffix_of_expect marked).trans (suffix_of_dottedKey readsKey)

theorem suffix_of_header (reads : header draft text = .ok (next, rest)) : rest <:+ text := by
  unfold header at reads
  split at reads
  · exact suffix_of_furtherHeader reads
  · exact suffix_of_plainHeader reads
  · cases reads

theorem suffix_of_documentPart (reads : documentPart draft text = .ok (next, rest)) :
    rest <:+ text := by
  unfold documentPart at reads
  split at reads
  · obtain ⟨after, ends, same⟩ := exists_of_map_eq_ok reads
    cases same
    exact (suffix_of_lineEnd ends).trans (suffix_skipComment _)
  · exact suffix_of_header reads
  · cases reads
    exact List.suffix_cons _ _
  · obtain ⟨after, breaks, same⟩ := exists_of_map_eq_ok reads
    cases same
    exact (suffix_of_expect (mapError_eq_ok_iff.mp breaks)).trans (List.suffix_cons _ _)
  · exact suffix_of_pairLine reads

/-! ### Tables that have a header -/

/-- Entries have a table that its own header opened. -/
def HasHeader (name : String) (entries : TomlEntries) : Prop :=
  ∃ inner, get? name entries = some (.table .stated inner)

variable {entries after : TomlEntries}

theorem HasHeader.insert (has : HasHeader name entries) {key : String}
    (other : ∀ inner, get? key entries ≠ some (.table .stated inner)) (node : TomlNode) :
    HasHeader name (KeyedList.insert key node entries) := by
  obtain ⟨inner, found⟩ := has
  have apart : key ≠ name := by
    rintro rfl
    exact other inner found
  exact ⟨inner, by rw [get?_insert, if_neg apart, found]⟩

/-- No change along a path takes the header of a table away, if none does at its end. -/
theorem HasHeader.updateAt {byDots : Bool} {change : TomlOrigin → TomlEntries → Option TomlEntries}
    (keeps : ∀ origin {entries after : TomlEntries}, HasHeader name entries →
      change origin entries = some after → HasHeader name after)
    {path : List String} {origin : TomlOrigin} (has : HasHeader name entries)
    (updates : TomlEntries.updateAt byDots change path origin entries = some after) :
    HasHeader name after := by
  cases path with
  | nil => exact keeps origin has updates
  | cons key path =>
      rw [TomlEntries.updateAt] at updates
      split at updates
      · next absent =>
          obtain ⟨inner, -, rfl⟩ := Option.map_eq_some_iff.mp updates
          exact has.insert (by simp [absent]) _
      · cases updates
      · next origin within found =>
          split at updates
          · cases updates
          · obtain ⟨inner, -, rfl⟩ := Option.map_eq_some_iff.mp updates
            by_cases same : key = name
            · subst same
              -- The table itself is changed inside, and stays the one of its header.
              obtain ⟨stated, isStated⟩ := has
              cases isStated.symm.trans found
              exact ⟨inner, by rw [get?_insert, if_pos rfl]⟩
            · obtain ⟨stated, isStated⟩ := has
              exact ⟨stated, by rw [get?_insert, if_neg same, isStated]⟩
      · next items =>
          split at updates
          · cases updates
          · obtain ⟨inner, -, rfl⟩ := Option.map_eq_some_iff.mp updates
            exact has.insert (by simp [items]) _

theorem HasHeader.openTable (has : HasHeader name entries) {path : List String} {key : String}
    (opens : TomlEntries.openTable path key entries = some after) : HasHeader name after := by
  refine has.updateAt ?_ opens
  intro _ entries after has changed
  split at changed
  · next absent =>
      obtain rfl := Option.some.inj changed
      exact has.insert (by simp [absent]) _
  · next implied =>
      obtain rfl := Option.some.inj changed
      exact has.insert (by simp [implied]) _
  · cases changed

theorem HasHeader.openFurther (has : HasHeader name entries) {path : List String} {key : String}
    (opens : TomlEntries.openFurther path key entries = some after) : HasHeader name after := by
  refine has.updateAt ?_ opens
  intro _ entries after has changed
  split at changed
  · next absent =>
      obtain rfl := Option.some.inj changed
      exact has.insert (by simp [absent]) _
  · next items =>
      obtain rfl := Option.some.inj changed
      exact has.insert (by simp [items]) _
  · cases changed

theorem HasHeader.insertUnder (has : HasHeader name entries) {header path : List String}
    {key : String} {node : TomlNode}
    (inserts : TomlEntries.insertUnder header path key node entries = some after) :
    HasHeader name after := by
  refine has.updateAt ?_ inserts
  intro _ entries after has inserts
  refine has.updateAt ?_ inserts
  intro _ entries after has changed
  split at changed
  · cases changed
  · next fresh =>
      obtain rfl := Option.some.inj changed
      refine has.insert ?_ _
      intro inner found
      simp [contains, found] at fresh

/-- The table of a header is one that had none before. -/
theorem hasHeader_of_openTable (opens : TomlEntries.openTable [] name entries = some after) :
    ¬ HasHeader name entries ∧ HasHeader name after := by
  rw [TomlEntries.openTable, TomlEntries.updateAt] at opens
  split at opens
  · next absent =>
      obtain rfl := Option.some.inj opens
      exact ⟨by simp [HasHeader, absent], [], by rw [get?_insert, if_pos rfl]⟩
  · next inner implied =>
      obtain rfl := Option.some.inj opens
      exact ⟨by simp [HasHeader, implied], inner, by rw [get?_insert, if_pos rfl]⟩
  · cases opens

/-- Every part of a document leaves a table its header. -/
theorem HasHeader.documentPart (has : HasHeader name draft.entries)
    (reads : documentPart draft text = .ok (next, rest)) : HasHeader name next.entries := by
  unfold TomlReader.documentPart at reads
  split at reads
  · obtain ⟨_, -, same⟩ := exists_of_map_eq_ok reads
    cases same
    exact has
  · unfold header at reads
    split at reads
    · obtain ⟨_, _, _, _, -, -, -, opens, -⟩ := exists_of_furtherHeader reads
      exact has.openFurther opens
    · obtain ⟨_, _, _, _, -, -, -, opens, -⟩ := exists_of_plainHeader reads
      exact has.openTable opens
    · cases reads
  · cases reads
    exact has
  · obtain ⟨_, -, same⟩ := exists_of_map_eq_ok reads
    cases same
    exact has
  · obtain ⟨_, _, _, _, _, _, -, -, -, -, inserts, -⟩ := exists_of_pairLine reads
    exact has.insertUnder inserts

end TomlReader

/-! ### Headers -/

/-- A header of a document. -/
structure TomlHeader where
  /-- What comes before it in the document. -/
  front : List Char
  /-- Whether it stands in double brackets. -/
  isFurther : Bool
  /-- The parts of its key. -/
  path : List String
deriving DecidableEq

namespace TomlReader

/-- The header that a part of a document is, if it is one, with the key that it was read with. -/
def headerAt? (content text : List Char) (path : List String) : Option TomlHeader :=
  match text with
  | '[' :: inner =>
    some ⟨content.take (content.length - text.length), inner.head? == some '[', path⟩
  | _ => none

/-- The headers among the parts of a document that are read in a number of steps. -/
def headers (content : List Char) : Nat → Draft → List Char → List TomlHeader
  | 0, _, _ => []
  | fuel + 1, draft, text =>
    match skipBlanks text with
    | [] => []
    | text =>
      match documentPart draft text with
      | .error _ => []
      | .ok (next, rest) =>
        (headerAt? content text next.header).toList ++ headers content fuel next rest

end TomlReader

/-- The headers of a document, in order. -/
def TomlValue.headers (text : String) : List TomlHeader :=
  let chars := text.toList
  TomlReader.headers chars (chars.length + 1) ⟨[], []⟩ (TomlReader.skipMark chars)

/-- A header opens the table under a key of the document. -/
def TomlHeader.Opens (name : String) (header : TomlHeader) : Prop :=
  header.isFurther = false ∧ header.path = [name]

instance (name : String) (header : TomlHeader) : Decidable (header.Opens name) :=
  inferInstanceAs (Decidable (_ ∧ _))

namespace TomlReader

/-- A header of a text: what comes before it is followed by one or two brackets and a key. -/
structure IsHeader (content : List Char) (header : TomlHeader) : Prop where
  key : ∃ inner path key after,
    content = header.front ++ (if header.isFurther then ['[', '['] else ['[']) ++ inner ∧
      dottedKey inner = .ok ((path, key), after) ∧ header.path = path ++ [key]

variable {found : TomlHeader}

theorem eq_of_append_singleton {path : List String} {key : String}
    (same : path ++ [key] = [name]) : path = [] ∧ key = name := by
  have appended : path ++ [key] = [] ++ [name] := same
  obtain ⟨alone, isName⟩ := List.append_inj' appended rfl
  exact ⟨alone, List.singleton_inj.mp isName⟩

/-- The header of a table under a key of the document is this key, in single brackets. -/
theorem IsHeader.exists_of_opens (isHeader : IsHeader content found) (opens : found.Opens name) :
    ∃ inner after, content = found.front ++ '[' :: inner ∧
      dottedKey inner = .ok (([], name), after) := by
  obtain ⟨inner, path, key, after, whole, readsKey, isPath⟩ := isHeader.key
  obtain ⟨rfl, rfl⟩ := eq_of_append_singleton (isPath.symm.trans opens.2)
  exact ⟨inner, after, by simpa [opens.1] using whole, readsKey⟩

theorem isHeader_of_documentPart (ends : text <:+ content)
    (reads : documentPart draft text = .ok (next, rest))
    (isHeader : found ∈ headerAt? content text next.header) : IsHeader content found := by
  have whole := List.suffix_iff_eq_append.mp ends
  unfold headerAt? at isHeader
  split at isHeader
  · next inner =>
      obtain rfl := Option.some.inj isHeader
      rw [documentPart] at reads
      unfold header at reads
      split at reads
      · next same =>
          obtain ⟨path, key, afterKey, _, readsKey, -, -, -, isPath⟩ :=
            exists_of_furtherHeader reads
          obtain ⟨-, rfl⟩ := List.cons.inj same
          exact ⟨_, path, key, afterKey, by simpa using whole.symm, readsKey, isPath⟩
      · next c inner notFurther same =>
          obtain ⟨path, key, afterKey, _, readsKey, -, -, -, isPath⟩ := exists_of_plainHeader reads
          obtain ⟨-, rfl⟩ := List.cons.inj same
          have single : c ≠ '[' := notFurther
          exact ⟨_, path, key, afterKey, by simpa [single] using whole.symm, readsKey, isPath⟩
      · cases reads
  · cases isHeader

/-- The headers of a document are parts of it. -/
theorem isHeader_of_mem_headers {fuel : Nat} (ends : text <:+ content)
    (member : found ∈ headers content fuel draft text) : IsHeader content found := by
  induction fuel generalizing draft text with
  | zero => cases member
  | succ fuel ih =>
      rw [headers] at member
      split at member
      · cases member
      · have ends := (suffix_skipBlanks text).trans ends
        split at member
        · cases member
        · next next rest reads =>
            rcases List.mem_append.mp member with here | later
            · exact isHeader_of_documentPart ends reads (Option.mem_toList.mp here)
            · exact ih ((suffix_of_documentPart reads).trans ends) later

/-- The header of a table is not read where there is one already, and there is one then. -/
theorem hasHeader_of_opens (reads : documentPart draft text = .ok (next, rest))
    (isHeader : found ∈ headerAt? content text next.header) (opens : found.Opens name) :
    ¬ HasHeader name draft.entries ∧ HasHeader name next.entries := by
  obtain ⟨single, isPath⟩ := opens
  unfold headerAt? at isHeader
  split at isHeader
  · next inner =>
      obtain rfl := Option.some.inj isHeader
      rw [documentPart] at reads
      unfold header at reads
      split at reads
      · next same =>
          obtain ⟨-, rfl⟩ := List.cons.inj same
          cases single
      · obtain ⟨path, key, _, _, -, -, -, opens, isKey⟩ := exists_of_plainHeader reads
        obtain ⟨rfl, rfl⟩ := eq_of_append_singleton (isKey.symm.trans isPath)
        exact hasHeader_of_openTable opens
      · cases reads
  · cases isHeader

theorem not_opens_of_hasHeader {fuel : Nat} (has : HasHeader name draft.entries) :
    ∀ header ∈ headers content fuel draft text, ¬ header.Opens name := by
  induction fuel generalizing draft text with
  | zero => exact nofun
  | succ fuel ih =>
      intro found member opens
      rw [headers] at member
      split at member
      · cases member
      · split at member
        · cases member
        · next reads =>
            rcases List.mem_append.mp member with here | later
            · exact (hasHeader_of_opens reads (Option.mem_toList.mp here) opens).1 has
            · exact ih (has.documentPart reads) found later opens

theorem pairwise_headers (name : String) (fuel : Nat) :
    (headers content fuel draft text).Pairwise fun first second =>
      ¬ (first.Opens name ∧ second.Opens name) := by
  induction fuel generalizing draft text with
  | zero => exact List.Pairwise.nil
  | succ fuel ih =>
      rw [headers]
      split
      · exact List.Pairwise.nil
      · split
        · exact List.Pairwise.nil
        · next reads =>
            refine List.pairwise_append.mpr ⟨?_, ih, ?_⟩
            · cases headerAt? content _ _ <;> simp
            · rintro first here second later ⟨firstOpens, secondOpens⟩
              have has := hasHeader_of_opens reads (Option.mem_toList.mp here) firstOpens
              exact not_opens_of_hasHeader has.2 second later secondOpens

end TomlReader

namespace TomlValue

theorem isHeader_of_mem_headers {text : String} {header : TomlHeader}
    (member : header ∈ headers text) : TomlReader.IsHeader text.toList header := by
  refine TomlReader.isHeader_of_mem_headers ?_ member
  unfold TomlReader.skipMark
  split
  · next same => exact same ▸ List.suffix_cons _ _
  · exact List.suffix_rfl

/-- No document has two headers for the same table. -/
theorem eq_of_opens {text name : String} {first second : TomlHeader}
    (firstMember : first ∈ headers text) (secondMember : second ∈ headers text)
    (firstOpens : first.Opens name) (secondOpens : second.Opens name) : first = second := by
  by_contra apart
  have symmetric : Std.Symm fun first second : TomlHeader =>
      ¬ (first.Opens name ∧ second.Opens name) := ⟨fun _ _ other both => other both.symm⟩
  exact (TomlReader.pairwise_headers name _).forall firstMember secondMember apart
    ⟨firstOpens, secondOpens⟩

end TomlValue

end PluginHost
