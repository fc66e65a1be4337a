import PluginHost.Toml.Reader

/-!
# TOML documents

A document is read line by line: blank lines, comments, headers and pairs.  If it is malformed,
the place of the first fault is told by line and column.
-/

namespace PluginHost

/-- A place in a text, counted from one in lines and in characters of the line. -/
structure TextPosition where
  line : Nat
  column : Nat
deriving DecidableEq

namespace TextPosition

/-- The place after a part of a text. -/
def after (text : List Char) : TextPosition :=
  ⟨text.count '\n' + 1, (text.reverse.takeWhile (· != '\n')).length + 1⟩

/-- The place at which the rest of a text begins.  The end of a text counts as the place right
of its last character. -/
def ofRest (text rest : List Char) : TextPosition :=
  if rest.isEmpty && !text.isEmpty then
    let place := after text.dropLast
    ⟨place.line, place.column + 1⟩
  else
    after (text.take (text.length - rest.length))

end TextPosition

namespace TomlReader

/-- A document that is read in part. -/
structure Draft where
  /-- What the document holds so far. -/
  entries : TomlEntries
  /-- The key of the header that the next pairs belong to. -/
  header : List String

/-- The draft after a change of its entries, which may not be possible. -/
def Draft.change (draft : Draft) (header : List String) (start : List Char)
    (entries : Option TomlEntries) : Except TomlFault Draft :=
  match entries with
  | some entries => .ok { draft with entries, header }
  | none => final start

/-- Reads a header in double brackets. -/
def furtherHeader (draft : Draft) (text : List Char) : Step Draft :=
  match dottedKey (text.drop 2) with
  | .error fault => .error fault
  | .ok ((path, key), rest) =>
    match expectWord [']', ']'] rest with
    | .error fault => .error fault
    | .ok rest =>
      match lineTrailing rest with
      | .error fault => .error fault
      | .ok rest =>
        (draft.change (path ++ [key]) text
          (TomlEntries.openFurther path key draft.entries)).map fun draft => (draft, rest)

/-- Reads a header. -/
def plainHeader (draft : Draft) (text : List Char) : Step Draft :=
  match dottedKey (text.drop 1) with
  | .error fault => .error fault
  | .ok ((path, key), rest) =>
    match expect ']' rest with
    | .error fault => .error fault
    | .ok rest =>
      match lineTrailing rest with
      | .error fault => .error fault
      | .ok rest =>
        (draft.change (path ++ [key]) text
          (TomlEntries.openTable path key draft.entries)).map fun draft => (draft, rest)

/-- Reads a header of either kind. -/
def header (draft : Draft) (text : List Char) : Step Draft :=
  match text with
  | '[' :: '[' :: _ => furtherHeader draft text
  | '[' :: _ :: _ => plainHeader draft text
  | text => soft text

/-- Reads a pair. -/
def pairLine (draft : Draft) (text : List Char) : Step Draft :=
  match dottedKey text with
  | .error fault => .error fault
  | .ok ((path, key), rest) =>
    match expect '=' rest with
    | .error fault => .error fault
    | .ok rest =>
      match topValue (skipBlanks rest) with
      | .error fault => .error fault
      | .ok (value, rest) =>
        match lineTrailing rest with
        | .error fault => .error fault
        | .ok rest =>
          (draft.change draft.header text
            (TomlEntries.insertUnder draft.header path key (.value value) draft.entries)).map
            fun draft => (draft, rest)

/-- Reads one part of a document after its blanks: a comment, a line break, a header or a
pair. -/
def documentPart (draft : Draft) (text : List Char) : Step Draft :=
  match text with
  | '#' :: _ => (lineEnd (skipComment text)).map fun rest => (draft, rest)
  | '[' :: _ => header draft text
  | '\n' :: rest => .ok (draft, rest)
  | '\r' :: rest => (expect '\n' rest).mapError (fun _ => ⟨text, true⟩) |>.map (draft, ·)
  | text => pairLine draft text

/-- Reads the parts of a document in a number of steps. -/
def documentParts : Nat → Draft → List Char → Except TomlFault Draft
  | 0, _, text => final text
  | fuel + 1, draft, text =>
    match skipBlanks text with
    | [] => .ok draft
    | text =>
      match documentPart draft text with
      | .error fault => .error fault
      | .ok (draft, rest) => documentParts fuel draft rest

/-- The text after a byte order mark. -/
def skipMark : List Char → List Char
  | '\ufeff' :: rest => rest
  | text => text

end TomlReader

/-- The entries of a document, listed by key, or the place of its first fault. -/
def TomlValue.parseDocument (text : String) :
    Except TextPosition (List (String × TomlValue)) :=
  let chars := text.toList
  match TomlReader.documentParts (chars.length + 1) ⟨[], []⟩ (TomlReader.skipMark chars) with
  | .ok draft => .ok (TomlNode.entryValues draft.entries)
  | .error fault => .error (TextPosition.ofRest chars fault.rest)

end PluginHost
