import PluginHost.Json.Pointer
import PluginHost.Json.Record
import PluginHost.Plugin.Basic
import PluginHost.Text.Words

/-!
# The built-in text plugin

Four tools on texts and JSON documents.  The one setting is the text that `truncate` puts in
place of what it cuts off.
-/

namespace PluginHost

open Text

namespace CoreText

/-- The id of the built-in plugin. -/
def pluginId : String :=
  "core-text"

/-- The text in place of what is cut off, unless configured. -/
def defaultEllipsis : String :=
  "..."

/-- The greatest length of a shortened text, unless given. -/
def defaultLimit : Int :=
  80

/-- The fields of the configuration. -/
def configShape : RecordShape where
  title := "struct CoreTextConfig"
  fields := [⟨"ellipsis", .text, false⟩]

/-- The configured text in place of what is cut off. -/
def readEllipsis (config : Json) : Except ShapeProblem String :=
  (config.toRecord configShape).map fun values =>
    match RecordValues.find? "ellipsis" values with
    | some (.text ellipsis) => ellipsis
    | _ => defaultEllipsis

/-- A text with single spaces between its words and none at its ends. -/
def normalizeBlanks (text : String) : String :=
  " ".intercalate (words text)

/-- A text of at most `limit` characters: the text itself if it fits, else its beginning and
the ellipsis, or only its beginning where the ellipsis leaves no room. -/
def truncate (text : String) (limit : Nat) (ellipsis : String) : String :=
  if text.length ≤ limit then text
  else if limit ≤ ellipsis.length then String.ofList (text.toList.take limit)
  else String.ofList (text.toList.take (limit - ellipsis.length) ++ ellipsis.toList)

/-- A schema of an object with the given properties, some of which are required. -/
def objectSchema (properties : List (String × Json)) (required : List String) : Json :=
  .ofFields
    [("type", .string "object"), ("properties", .ofFields properties),
     ("required", .array (required.map .string))]

/-- The schema of values of one type. -/
def typeSchema (name : String) : Json :=
  .ofFields [("type", .string name)]

/-- The tool that collapses blanks. -/
def normalizeTool : ToolFunction where
  descriptor :=
    { name := "normalize_whitespace"
      shortDescription := "Collapse runs of whitespace"
      longDescription :=
        "Trims the text and replaces every run of whitespace with a single space."
      parametersSchema := objectSchema [("text", typeSchema "string")] ["text"]
      parameterDocs := [("text", "Text to normalise")] }
  params := [⟨"text", .string, none⟩]
  handler args := .ofResult ((args.getText "text").map fun text => .string (normalizeBlanks text))

/-- The tool that shortens texts. -/
def truncateTool (ellipsis : String) : ToolFunction where
  descriptor :=
    { name := "truncate"
      shortDescription := "Shorten text to a maximum length"
      longDescription := ""
      parametersSchema :=
        objectSchema
          [("text", typeSchema "string"),
           ("max_chars", .ofFields [("type", .string "integer"), ("minimum", .ofInt 0)])]
          ["text"]
      parameterDocs :=
        [("text", "Text to shorten"),
         ("max_chars", "Maximum number of characters kept, ellipsis included")] }
  params := [⟨"text", .string, none⟩, ⟨"max_chars", .integer, some (.ofInt defaultLimit)⟩]
  handler args :=
    .ofResult <|
      match args.getText "text" with
      | .error error => .error error
      | .ok text =>
        (args.getCount "max_chars").map fun limit => .string (truncate text limit ellipsis)

/-- The tool that counts words. -/
def wordCountTool : ToolFunction where
  descriptor :=
    { name := "word_count"
      shortDescription := "Count whitespace-separated words"
      longDescription := ""
      parametersSchema := objectSchema [("text", typeSchema "string")] ["text"]
      parameterDocs := [] }
  params := [⟨"text", .string, none⟩]
  handler args := .ofResult ((args.getText "text").map fun text => .ofNat (words text).length)

/-- The tool that looks into documents. -/
def pointerTool : ToolFunction where
  descriptor :=
    { name := "json_pointer"
      shortDescription := "Extract a value from a JSON document"
      longDescription := "Resolves an RFC 6901 pointer such as `/items/0/name`."
      parametersSchema :=
        objectSchema [("document", .object []), ("pointer", typeSchema "string")]
          ["document", "pointer"]
      parameterDocs :=
        [("document", "Any JSON value"),
         ("pointer", "JSON pointer, empty for the whole document")] }
  params := [⟨"document", .any, none⟩, ⟨"pointer", .string, none⟩]
  handler args :=
    .ofResult <|
      match args.getText "pointer" with
      | .error error => .error error
      | .ok pointer =>
        match ((args.raw? "document").getD .null).pointer? pointer with
        | some value => .ok value
        | none => .error (.invalidArgument s!"pointer `{pointer}` does not resolve")

/-- Reads the configuration. -/
def init (context : PluginContext) : HookOutcome :=
  match readEllipsis context.config with
  | .ok _ => .succeeded
  | .error problem => .failed (.plugin pluginId s!"invalid config: {problem.message}")

/-- The tools with the configured ellipsis. -/
def tools (context : PluginContext) : List ToolFunction :=
  let ellipsis :=
    match readEllipsis context.config with
    | .ok ellipsis => ellipsis
    | .error _ => defaultEllipsis
  [normalizeTool, truncateTool ellipsis, wordCountTool, pointerTool]

/-- The built-in text plugin. -/
def plugin : Plugin where
  init := init
  tools := tools
  shutdown _ := .succeeded

end CoreText

end PluginHost
