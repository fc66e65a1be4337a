import PluginHost.KeyedList
import PluginHost.Toml.Basic

/-!
# Tables under construction

The entries of a table come from many places of a document.  Each table remembers how it came
to be, which decides what may still be added to it: a table stated by a header, or in braces,
is not stated again, and dotted keys add only to tables that no header stated.
-/

namespace PluginHost

/-- How a table came to be. -/
inductive TomlOrigin where
  /-- By its own header, in braces, or as the document itself. -/
  | stated
  /-- By the header of a table inside it. -/
  | implied
  /-- By a dotted key. -/
  | dotted
deriving DecidableEq

/-- An entry of a table under construction. -/
inductive TomlNode where
  | value (value : TomlValue)
  | table (origin : TomlOrigin) (entries : List (String × TomlNode))
  /-- The tables of a header in double brackets. -/
  | tables (items : List (List (String × TomlNode)))

/-- The entries of a table under construction, listed by key. -/
abbrev TomlEntries := KeyedList TomlNode

namespace TomlNode

mutual

/-- The value that an entry has come to. -/
def toValue : TomlNode → TomlValue
  | .value found => found
  | .table _ entries => .table (entryValues entries)
  | .tables items => .array (tableValues items)

/-- The values of entries. -/
def entryValues : List (String × TomlNode) → List (String × TomlValue)
  | [] => []
  | (key, node) :: rest => (key, toValue node) :: entryValues rest

/-- The values of tables. -/
def tableValues : List (List (String × TomlNode)) → List TomlValue
  | [] => []
  | entries :: rest => .table (entryValues entries) :: tableValues rest

end

end TomlNode

namespace TomlEntries

open KeyedList

/-- Changes the entries of the table at a path.  The tables on the way that are missing are
made; of tables in double brackets, the last one is entered.  `byDots` says that a dotted key
leads there. -/
def updateAt (byDots : Bool) (change : TomlOrigin → TomlEntries → Option TomlEntries) :
    List String → TomlOrigin → TomlEntries → Option TomlEntries
  | [], origin, entries => change origin entries
  | key :: path, _, entries =>
    match get? key entries with
    | none =>
      let origin := if byDots then TomlOrigin.dotted else .implied
      (updateAt byDots change path origin []).map fun inner =>
        insert key (.table origin inner) entries
    | some (.value _) => none
    | some (.table origin inner) =>
      if byDots && origin == .stated then none
      else
        (updateAt byDots change path origin inner).map fun inner =>
          insert key (.table origin inner) entries
    | some (.tables items) =>
      match items.getLast? with
      | none => none
      | some last =>
        (updateAt byDots change path .stated last).map fun inner =>
          insert key (.tables (items.dropLast ++ [inner])) entries

/-- Puts a value under the last part of a dotted key, in the table that the parts before it
lead to. -/
def insertDotted (path : List String) (key : String) (value : TomlNode) (origin : TomlOrigin)
    (entries : TomlEntries) : Option TomlEntries :=
  updateAt true
    (fun origin entries =>
      if (origin == .dotted) == path.isEmpty || contains key entries then none
      else some (insert key value entries))
    path origin entries

/-- Opens the table of a header. -/
def openTable (path : List String) (key : String) (entries : TomlEntries) :
    Option TomlEntries :=
  updateAt false
    (fun _ entries =>
      match get? key entries with
      | none => some (insert key (.table .stated []) entries)
      | some (.table .implied inner) => some (insert key (.table .stated inner) entries)
      | some _ => none)
    path .stated entries

/-- Opens a further table of a header in double brackets. -/
def openFurther (path : List String) (key : String) (entries : TomlEntries) :
    Option TomlEntries :=
  updateAt false
    (fun _ entries =>
      match get? key entries with
      | none => some (insert key (.tables [[]]) entries)
      | some (.tables items) => some (insert key (.tables (items ++ [[]])) entries)
      | some _ => none)
    path .stated entries

/-- Puts a value under a dotted key in the table of a header. -/
def insertUnder (header path : List String) (key : String) (value : TomlNode)
    (entries : TomlEntries) : Option TomlEntries :=
  updateAt false (insertDotted path key value) header .stated entries

end TomlEntries

end PluginHost
