import PluginHost.Json.Pointer
import PluginHost.Schema.Fault

/-!
# References between schemas

Schemas are found by an identifier and a fragment.  A schema with an identifier of its own is
a resource; a fragment is empty for the whole resource, a pointer into it, or an anchor that
names a place.
-/

namespace PluginHost

open Text

/-- A schema that can be found by its identifier. -/
structure SchemaResource where
  identifier : String
  content : Json

namespace SchemaReference

/-- The identifier of a schema that has none of its own. -/
def defaultIdentifier : String :=
  "json-schema:///"

/-- The part before the first mark of a fragment, and the part after it. -/
def splitFragment (reference : String) : String × String :=
  let text := reference.toList
  (String.ofList (text.takeWhile (· != '#')), String.ofList ((text.dropWhile (· != '#')).drop 1))

/-- The scheme of an identifier, if it has one. -/
def scheme? (reference : List Char) : Option (List Char) :=
  let name := reference.takeWhile fun c => c.isAlphanum || c == '+' || c == '-' || c == '.'
  match name, reference.drop name.length with
  | first :: _, ':' :: _ => if first.isAlpha then some name else none
  | _, _ => none

/-- The scheme and authority of an identifier, and its path. -/
def splitPath (identifier : List Char) : List Char × List Char :=
  let name := (scheme? identifier).getD []
  let afterScheme := identifier.drop (name.length + 1)
  match afterScheme with
  | '/' :: '/' :: rest =>
    (name ++ [':', '/', '/'] ++ rest.takeWhile (· != '/'), rest.dropWhile (· != '/'))
  | rest => (name ++ [':'], rest)

/-- An identifier as it is meant from within another one. -/
def resolve (base reference : String) : String :=
  let text := reference.toList
  if text.isEmpty then base
  else if (scheme? text).isSome then reference
  else
    let (origin, path) := splitPath base.toList
    match text with
    | '/' :: '/' :: _ =>
      String.ofList ((scheme? base.toList).getD []) ++ ":" ++ reference
    | '/' :: _ => String.ofList (origin ++ text)
    | text =>
      let folder := (path.reverse.dropWhile (· != '/')).reverse
      String.ofList (origin ++ (if folder.isEmpty then ['/'] else folder) ++ text)

/-- The identifier that a schema gives itself, without an empty fragment. -/
def ownIdentifier? (schema : Json) : Option String :=
  ((schema.get? "$id").bind Json.asString?).bind fun name =>
    let (identifier, _) := splitFragment name
    if identifier == "" then none else some identifier

/-- The identifier that holds inside a schema. -/
def baseWithin (base : String) (schema : Json) : String :=
  match ownIdentifier? schema with
  | some name => resolve base name
  | none => base

/-- Whether values under a keyword are no schemas. -/
def holdsData (keyword : String) : Bool :=
  keyword == "enum" || keyword == "const"

/-- The resources inside a schema. -/
def resources (base : String) (schema : Json) : List SchemaResource :=
  match schema with
  | .object fields =>
    let base := baseWithin base schema
    let own := if (ownIdentifier? schema).isSome then [⟨base, schema⟩] else []
    own ++ inFields base fields
  | .array items => inItems base items
  | _ => []
where
  inFields (base : String) : List (String × Json) → List SchemaResource
    | [] => []
    | (key, value) :: rest =>
      (if holdsData key then [] else resources base value) ++ inFields base rest
  inItems (base : String) : List Json → List SchemaResource
    | [] => []
    | value :: rest => resources base value ++ inItems base rest

/-- Whether a schema is the place that an anchor names. -/
def hasAnchor (name : String) (schema : Json) : Bool :=
  (schema.get? "$anchor").bind Json.asString? == some name ||
    (schema.get? "$dynamicAnchor").bind Json.asString? == some name

/-- The place in a resource that an anchor names; other resources inside it are left out. -/
def anchored? (isRoot : Bool) (name : String) (schema : Json) : Option Json :=
  if !isRoot && (ownIdentifier? schema).isSome then none
  else if hasAnchor name schema then some schema
  else
    match schema with
    | .object fields => inFields name fields
    | .array items => inItems name items
    | _ => none
where
  inFields (name : String) : List (String × Json) → Option Json
    | [] => none
    | (key, value) :: rest =>
      match (if holdsData key then none else anchored? false name value) with
      | some found => some found
      | none => inFields name rest
  inItems (name : String) : List Json → Option Json
    | [] => none
    | value :: rest =>
      match anchored? false name value with
      | some found => some found
      | none => inItems name rest

/-- The value at the end of a pointer, and the identifier that holds around it. -/
def follow? (base : String) : List (List Char) → Json → Option (String × Json)
  | [], value => some (base, value)
  | step :: rest, .object fields =>
    (KeyedList.get? (String.ofList step) fields).bind fun value =>
      follow? (baseWithin base (.object fields)) rest value
  | step :: rest, .array items =>
    ((JsonPointer.index? step).bind fun index => items[index]?).bind (follow? base rest)
  | _ :: _, _ => none

/-- What a fragment of a resource stands for, with the identifier that holds around it. -/
def find (resource : SchemaResource) (fragment : String) :
    Except SchemaFault (String × Json) :=
  if fragment == "" then
    .ok (resource.identifier, resource.content)
  else
    match fragment.toList with
    | '/' :: _ =>
      match (JsonPointer.steps? fragment.toList).bind fun steps =>
          follow? resource.identifier steps resource.content with
      | some found => .ok found
      | none => .error (.danglingPointer fragment)
    | _ =>
      match anchored? true fragment resource.content with
      | some found => .ok (resource.identifier, found)
      | none =>
        .error (if fragment.contains '/' then .invalidAnchor fragment
          else .unknownAnchor fragment)

end SchemaReference

end PluginHost
