import PluginHost.Json.Reader

/-!
# Records in JSON

A record is an object with a fixed list of fields, each of one of four kinds; fields outside
the list are passed over.  A record may also be written as an array of its fields in order.
There are two readers: one takes the record from a text, so that the first fault in reading
order wins, one takes it from a value.
-/

namespace PluginHost

open Text

/-- What a field of a record holds. -/
inductive FieldKind where
  | text
  | optionalText
  | textList
  | value
deriving DecidableEq

/-- A field of a record. -/
structure RecordField where
  name : String
  kind : FieldKind
  /-- Whether the field must be present. -/
  required : Bool

/-- The shape of a record. -/
structure RecordShape where
  /-- How the record is named where something else is found. -/
  title : String
  fields : List RecordField

/-- What was read for a field. -/
inductive FieldValue where
  | text (value : String)
  | optionalText (value : Option String)
  | textList (value : List String)
  | value (value : Json)

/-- The fields that were read, by name. -/
abbrev RecordValues := List (String × FieldValue)

namespace RecordValues

/-- What was read for a field. -/
def find? (name : String) (values : RecordValues) : Option FieldValue :=
  values.lookup name

/-- The text of a field, empty if it was not read. -/
def textOf (name : String) (values : RecordValues) : String :=
  match find? name values with
  | some (.text value) => value
  | _ => ""

/-- The text of an optional field. -/
def optionalTextOf (name : String) (values : RecordValues) : Option String :=
  match find? name values with
  | some (.optionalText value) => value
  | _ => none

/-- The texts of a list field, empty if it was not read. -/
def textListOf (name : String) (values : RecordValues) : List String :=
  match find? name values with
  | some (.textList value) => value
  | _ => []

/-- The value of a field, null if it was not read. -/
def valueOf (name : String) (values : RecordValues) : Json :=
  match find? name values with
  | some (.value value) => value
  | _ => .null

end RecordValues

namespace RecordShape

/-- How a record written as an array of another length is told what was expected. -/
def lengthTitle (shape : RecordShape) : String :=
  s!"{shape.title} with {shape.fields.length} element" ++
    (if shape.fields.length == 1 then "" else "s")

/-- The first required field that was not read. -/
def missing? (shape : RecordShape) (values : RecordValues) : Option String :=
  (shape.fields.find? fun field =>
    field.required && (RecordValues.find? field.name values).isNone).map RecordField.name

/-- The field of a name. -/
def field? (shape : RecordShape) (name : String) : Option RecordField :=
  shape.fields.find? fun field => field.name == name

/-- The position from which on an array may leave fields out. -/
def firstMissing? : List RecordField → Nat → Option Nat
  | [], _ => none
  | field :: rest, position =>
    if field.required then some position else firstMissing? rest (position + 1)

end RecordShape

/-! ### Reading from a text -/

namespace JsonReader

/-- A fault of shape at a place. -/
def shapeFault {α : Type} (problem : ShapeProblem) (rest : List Symbol) : Except JsonFault α :=
  faultHere (.shape problem) rest

/-- The fault of finding some other value than expected.  Words, numbers and strings are read
first, so that their own faults win. -/
def mismatch {α : Type} (expected : String) (stream : List Symbol) : Except JsonFault α :=
  let found (what : JsonFound) (rest : List Symbol) : Except JsonFault α :=
    shapeFault (.invalidType what expected) rest
  match stream with
  | some 'n' :: rest => (word ['u', 'l', 'l'] rest).bind fun rest => found .null rest
  | some 't' :: rest => (word ['r', 'u', 'e'] rest).bind fun rest => found (.bool true) rest
  | some 'f' :: rest =>
    (word ['a', 'l', 's', 'e'] rest).bind fun rest => found (.bool false) rest
  | some '-' :: rest =>
    (number true rest).bind fun (value, rest) => found (.ofJson (.number value)) rest
  | some '"' :: rest => (string rest).bind fun (value, rest) => found (.text value) rest
  | some '[' :: rest => found .sequence (some '[' :: rest)
  | some '\x7b' :: rest => found .mapping (some '\x7b' :: rest)
  | rest =>
    if (nextDigit? rest).isSome then
      (number false rest).bind fun (value, rest) => found (.ofJson (.number value)) rest
    else
      faultNext .expectedValue rest

/-- A string where a text is expected. -/
def text (stream : List Symbol) : Step String :=
  match skipSeparators stream with
  | [] => faultNext .endInValue []
  | some '"' :: rest => string rest
  | rest => mismatch "a string" rest

/-- A string or null. -/
def optionalText (stream : List Symbol) : Step (Option String) :=
  match skipSeparators stream with
  | some 'n' :: rest => (word ['u', 'l', 'l'] rest).map fun rest => (none, rest)
  | rest => (text rest).map fun (value, rest) => (some value, rest)

/-- The strings of an array onto those read so far. -/
def textsOnto : Nat → Bool → List String → List Symbol → Step (List String)
  | 0, _, _, stream => faultHere .endInValue stream
  | fuel + 1, isFirst, read, stream =>
    match nextItem isFirst stream with
    | .error fault => .error fault
    | .ok (.closed rest) => .ok (read.reverse, rest)
    | .ok (.next rest) =>
      match text rest with
      | .error fault => .error fault
      | .ok (value, rest) => textsOnto fuel false (value :: read) rest

/-- An array of strings. -/
def textList (stream : List Symbol) : Step (List String) :=
  match skipSeparators stream with
  | [] => faultNext .endInValue []
  | some '[' :: rest => textsOnto (rest.length + 1) true [] rest
  | rest => mismatch "a sequence" rest

/-- A field's value, in a record that takes one level of depth. -/
def fieldValue (kind : FieldKind) (stream : List Symbol) : Step FieldValue :=
  match kind with
  | .text => (text stream).map fun (value, rest) => (.text value, rest)
  | .optionalText => (optionalText stream).map fun (value, rest) => (.optionalText value, rest)
  | .textList => (textList stream).map fun (value, rest) => (.textList value, rest)
  | .value =>
    (value (fuelFor stream) (depthLimit - 1) stream).map fun (value, rest) =>
      (.value value, rest)

/-! ### Passing over values -/

/-- Passes over the digits and what follows them in a number. -/
def skipExponent (stream : List Symbol) : Except JsonFault (List Symbol) :=
  match exponentSign (stream.drop 1) with
  | (_, rest) =>
    match nextDigit? rest with
    | some (_, rest) => .ok (skipDigits rest 0).2
    | none => faultNext .invalidNumber rest

/-- Passes over a fraction, after the point. -/
def skipFraction (stream : List Symbol) : Except JsonFault (List Symbol) :=
  match skipDigits stream 0 with
  | (0, rest) => faultNext .invalidNumber rest
  | (_, rest) => if startsExponent rest then skipExponent rest else .ok rest

/-- Passes over a number after its sign. -/
def skipNumber (stream : List Symbol) : Except JsonFault (List Symbol) :=
  let afterDigits : List Symbol → Except JsonFault (List Symbol)
    | some '.' :: rest => skipFraction rest
    | rest => if startsExponent rest then skipExponent rest else .ok rest
  match stream with
  | some '0' :: rest =>
    if (nextDigit? rest).isSome then faultNext .invalidNumber rest else afterDigits rest
  | rest =>
    match nextDigit? rest with
    | some (_, more) => afterDigits (skipDigits more 0).2
    | none => faultNext .invalidNumber rest

/-- Passes over an escape, after the backslash; surrogates need not be paired. -/
def skipEscape (stream : List Symbol) : Except JsonFault (List Symbol) :=
  match stream with
  | some 'u' :: rest => (hexEscape rest).map Prod.snd
  | rest => (escape rest).map Prod.snd

/-- Passes over the rest of a string. -/
def skipStringFrom : Nat → List Symbol → Except JsonFault (List Symbol)
  | 0, stream => faultHere .endInString stream
  | fuel + 1, stream =>
    match stream with
    | [] => faultHere .endInString []
    | none :: rest => skipStringFrom fuel rest
    | some c :: rest =>
      if c == '"' then .ok rest
      else if c == '\\' then
        match skipEscape rest with
        | .ok rest => skipStringFrom fuel rest
        | .error fault => .error fault
      else if c.toNat < 0x20 then faultHere .controlCharacter (some c :: rest)
      else skipStringFrom fuel rest

/-- Passes over a string after its opening quote. -/
def skipString (stream : List Symbol) : Except JsonFault (List Symbol) :=
  skipStringFrom (stream.length + 1) stream

/-- Passes over a key and its colon. -/
def skipKey (stream : List Symbol) : Except JsonFault (List Symbol) :=
  match skipSeparators stream with
  | [] => faultNext .endInObject []
  | some '"' :: rest =>
    match skipString rest with
    | .error fault => .error fault
    | .ok rest =>
      match skipSeparators rest with
      | [] => faultNext .endInObject []
      | some ':' :: rest => .ok rest
      | rest => faultNext .expectedColon rest
  | rest => faultNext .keyNotString rest

/-- An array or an object that is being passed over. -/
inductive Frame where
  | list
  | object
deriving DecidableEq

/-- A value without parts, if the stream starts with one. -/
def skipScalar? (stream : List Symbol) : Option (Except JsonFault (List Symbol)) :=
  match stream with
  | some 'n' :: rest => some (word ['u', 'l', 'l'] rest)
  | some 't' :: rest => some (word ['r', 'u', 'e'] rest)
  | some 'f' :: rest => some (word ['a', 'l', 's', 'e'] rest)
  | some '-' :: rest => some (skipNumber rest)
  | some '"' :: rest => some (skipString rest)
  | rest => if (nextDigit? rest).isSome then some (skipNumber rest) else none

mutual

/-- Passes over a value inside the given open frames, innermost first. -/
def skipValueIn : Nat → List Frame → List Symbol → Except JsonFault (List Symbol)
  | 0, _, stream => faultHere .endInValue stream
  | fuel + 1, frames, stream =>
    match skipSeparators stream with
    | [] => faultNext .endInValue []
    | some '[' :: rest => skipAfterItem fuel (.list :: frames) false rest
    | some '\x7b' :: rest => skipAfterItem fuel (.object :: frames) false rest
    | rest =>
      match skipScalar? rest with
      | none => faultNext .expectedValue rest
      | some (.error fault) => .error fault
      | some (.ok rest) =>
        if frames.isEmpty then .ok rest else skipAfterItem fuel frames true rest

/-- Passes over what follows an item, or the opening of a frame. -/
def skipAfterItem : Nat → List Frame → Bool → List Symbol → Except JsonFault (List Symbol)
  | 0, _, _, stream => faultHere .endInValue stream
  | _, [], _, stream => .ok stream
  | fuel + 1, frame :: frames, hasItem, stream =>
    let close (rest : List Symbol) : Except JsonFault (List Symbol) :=
      if frames.isEmpty then .ok rest else skipAfterItem fuel frames true rest
    let goOn (rest : List Symbol) : Except JsonFault (List Symbol) :=
      match frame with
      | .list => skipValueIn fuel (frame :: frames) rest
      | .object =>
        match skipKey rest with
        | .error fault => .error fault
        | .ok rest => skipValueIn fuel (frame :: frames) rest
    match skipSeparators stream, frame with
    | [], .list => faultNext .endInList []
    | [], .object => faultNext .endInObject []
    | some ']' :: rest, .list => close rest
    | some '\x7d' :: rest, .object => close rest
    | rest, _ =>
      if hasItem then
        match rest, frame with
        | some ',' :: more, _ => goOn more
        | rest, .list => faultNext .expectedListCommaOrEnd rest
        | rest, .object => faultNext .expectedObjectCommaOrEnd rest
      else
        goOn rest

end

/-- Passes over a value of any depth. -/
def skipValue (stream : List Symbol) : Except JsonFault (List Symbol) :=
  skipValueIn (fuelFor stream) [] stream

/-! ### Records -/

/-- The place of a fault that is found between two fields: after blanks, and after the closing
brace if one follows. -/
def afterRecord (stream : List Symbol) : List Symbol :=
  match skipSeparators stream with
  | some '\x7d' :: rest => rest
  | rest => rest

/-- The fields of a record written as an object, onto those read so far. -/
def recordFields (shape : RecordShape) :
    Nat → Bool → RecordValues → List Symbol → Step RecordValues
  | 0, _, _, stream => faultHere .endInValue stream
  | fuel + 1, isFirst, read, stream =>
    match nextField isFirst stream with
    | .error fault => .error fault
    | .ok (.closed rest) =>
      match shape.missing? read with
      | some name => shapeFault (.missingField name) rest
      | none => .ok (read, rest)
    | .ok (.next rest) =>
      match string rest with
      | .error fault => .error fault
      | .ok (name, rest) =>
        let colon : Except JsonFault (List Symbol) :=
          match skipSeparators rest with
          | some ':' :: rest => .ok rest
          | [] => faultNext .endInObject []
          | rest => faultNext .expectedColon rest
        match shape.field? name with
        | none =>
          match colon.bind skipValue with
          | .error fault => .error fault
          | .ok rest => recordFields shape fuel false read rest
        | some field =>
          if (RecordValues.find? name read).isSome then
            shapeFault (.duplicateField name) (afterRecord rest)
          else
            match colon.bind (fieldValue field.kind) with
            | .error fault => .error fault
            | .ok (value, rest) => recordFields shape fuel false ((name, value) :: read) rest

/-- The fields of a record written as an array, onto those read so far. -/
def recordItems (shape : RecordShape) :
    List RecordField → Bool → RecordValues → List Symbol → Step RecordValues
  | [], _, read, stream =>
    match skipSeparators stream with
    | [] => faultNext .endInList []
    | some ']' :: rest => .ok (read, rest)
    | some ',' :: rest =>
      match skipSeparators rest with
      | some ']' :: rest => faultNext .trailingComma (some ']' :: rest)
      | rest => faultNext .trailingCharacters rest
    | rest => faultNext .trailingCharacters rest
  | field :: fields, isFirst, read, stream =>
    match nextItem isFirst stream with
    | .error fault => .error fault
    | .ok (.closed rest) =>
      match RecordShape.firstMissing? (field :: fields) read.length with
      | some position => shapeFault (.invalidLength position shape.lengthTitle) rest
      | none => .ok (read, rest)
    | .ok (.next rest) =>
      match fieldValue field.kind rest with
      | .error fault => .error fault
      | .ok (value, rest) => recordItems shape fields false ((field.name, value) :: read) rest

/-- A record at the front of a stream. -/
def record (shape : RecordShape) (stream : List Symbol) : Step RecordValues :=
  match skipSeparators stream with
  | [] => faultNext .endInValue []
  | some '[' :: rest => recordItems shape shape.fields true [] rest
  | some '\x7b' :: rest => recordFields shape (rest.length + 1) true [] rest
  | rest => mismatch shape.title rest

end JsonReader

/-- The record that a whole stream spells. -/
def RecordShape.read (shape : RecordShape) (stream : List Symbol) :
    Except JsonFault RecordValues :=
  match JsonReader.record shape stream with
  | .ok (values, rest) => JsonReader.finish values rest
  | .error fault => .error fault

/-! ### Reading from a value -/

namespace Json

/-- A string where a text is expected. -/
def toText : Json → Except ShapeProblem String
  | string value => .ok value
  | other => .error (.invalidType (.ofJson other) "a string")

/-- A string or null. -/
def toOptionalText : Json → Except ShapeProblem (Option String)
  | null => .ok none
  | other => other.toText.map some

/-- An array of strings. -/
def toTextList : Json → Except ShapeProblem (List String)
  | array items => items.mapM toText
  | other => .error (.invalidType (.ofJson other) "a sequence")

/-- A field's value. -/
def toFieldValue (kind : FieldKind) (value : Json) : Except ShapeProblem FieldValue :=
  match kind with
  | .text => value.toText.map .text
  | .optionalText => value.toOptionalText.map .optionalText
  | .textList => value.toTextList.map .textList
  | .value => .ok (.value value)

/-- The fields of an object that belong to a record, onto those read so far. -/
def recordOfFields (shape : RecordShape) :
    RecordValues → JsonFields → Except ShapeProblem RecordValues
  | read, [] =>
    match shape.missing? read with
    | some name => .error (.missingField name)
    | none => .ok read
  | read, (name, value) :: rest =>
    match shape.field? name with
    | none => recordOfFields shape read rest
    | some field =>
      match value.toFieldValue field.kind with
      | .error problem => .error problem
      | .ok found => recordOfFields shape ((name, found) :: read) rest

/-- The items of an array that is a record, onto those read so far. -/
def recordOfItems (shape : RecordShape) :
    List RecordField → RecordValues → List Json → Except ShapeProblem RecordValues
  | [], read, [] => .ok read
  | [], read, rest =>
    .error (.invalidLength (read.length + rest.length) "fewer elements in array")
  | field :: fields, read, [] =>
    match RecordShape.firstMissing? (field :: fields) read.length with
    | some position => .error (.invalidLength position shape.lengthTitle)
    | none => .ok read
  | field :: fields, read, value :: rest =>
    match value.toFieldValue field.kind with
    | .error problem => .error problem
    | .ok found => recordOfItems shape fields ((field.name, found) :: read) rest

/-- The record that a value holds. -/
def toRecord (shape : RecordShape) : Json → Except ShapeProblem RecordValues
  | object fields => recordOfFields shape [] fields
  | array items => recordOfItems shape shape.fields [] items
  | other => .error (.invalidType (.ofJson other) shape.title)

end Json

end PluginHost
