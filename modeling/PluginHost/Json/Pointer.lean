import PluginHost.Decimal.Integer
import PluginHost.Json.Basic
import PluginHost.Text.Blank

/-!
# JSON pointers

A pointer is empty, for the whole document, or a list of steps that each start with a slash.
In a step `~1` stands for a slash and `~0` for a tilde.
-/

namespace PluginHost

open Text

namespace JsonPointer

/-- Replaces `~` and a mark by a character. -/
def replaceMark (mark meant : Char) : List Char → List Char
  | '~' :: c :: rest =>
    if c == mark then meant :: replaceMark mark meant rest
    else '~' :: replaceMark mark meant (c :: rest)
  | c :: rest => c :: replaceMark mark meant rest
  | [] => []

/-- The key that a step stands for. -/
def unescape (step : List Char) : List Char :=
  replaceMark '0' '~' (replaceMark '1' '/' step)

/-- The spelling of one character of a key in a step. -/
def escapeChar (c : Char) : List Char :=
  if c == '~' then ['~', '0'] else if c == '/' then ['~', '1'] else [c]

/-- A key as a step of a pointer. -/
def escape (key : String) : String :=
  String.ofList (key.toList.flatMap escapeChar)

/-- The steps of a pointer, none if it is not empty and lacks its first slash. -/
def steps? (pointer : List Char) : Option (List (List Char)) :=
  match pointer with
  | [] => some []
  | '/' :: rest => some ((splitList '/' rest).map unescape)
  | _ => none

/-- The position that a step names: digits without a sign and without leading zeros. -/
def index? (step : List Char) : Option Nat :=
  match step with
  | '+' :: _ => none
  | '0' :: _ :: _ => none
  | step =>
    match IntegerRange.unsigned64.parse step with
    | .ok index => some index.toNat
    | .error _ => none

/-- The value that the steps lead to. -/
def follow? : List (List Char) → Json → Option Json
  | [], value => some value
  | step :: rest, .object fields =>
    (KeyedList.get? (String.ofList step) fields).bind (follow? rest)
  | step :: rest, .array items =>
    ((index? step).bind fun index => items[index]?).bind (follow? rest)
  | _ :: _, _ => none

end JsonPointer

/-- The value that a pointer leads to. -/
def Json.pointer? (pointer : String) (document : Json) : Option Json :=
  (JsonPointer.steps? pointer.toList).bind fun steps => JsonPointer.follow? steps document

end PluginHost
