import PluginHost.Text.Classes

/-!
# Patterns over text

A pattern describes texts by characters, sequences, alternatives, repetitions and conditions
on the place where it stands.  Matching gives the positions at which a match that starts at a
position can end; a repetition goes on only after an item that took up some text, so that the
text left bounds it.
-/

namespace PluginHost

open Text

/-- A set of characters. -/
inductive CharSet where
  | ranges (list : List CodeRange)
  | complement (set : CharSet)
  | union (left right : CharSet)
  | intersection (left right : CharSet)

namespace CharSet

/-- Whether a character belongs to a set. -/
def contains : CharSet → Char → Bool
  | ranges list, c => inRanges list c
  | complement set, c => !set.contains c
  | union left right, c => left.contains c || right.contains c
  | intersection left right, c => left.contains c && right.contains c

/-- The set of one character. -/
def single (c : Char) : CharSet :=
  ranges [⟨c.toNat, c.toNat⟩]

/-- The set without any character. -/
def empty : CharSet :=
  ranges []

/-- The digits. -/
def digit : CharSet :=
  ranges [⟨0x30, 0x39⟩]

/-- Letters, digits and the underscore. -/
def word : CharSet :=
  ranges [⟨0x30, 0x39⟩, ⟨0x41, 0x5a⟩, ⟨0x5f, 0x5f⟩, ⟨0x61, 0x7a⟩]

/-- Blanks. -/
def space : CharSet :=
  ranges [⟨0x09, 0x0d⟩, ⟨0x20, 0x20⟩, ⟨0xa0, 0xa0⟩, ⟨0x2003, 0x2003⟩, ⟨0x2029, 0x2029⟩,
    ⟨0xfeff, 0xfeff⟩]

/-- All characters but the line break. -/
def inLine : CharSet :=
  complement (single '\n')

/-- The other case of a letter of the Latin alphabet. -/
def otherCase (c : Char) : Char :=
  if c.isUpper then c.toLower else if c.isLower then c.toUpper else c

end CharSet

/-- A condition on a place in a text. -/
inductive Place where
  | textStart
  | textEnd
  | lineStart
  | lineEnd
  | wordBoundary
  | notWordBoundary
deriving DecidableEq

/-- A pattern. -/
inductive Pattern where
  | empty
  | character (set : CharSet) (ignoreCase : Bool)
  | place (condition : Place)
  | sequence (first second : Pattern)
  | either (left right : Pattern)
  /-- At least `least` times, at most `most` times if there is a limit. -/
  | repeated (item : Pattern) (least : Nat) (most : Option Nat)
  /-- Holds where a match of the inner pattern starts, or does not start. -/
  | ahead (inner : Pattern) (holds : Bool)
  /-- Holds where a match of the inner pattern ends, or does not end. -/
  | behind (inner : Pattern) (holds : Bool)

namespace Pattern

/-- Whether a character takes part in words. -/
def isWordCharacter (c : Char) : Bool :=
  c == '_' || isAlphanumeric c

/-- Whether the characters at and before a position are in and outside a word. -/
def atBoundary (text : Array Char) (position : Nat) : Bool :=
  let before := position != 0 && (text[position - 1]?).any isWordCharacter
  let after := (text[position]?).any isWordCharacter
  before != after

/-- Whether a condition holds at a position. -/
def holdsAt (text : Array Char) (position : Nat) : Place → Bool
  | .textStart => position == 0
  | .textEnd => position == text.size
  | .lineStart => position == 0 || text[position - 1]? == some '\n'
  | .lineEnd => position == text.size || text[position]? == some '\n'
  | .wordBoundary => atBoundary text position
  | .notWordBoundary => !atBoundary text position

/-- The ends of exactly `count` items that start at one of the given positions. -/
def exactEnds (step : Nat → List Nat) : Nat → List Nat → List Nat
  | 0, positions => positions
  | count + 1, positions => exactEnds step count (positions.flatMap step).eraseDups

/-- The ends of up to `count` items that start at one of the given positions, each of which
takes up some text. -/
def upToEnds (step : Nat → List Nat) : Nat → List Nat → List Nat
  | 0, positions => positions
  | _ + 1, [] => []
  | count + 1, positions =>
    positions ++ upToEnds step count
      (positions.flatMap fun position =>
        (step position).filter fun next => position < next).eraseDups

/-- The positions where a match that starts at a position can end. -/
def ends (text : Array Char) : Pattern → Nat → List Nat
  | empty, position => [position]
  | character set ignoreCase, position =>
    match text[position]? with
    | none => []
    | some c =>
      if set.contains c || (ignoreCase && set.contains (CharSet.otherCase c)) then
        [position + 1]
      else []
  | place condition, position => if holdsAt text position condition then [position] else []
  | sequence first second, position =>
    ((ends text first position).flatMap (ends text second)).eraseDups
  | either left right, position => (ends text left position ++ ends text right position).eraseDups
  | repeated item least most, position =>
    let further := match most with
      | some most => min (most - least) (text.size + 1)
      | none => text.size + 1
    (upToEnds (ends text item) further
      (exactEnds (ends text item) least [position])).eraseDups
  | ahead inner holds, position =>
    if (ends text inner position).isEmpty != holds then [position] else []
  | behind inner holds, position =>
    if ((List.range (position + 1)).any fun start =>
        (ends text inner start).contains position) == holds then [position] else []

/-- Whether a pattern matches somewhere in a text. -/
def occursIn (pattern : Pattern) (text : String) : Bool :=
  let characters := text.toList.toArray
  (List.range (characters.size + 1)).any fun start =>
    !(pattern.ends characters start).isEmpty

end Pattern

end PluginHost
