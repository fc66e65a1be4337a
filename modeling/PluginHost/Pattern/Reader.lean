import PluginHost.Decimal.Reading
import PluginHost.Pattern.Basic

/-!
# Reading patterns

Patterns are written as regular expressions: literal characters, classes in brackets, escapes,
groups, alternatives, counted repetitions, flags and conditions on the text around.  The
reader gives nothing for a text that is no pattern; references to earlier groups are not
patterns.
-/

namespace PluginHost

open Text

namespace PatternReader

/-- The options that hold for the characters that follow. -/
structure Flags where
  ignoreCase : Bool
  multiLine : Bool
  dotAll : Bool

/-- The options at the start of a pattern. -/
def Flags.none : Flags :=
  ⟨false, false, false⟩

/-- The value of a hexadecimal digit. -/
def hexValue? (c : Char) : Option Nat :=
  if c.isDigit then some (digitValue c)
  else if 'a' ≤ c && c ≤ 'f' then some (c.toNat - 'a'.toNat + 10)
  else if 'A' ≤ c && c ≤ 'F' then some (c.toNat - 'A'.toNat + 10)
  else none

/-- The character of a code point in hexadecimal. -/
def hexCharacter? (digits : List Char) : Option Char :=
  if digits.isEmpty then none
  else
    (digits.foldlM (fun value c => (hexValue? c).map (value * 16 + ·)) 0).bind fun code =>
      if code.isValidChar then some (Char.ofNat code) else none

/-- A character by its code point: a fixed number of digits, or any number in braces. -/
def codeEscape? (digits : Nat) (text : List Char) : Option (Char × List Char) :=
  match text with
  | '\x7b' :: rest =>
    match rest.dropWhile (· != '\x7d') with
    | _ :: more => (hexCharacter? (rest.takeWhile (· != '\x7d'))).map fun c => (c, more)
    | [] => none
  | text =>
    if text.length < digits then none
    else (hexCharacter? (text.take digits)).map fun c => (c, text.drop digits)

/-- What an escape stands for. -/
inductive Escape where
  | character (c : Char)
  | set (set : CharSet)
  | place (condition : Place)

/-- Whether a character may be escaped to stand for itself. -/
def isPunctuation (c : Char) : Bool :=
  c.toNat < 0x80 && !c.isAlphanum && c != '<' && c != '>'

/-- The characters of letters that stand for control characters. -/
def controlCharacters : List (Char × Char) :=
  [('n', '\n'), ('t', '\t'), ('r', '\r'), ('f', '\x0c'), ('v', '\x0b'), ('a', '\x07')]

/-- The sets of letters that stand for sets. -/
def letterSets : List (Char × CharSet) :=
  [('d', .digit), ('D', .complement .digit), ('w', .word), ('W', .complement .word),
   ('s', .space), ('S', .complement .space)]

/-- The conditions of letters that stand for conditions. -/
def letterPlaces : List (Char × Place) :=
  [('b', .wordBoundary), ('B', .notWordBoundary), ('A', .textStart), ('z', .textEnd)]

/-- An escape after its backslash. -/
def escape? (text : List Char) : Option (Escape × List Char) :=
  match text with
  | [] => none
  | 'x' :: rest => (codeEscape? 2 rest).map fun (c, rest) => (.character c, rest)
  | 'u' :: rest => (codeEscape? 4 rest).map fun (c, rest) => (.character c, rest)
  | 'U' :: rest => (codeEscape? 8 rest).map fun (c, rest) => (.character c, rest)
  | 'c' :: letter :: rest =>
    if letter.isAlpha then some (.character (Char.ofNat (letter.toNat % 32)), rest) else none
  | c :: rest =>
    if let some meant := controlCharacters.lookup c then some (.character meant, rest)
    else if let some set := letterSets.lookup c then some (.set set, rest)
    else if let some condition := letterPlaces.lookup c then some (.place condition, rest)
    else if isPunctuation c then some (.character c, rest)
    else none

/-! ### Classes -/

/-- The classes that are known by name. -/
def namedClass? (name : List Char) : Option CharSet :=
  [("alnum", CharSet.ranges [⟨0x30, 0x39⟩, ⟨0x41, 0x5a⟩, ⟨0x61, 0x7a⟩]),
   ("alpha", .ranges [⟨0x41, 0x5a⟩, ⟨0x61, 0x7a⟩]), ("ascii", .ranges [⟨0, 0x7f⟩]),
   ("blank", .ranges [⟨0x09, 0x09⟩, ⟨0x20, 0x20⟩]),
   ("cntrl", .ranges [⟨0, 0x1f⟩, ⟨0x7f, 0x7f⟩]), ("digit", .digit),
   ("graph", .ranges [⟨0x21, 0x7e⟩]), ("lower", .ranges [⟨0x61, 0x7a⟩]),
   ("print", .ranges [⟨0x20, 0x7e⟩]),
   ("punct", .ranges [⟨0x21, 0x2f⟩, ⟨0x3a, 0x40⟩, ⟨0x5b, 0x60⟩, ⟨0x7b, 0x7e⟩]),
   ("space", .ranges [⟨0x09, 0x0d⟩, ⟨0x20, 0x20⟩]), ("upper", .ranges [⟨0x41, 0x5a⟩]),
   ("word", .word),
   ("xdigit", .ranges [⟨0x30, 0x39⟩, ⟨0x41, 0x46⟩, ⟨0x61, 0x66⟩])].lookup (String.ofList name)

/-- A class by its name between colons, after the opening bracket and colon. -/
def bracketedName? (text : List Char) : Option (CharSet × List Char) :=
  let (negated, body) := match text with
    | '^' :: rest => (true, rest)
    | rest => (false, rest)
  match body.dropWhile Char.isAlphanum with
  | ':' :: ']' :: rest =>
    (namedClass? (body.takeWhile Char.isAlphanum)).map fun set =>
      (if negated then .complement set else set, rest)
  | _ => none

/-- A single character of a class, or a set by an escape. -/
def classAtom? (text : List Char) : Option ((Char ⊕ CharSet) × List Char) :=
  match text with
  | [] => none
  | '\\' :: rest =>
    match escape? rest with
    | some (.character c, rest) => some (.inl c, rest)
    | some (.set set, rest) => some (.inr set, rest)
    | _ => none
  | c :: rest => some (.inl c, rest)

/-- A character, a range of characters or an escaped set. -/
def classItem? (text : List Char) : Option (CharSet × List Char) :=
  match classAtom? text with
  | none => none
  | some (.inr set, rest) => some (set, rest)
  | some (.inl c, '-' :: ']' :: rest) => some (.single c, '-' :: ']' :: rest)
  | some (.inl c, '-' :: '-' :: rest) => some (.single c, '-' :: '-' :: rest)
  | some (.inl c, '-' :: rest) =>
    match classAtom? rest with
    | some (.inl last, rest) =>
      if c.toNat ≤ last.toNat then some (.ranges [⟨c.toNat, last.toNat⟩], rest) else none
    | _ => none
  | some (.inl c, rest) => some (.single c, rest)

mutual

/-- A class after its opening bracket. -/
def class? : Nat → List Char → Option (CharSet × List Char)
  | 0, _ => none
  | fuel + 1, text =>
    let (negated, body) := match text with
      | '^' :: rest => (true, rest)
      | rest => (false, rest)
    let first := match body with
      | ']' :: rest => (CharSet.single ']', rest)
      | rest => (CharSet.empty, rest)
    (classItems? fuel first.1 first.2).map fun (set, rest) =>
      (if negated then .complement set else set, rest)

/-- The items of a class onto the set read so far, and the closing bracket. -/
def classItems? : Nat → CharSet → List Char → Option (CharSet × List Char)
  | 0, _, _ => none
  | fuel + 1, read, text =>
    match text with
    | [] => none
    | ']' :: rest => some (read, rest)
    | '&' :: '&' :: rest =>
      (classItems? fuel .empty rest).map fun (set, rest) => (.intersection read set, rest)
    | '-' :: '-' :: rest =>
      (classItems? fuel .empty rest).map fun (set, rest) =>
        (.intersection read (.complement set), rest)
    | '[' :: ':' :: rest =>
      match bracketedName? rest with
      | some (set, rest) => classItems? fuel (.union read set) rest
      | none =>
        match class? fuel (':' :: rest) with
        | some (set, rest) => classItems? fuel (.union read set) rest
        | none => none
    | '[' :: rest =>
      match class? fuel rest with
      | some (set, rest) => classItems? fuel (.union read set) rest
      | none => none
    | text =>
      match classItem? text with
      | some (set, rest) => classItems? fuel (.union read set) rest
      | none => none

end

/-! ### Repetitions -/

/-- A number of repetitions. -/
def count? (digits : List Char) : Option Nat :=
  if digits.isEmpty || 9 < digits.length then none
  else some (digits.foldl (fun value c => value * 10 + digitValue c) 0)

/-- The limits of a counted repetition, after the opening brace. -/
def limits? (text : List Char) : Option (Nat × Option Nat × List Char) :=
  let rest := text.dropWhile Char.isDigit
  (count? (text.takeWhile Char.isDigit)).bind fun least =>
    match rest with
    | '\x7d' :: rest => some (least, some least, rest)
    | ',' :: '\x7d' :: rest => some (least, none, rest)
    | ',' :: rest =>
      (count? (rest.takeWhile Char.isDigit)).bind fun most =>
        match rest.dropWhile Char.isDigit with
        | '\x7d' :: rest => if least ≤ most then some (least, some most, rest) else none
        | _ => none
    | _ => none

/-- The text after the mark that prefers few repetitions, which changes no match's existence. -/
def skipLazy : List Char → List Char
  | '?' :: rest => rest
  | rest => rest

/-- A pattern with the repetitions that follow it. -/
def repetitions? : Nat → Pattern → List Char → Option (Pattern × List Char)
  | 0, _, _ => none
  | fuel + 1, item, text =>
    match text with
    | '*' :: rest => repetitions? fuel (.repeated item 0 none) (skipLazy rest)
    | '+' :: rest => repetitions? fuel (.repeated item 1 none) (skipLazy rest)
    | '?' :: rest => repetitions? fuel (.repeated item 0 (some 1)) (skipLazy rest)
    | '\x7b' :: rest =>
      match limits? rest with
      | some (least, most, rest) => repetitions? fuel (.repeated item least most) (skipLazy rest)
      | none => none
    | rest => some (item, rest)

/-! ### Groups and sequences -/

/-- How a group begins. -/
inductive Opening where
  | group (flags : Flags)
  | condition (isAhead holds : Bool)
  /-- Options for the rest of the enclosing group. -/
  | options (flags : Flags)

/-- Options after a question mark, up to a colon or a closing parenthesis. -/
def options? : Bool → Flags → List Char → Option (Opening × List Char)
  | _, flags, ':' :: rest => some (.group flags, rest)
  | _, flags, ')' :: rest => some (.options flags, rest)
  | on, flags, 'i' :: rest => options? on { flags with ignoreCase := on } rest
  | on, flags, 'm' :: rest => options? on { flags with multiLine := on } rest
  | on, flags, 's' :: rest => options? on { flags with dotAll := on } rest
  | on, flags, 'u' :: rest => options? on flags rest
  | on, flags, 'U' :: rest => options? on flags rest
  | true, flags, '-' :: rest => options? false flags rest
  | _, _, _ => none

/-- The text after a group's name and the mark that closes it. -/
def skipName? (text : List Char) : Option (List Char) :=
  let isNameChar (c : Char) : Bool := c == '_' || c.isAlphanum
  match text.takeWhile isNameChar, text.dropWhile isNameChar with
  | first :: _, '>' :: rest => if first.isDigit then none else some rest
  | _, _ => none

/-- What follows an opening parenthesis. -/
def opening? (flags : Flags) (text : List Char) : Option (Opening × List Char) :=
  match text with
  | '?' :: '=' :: rest => some (.condition true true, rest)
  | '?' :: '!' :: rest => some (.condition true false, rest)
  | '?' :: '<' :: '=' :: rest => some (.condition false true, rest)
  | '?' :: '<' :: '!' :: rest => some (.condition false false, rest)
  | '?' :: 'P' :: '<' :: rest => (skipName? rest).map fun rest => (.group flags, rest)
  | '?' :: '<' :: rest => (skipName? rest).map fun rest => (.group flags, rest)
  | '?' :: rest => options? true flags rest
  | rest => some (.group flags, rest)

mutual

/-- Alternatives up to the end of the text or a closing parenthesis. -/
def alternatives? : Nat → Flags → List Char → Option (Pattern × List Char)
  | 0, _, _ => none
  | fuel + 1, flags, text =>
    match sequence? fuel flags .empty text with
    | some (left, flags, '|' :: rest) =>
      (alternatives? fuel flags rest).map fun (right, rest) => (.either left right, rest)
    | some (pattern, _, rest) => some (pattern, rest)
    | none => none

/-- A sequence onto the pattern read so far, with the options at its end. -/
def sequence? : Nat → Flags → Pattern → List Char → Option (Pattern × Flags × List Char)
  | 0, _, _, _ => none
  | fuel + 1, flags, read, text =>
    match text with
    | [] => some (read, flags, [])
    | '|' :: rest => some (read, flags, '|' :: rest)
    | ')' :: rest => some (read, flags, ')' :: rest)
    | '(' :: rest =>
      match opening? flags rest with
      | none => none
      | some (.options flags, rest) => sequence? fuel flags read rest
      | some (.group inner, rest) =>
        match alternatives? fuel inner rest with
        | some (pattern, ')' :: rest) => thenRepeated fuel flags read pattern rest
        | _ => none
      | some (.condition isAhead holds, rest) =>
        match alternatives? fuel flags rest with
        | some (pattern, ')' :: rest) =>
          thenRepeated fuel flags read
            (if isAhead then .ahead pattern holds else .behind pattern holds) rest
        | _ => none
    | '[' :: rest =>
      match class? fuel rest with
      | some (set, rest) => thenRepeated fuel flags read (.character set flags.ignoreCase) rest
      | none => none
    | '\\' :: rest =>
      match escape? rest with
      | some (.character c, rest) =>
        thenRepeated fuel flags read (.character (.single c) flags.ignoreCase) rest
      | some (.set set, rest) =>
        thenRepeated fuel flags read (.character set flags.ignoreCase) rest
      | some (.place condition, rest) => thenRepeated fuel flags read (.place condition) rest
      | none => none
    | '.' :: rest =>
      let set := if flags.dotAll then CharSet.complement .empty else .inLine
      thenRepeated fuel flags read (.character set false) rest
    | '^' :: rest =>
      thenRepeated fuel flags read
        (.place (if flags.multiLine then .lineStart else .textStart)) rest
    | '$' :: rest =>
      thenRepeated fuel flags read (.place (if flags.multiLine then .lineEnd else .textEnd)) rest
    | c :: rest =>
      if c == '*' || c == '+' || c == '?' || c == '\x7b' then none
      else thenRepeated fuel flags read (.character (.single c) flags.ignoreCase) rest

/-- A pattern with its repetitions, and the rest of the sequence. -/
def thenRepeated :
    Nat → Flags → Pattern → Pattern → List Char → Option (Pattern × Flags × List Char)
  | 0, _, _, _, _ => none
  | fuel + 1, flags, read, item, text =>
    match repetitions? (text.length + 1) item text with
    | some (item, rest) => sequence? fuel flags (.sequence read item) rest
    | none => none

end

end PatternReader

/-- The pattern that a text spells. -/
def Pattern.parse? (text : String) : Option Pattern :=
  let characters := text.toList
  match PatternReader.alternatives? (3 * characters.length + 3) .none characters with
  | some (pattern, []) => some pattern
  | _ => none

end PluginHost
