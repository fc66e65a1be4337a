import PluginHost.Text.Blank

/-!
# Addresses of requests

An address is written out in one way before it is asked: with the path's dots resolved and with
the characters that may not stand in an address escaped.  What is no address of the web has no
such form.
-/

namespace PluginHost

open Text

/-- The parts of a web address. -/
structure WebAddress where
  scheme : String
  authority : List Char
  path : List Char
  query : Option (List Char)
  fragment : Option (List Char)
deriving DecidableEq

namespace WebAddress

/-- A digit of an escape. -/
def escapeDigit (value : Nat) : Char :=
  if value < 10 then Char.ofNat ('0'.toNat + value) else Char.ofNat ('A'.toNat + value - 10)

/-- A byte as an escape. -/
def escapedByte (byte : UInt8) : List Char :=
  ['%', escapeDigit (byte.toNat / 16), escapeDigit (byte.toNat % 16)]

/-- A character with its bytes escaped if it may not stand by itself. -/
def escapedUnless (stands : Char → Bool) (c : Char) : List Char :=
  if stands c then [c] else (String.utf8EncodeChar c).flatMap escapedByte

/-- Whether a character is visible and not among some others. -/
def isVisibleBut (others : List Char) (c : Char) : Bool :=
  ' ' < c && c ≤ '~' && !others.contains c

/-- Whether a character may stand in a path. -/
def standsInPath : Char → Bool :=
  isVisibleBut ['"', '#', '<', '>', '?', '^', '\x60', '\x7b', '\x7d']

/-- Whether a character may stand in a query. -/
def standsInQuery : Char → Bool :=
  isVisibleBut ['"', '#', '<', '>', '\x27']

/-- Whether a character may stand in a fragment. -/
def standsInFragment : Char → Bool :=
  isVisibleBut ['"', '<', '>', '\x60']

/-- Splits a text before the first character of a kind. -/
def cutBefore (ends : Char → Bool) (text : List Char) : List Char × List Char :=
  text.span fun c => !ends c

/-- Whether a character divides a path. -/
def isDivider (c : Char) : Bool :=
  c == '/' || c == '\\'

/-- A step of a path with an escaped dot read as a dot. -/
def undotted : List Char → List Char
  | '%' :: '2' :: 'e' :: rest => '.' :: undotted rest
  | '%' :: '2' :: 'E' :: rest => '.' :: undotted rest
  | c :: rest => c :: undotted rest
  | [] => []

/-- Follows the steps of a path onto the steps taken so far, the last first.  A path that ends
in a dot step ends in a divider. -/
def followSteps : List (List Char) → List (List Char) → List (List Char)
  | taken, [] => taken.reverse
  | taken, step :: rest =>
    let isLast := rest.isEmpty
    if undotted step == ['.', '.'] then
      followSteps (if isLast then [] :: taken.drop 1 else taken.drop 1) rest
    else if undotted step == ['.'] then
      followSteps (if isLast then [] :: taken else taken) rest
    else
      followSteps (step :: taken) rest

/-- A path with its dots resolved. -/
def resolvedPath (path : List Char) : List Char :=
  let steps := splitList '/' ((path.drop 1).map fun c => if c == '\\' then '/' else c)
  (followSteps [] steps).flatMap fun step => '/' :: step

/-- Whether an authority names a host and, if any, a port number. -/
def isAuthority (authority : List Char) : Bool :=
  match authority.span fun c => c != ':' with
  | ([], _) => false
  | (_, []) => true
  | (_, _ :: digits) =>
    digits.all Char.isDigit && digits.foldl (fun n c => n * 10 + (c.toNat - 48)) 0 ≤ 65535

/-- The scheme of a web address and what follows its colon. -/
def scheme? (text : List Char) : Option (String × List Char) :=
  match cutBefore (· == ':') text with
  | (scheme, _ :: rest) =>
    let scheme := (String.ofList scheme).toLower
    if scheme == "http" || scheme == "https" then some (scheme, rest) else none
  | (_, []) => none

/-- The web address that a text spells. -/
def ofText? (text : String) : Option WebAddress :=
  let outer (c : Char) : Bool := c ≤ ' '
  let kept := (dropTrailing outer (dropLeading outer text.toList)).filter fun c =>
    c != '\t' && c != '\n' && c != '\r'
  match scheme? kept with
  | none => none
  | some (scheme, rest) =>
    let (authority, rest) :=
      cutBefore (fun c => isDivider c || c == '?' || c == '#') (rest.dropWhile isDivider)
    if isAuthority authority then
      let (path, rest) := cutBefore (fun c => c == '?' || c == '#') rest
      let (query, rest) := cutBefore (· == '#') rest
      some ⟨scheme, authority, resolvedPath path,
        if query.isEmpty then none else some (query.drop 1),
        if rest.isEmpty then none else some (rest.drop 1)⟩
    else none

/-- The one way in which an address is written. -/
def text (address : WebAddress) : String :=
  let part (mark : Char) (stands : Char → Bool) : Option (List Char) → List Char
    | none => []
    | some content => mark :: content.flatMap (escapedUnless stands)
  address.scheme ++ "://" ++ String.ofList
    (address.authority ++ address.path.flatMap (escapedUnless standsInPath) ++
      part '?' standsInQuery address.query ++ part '#' standsInFragment address.fragment)

end WebAddress

end PluginHost
