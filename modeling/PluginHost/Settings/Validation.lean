import PluginHost.Settings.Basic
import PluginHost.Text.Classes

/-!
# Rules that settings keep

Settings of the right types are still checked for their meaning.  Every broken rule is told,
in a fixed order.
-/

namespace PluginHost

open Text

/-- A rule that settings break. -/
inductive SettingViolation where
  | emptyHost
  | badHost (host : String)
  | portZero
  /-- The setting must not be zero. -/
  | zero (key : String)
  | emptyDirectory
  | badAddress (address : String)
  | noToolRounds
  | unknownLevel (level : String)
deriving DecidableEq

/-- The schemes that an address may begin with. -/
def addressSchemes : List String :=
  ["http" ++ "://", "https" ++ "://"]

/-- The levels of the log. -/
def logLevels : List String :=
  ["trace", "debug", "info", "warn", "error"]

/-- The wording of a violation. -/
def SettingViolation.message : SettingViolation → String
  | emptyHost => "server.host must not be empty"
  | badHost host => s!"server.host `{host}` is not a valid IP address or hostname"
  | portZero => "server.port must be between 1 and 65535"
  | zero key => s!"{key} must be greater than 0"
  | emptyDirectory => "plugins.dir must not be empty"
  | badAddress address =>
    s!"upstream.base_url `{address}` must start with " ++ " or ".intercalate addressSchemes
  | noToolRounds => "upstream.max_tool_rounds must be at least 1"
  | unknownLevel level => s!"logging.level `{level}` is not one of: " ++ ", ".intercalate logLevels

/-! ### Internet addresses -/

/-- Whether a text is a decimal number of at most three digits below 256, without leading
zeros. -/
def isOctet (text : List Char) : Bool :=
  text.all Char.isDigit && !text.isEmpty && text.length ≤ 3 &&
    (text.length == 1 || text.head? != some '0') &&
    (text.foldl (fun value c => value * 10 + (c.toNat - '0'.toNat)) 0) < 256

/-- Whether a text is an address of four octets. -/
def isAddress4 (text : List Char) : Bool :=
  let parts := splitList '.' text
  parts.length == 4 && parts.all isOctet

/-- Whether a character is a hexadecimal digit. -/
def isHexDigit (c : Char) : Bool :=
  c.isDigit || ('a' ≤ c && c ≤ 'f') || ('A' ≤ c && c ≤ 'F')

/-- The number of 16-bit groups that the parts between colons stand for; the last part may be
an address of four octets, which stands for two. -/
def groupCount? : List (List Char) → Option Nat
  | [] => some 0
  | part :: rest =>
    if !part.isEmpty && part.length ≤ 4 && part.all isHexDigit then
      (groupCount? rest).map (· + 1)
    else if rest.isEmpty && isAddress4 part then some 2
    else none

/-- The number of groups of a part of an address around a double colon. -/
def sideCount? (text : List Char) : Option Nat :=
  if text.isEmpty then some 0 else groupCount? (splitList ':' text)

/-- The texts before and after the first double colon. -/
def aroundDoubleColon? : List Char → Option (List Char × List Char)
  | ':' :: ':' :: rest => some ([], rest)
  | c :: rest => (aroundDoubleColon? rest).map fun (before, after) => (c :: before, after)
  | [] => none

/-- Whether a text is an address of eight groups, of which a double colon leaves out at least
one. -/
def isAddress6 (text : List Char) : Bool :=
  match aroundDoubleColon? text with
  | some (before, after) =>
    match sideCount? before, sideCount? after with
    | some left, some right => left + right ≤ 7 && !(before.contains '.')
    | _, _ => false
  | none => groupCount? (splitList ':' text) == some 8

/-- Whether a text is an internet address. -/
def isInternetAddress (text : List Char) : Bool :=
  isAddress4 text || isAddress6 text

/-! ### The rules -/

/-- Whether a character may stand in the name of a host. -/
def isHostChar (c : Char) : Bool :=
  isAlphanumeric c || c == '.' || c == '-'

/-- The rules of the host's name that are broken. -/
def hostViolations (host : String) : List SettingViolation :=
  let trimmed := trimList host.toList
  if trimmed.isEmpty then [.emptyHost]
  else if isInternetAddress trimmed || trimmed.all isHostChar then []
  else [.badHost (String.ofList trimmed)]

/-- A violation if a rule is broken. -/
def violationIf (broken : Bool) (violation : SettingViolation) : List SettingViolation :=
  if broken then [violation] else []

/-- The rules of the provider's address that are broken. -/
def addressViolations : Option String → List SettingViolation
  | some address =>
    violationIf
      (!addressSchemes.any fun scheme => (stripLeading? scheme.toList address.toList).isSome)
      (.badAddress address)
  | none => []

/-- Whether a text is the name of a level, in either case. -/
def isLogLevel (level : String) : Bool :=
  logLevels.contains (String.ofList (level.toList.map Char.toLower))

/-- The rules that settings break, in a fixed order. -/
def HostSettings.violations (settings : HostSettings) : List SettingViolation :=
  hostViolations settings.server.host ++
  violationIf (settings.server.listenPort == 0) .portZero ++
  violationIf (settings.server.maxBodyBytes == 0) (.zero "server.max_body_bytes") ++
  violationIf (settings.server.bodyReadTimeout == 0) (.zero "server.body_read_timeout_ms") ++
  violationIf (settings.server.toolTimeout == 0) (.zero "server.tool_timeout_ms") ++
  violationIf (settings.provider.timeout == 0) (.zero "upstream.timeout_secs") ++
  violationIf (settings.plugins.directory == "") .emptyDirectory ++
  addressViolations settings.provider.baseUrl ++
  violationIf (settings.provider.maxToolRounds == 0) .noToolRounds ++
  violationIf (!isLogLevel settings.logging.level) (.unknownLevel settings.logging.level)

end PluginHost
