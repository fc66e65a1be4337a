import PluginHost.Text.Blank

/-!
# Capability policies

An operator lists the capabilities that plugins may ask for.  An empty list is the development
mode, in which everything is allowed.
-/

namespace PluginHost

open Text

/-- A sorted list of allowed capabilities, each once. -/
structure CapabilityPolicy where
  allowed : List String
deriving DecidableEq

/-- The refusal of a plugin's capabilities. -/
structure CapabilityViolation where
  pluginId : String
  /-- The refused capabilities in the order of the request, each once. -/
  denied : List String
deriving DecidableEq

/-- The wording of a refusal. -/
def CapabilityViolation.message (violation : CapabilityViolation) : String :=
  s!"plugin `{violation.pluginId}` requests capabilities outside the allow-list: " ++
    ", ".intercalate violation.denied

/-- Puts a text into a sorted list that holds each text once. -/
def insertSorted (text : String) : List String → List String
  | [] => [text]
  | found :: rest =>
    if text < found then text :: found :: rest
    else if text == found then found :: rest
    else found :: insertSorted text rest

namespace CapabilityPolicy

/-- The policy that allows everything. -/
def devMode : CapabilityPolicy :=
  ⟨[]⟩

/-- Texts without blanks at their ends, blank ones left out. -/
def cleaned (items : List String) : List String :=
  (items.map trim).filter fun item => item != ""

/-- The policy that allows the given capabilities. -/
def ofList (items : List String) : CapabilityPolicy :=
  ⟨(cleaned items).foldl (fun allowed item => insertSorted item allowed) []⟩

/-- The policy that allows the capabilities between commas. -/
def ofCommaSeparated (list : String) : CapabilityPolicy :=
  ofList (split ',' list)

/-- Whether everything is allowed. -/
def isDevMode (policy : CapabilityPolicy) : Bool :=
  policy.allowed.isEmpty

/-- Whether a capability is allowed. -/
def allows (policy : CapabilityPolicy) (capability : String) : Bool :=
  policy.isDevMode || policy.allowed.contains capability

/-- The refused capabilities of a request, each at its first occurrence, after those already
found. -/
def deniedOnto (policy : CapabilityPolicy) : List String → List String → List String
  | denied, [] => denied
  | denied, capability :: rest =>
    if policy.allowed.contains capability || denied.contains capability then
      deniedOnto policy denied rest
    else
      deniedOnto policy (denied ++ [capability]) rest

/-- Checks the capabilities that a plugin requests. -/
def enforce (policy : CapabilityPolicy) (pluginId : String) (requested : List String) :
    Except CapabilityViolation Unit :=
  if policy.isDevMode then
    .ok ()
  else
    match deniedOnto policy [] requested with
    | [] => .ok ()
    | denied => .error ⟨pluginId, denied⟩

end CapabilityPolicy

end PluginHost
