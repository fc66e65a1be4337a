import PluginHost.Host.Assembly

/-!
# Inspecting the host and its plugins

The catalogue of tools is what an assembled host offers.  The report on a manifest tells which
checks of admission it passes, each check on its own.
-/

namespace PluginHost

/-- The catalogue of the tools of a host. -/
def AssembledHost.catalogue (host : AssembledHost) : Json :=
  .array (host.registry.definitions.map ToolDefinition.toJson)

/-- Why a path is not checked. -/
inductive InspectionProblem where
  | unreadable (path : String) (problem : FileProblem)
  | noBundle (path : String)

/-- The wording of a problem. -/
def InspectionProblem.message : InspectionProblem → String
  | unreadable path problem => s!"cannot read {path}: {problem.message}"
  | noBundle path => s!"{path} is not a bundle directory, .tar.gz archive or {manifestFileName}"

/-- The error of a problem. -/
def InspectionProblem.error (problem : InspectionProblem) : HostError :=
  .manifest problem.message

/-- The manifest at a path: of a bundle, or in a manifest file. -/
def manifestAt (files : FileView) (path : String) : Except HostError Manifest :=
  if files.isFile path && Path.fileName? path == some manifestFileName then
    match files.readText path with
    | .error problem => .error (InspectionProblem.unreadable path problem).error
    | .ok text => (Manifest.parse text).mapError ManifestProblem.error
  else
    match PluginBundle.ofPath? files path with
    | none => .error (InspectionProblem.noBundle path).error
    | some bundle => bundle.manifest files

/-- Which checks of admission a manifest passes. -/
structure AdmissionReport where
  manifest : Manifest
  versions : HostVersions
  versionCheck : Except Mismatch Unit
  capabilityCheck : Except CapabilityViolation Unit
  isDevMode : Bool
  hasFactory : Bool

/-- Whether a check is passed. -/
def isPassed {ε : Type} : Except ε Unit → Bool
  | .ok () => true
  | .error _ => false

namespace AdmissionReport

/-- The report on a manifest by rules. -/
def of (rules : AdmissionRules) (manifest : Manifest) : AdmissionReport :=
  { manifest
    versions := rules.versions
    versionCheck := manifest.resolve rules.versions
    capabilityCheck := rules.policy.enforce manifest.id manifest.capabilities
    isDevMode := rules.policy.isDevMode
    hasFactory := rules.factories.contains manifest.implementation }

/-- Whether every check is passed. -/
def isAdmissible (report : AdmissionReport) : Bool :=
  isPassed report.versionCheck && isPassed report.capabilityCheck && report.hasFactory

/-- The verdict on the versions. -/
def versionVerdict (report : AdmissionReport) : Json :=
  match report.versionCheck with
  | .ok () => .ofFields [("admitted", .bool true)]
  | .error mismatch =>
    .ofFields [("admitted", .bool false), ("reason", .string mismatch.message)]

/-- The verdict on the capabilities. -/
def capabilityVerdict (report : AdmissionReport) : Json :=
  match report.capabilityCheck with
  | .ok () => .ofFields [("admitted", .bool true), ("devMode", .bool report.isDevMode)]
  | .error violation =>
    .ofFields [("admitted", .bool false),
      ("denied", .array (violation.denied.map .string))]

/-- The JSON of a report. -/
def toJson (report : AdmissionReport) : Json :=
  .ofFields
    [("id", .string report.manifest.id), ("version", .string report.manifest.version),
     ("apiVersion", .string report.manifest.apiVersion),
     ("implementation", .string report.manifest.implementation),
     ("host", .ofFields
       [("version", .string report.versions.host.text),
        ("apiVersion", .string report.versions.api.text)]),
     ("versions", report.versionVerdict), ("capabilities", report.capabilityVerdict),
     ("factoryRegistered", .bool report.hasFactory),
     ("admissible", .bool report.isAdmissible)]

end AdmissionReport

/-- The report on the manifest at a path. -/
def HostSettings.checkManifest (settings : HostSettings) (files : FileView) (path : String) :
    Except HostError AdmissionReport :=
  (manifestAt files path).map (AdmissionReport.of settings.admissionRules)

end PluginHost
