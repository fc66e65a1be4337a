import PluginHost.Manifest
import PluginHost.Version.Constraint

/-!
# Resolving manifests against the host

A manifest fits a host if its API version is compatible and both of its requirements admit
the host's versions.  The first condition that fails is the reason of the rejection.
-/

namespace PluginHost

open Text

/-- The versions of a host and of the plugin API that it implements. -/
structure HostVersions where
  host : Version
  api : Version
deriving DecidableEq

/-- The versions of this host. -/
def HostVersions.current : HostVersions :=
  ⟨.ofNumbers 1 0 0, .ofNumbers 1 0 0⟩

/-- Why a manifest does not fit a host. -/
inductive Mismatch where
  | apiVersion (text : String) (problem : VersionProblem)
  | incompatibleApi (plugin implemented : Version)
  | host (requirement : String) (running : Version)
  | api (requirement : String) (implemented : Version)
deriving DecidableEq

/-- The wording of a reason. -/
def Mismatch.message : Mismatch → String
  | apiVersion text problem =>
    s!"apiVersion '{text}' is not a semantic version: {problem.message}"
  | incompatibleApi plugin implemented =>
    s!"plugin targets API {plugin.text}, host implements API {implemented.text}"
  | host requirement running => s!"requires host '{requirement}', running host is {running.text}"
  | api requirement implemented =>
    s!"requires API '{requirement}', host implements API {implemented.text}"

/-- Checks the version requirements of a manifest. -/
def Manifest.resolve (manifest : Manifest) (versions : HostVersions) : Except Mismatch Unit :=
  match Version.parseList (trimList manifest.apiVersion.toList) with
  | .error problem => .error (.apiVersion manifest.apiVersion problem)
  | .ok pluginApi =>
    if !apiCompatible pluginApi versions.api then
      .error (.incompatibleApi pluginApi versions.api)
    else if !satisfies manifest.requires.host versions.host then
      .error (.host (manifest.requires.host.getD "") versions.host)
    else if !satisfies manifest.requires.api versions.api then
      .error (.api (manifest.requires.api.getD "") versions.api)
    else
      .ok ()

end PluginHost
