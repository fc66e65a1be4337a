import PluginHost.Capability
import PluginHost.Plugin.Bundle
import PluginHost.Plugin.Factories
import PluginHost.Plugin.Lifecycle
import PluginHost.Version.Resolution

/-!
# The plugin manager

A plugin is admitted in a fixed order: its id is new, its version requirements are met, its
capabilities are allowed, its implementation has a constructor; then an instance is constructed
and initialised.  A plugin that fails any step is not loaded and does not stop the others.
-/

namespace PluginHost

/-- Why a plugin is not admitted. -/
inductive AdmissionError where
  | manifest (error : HostError)
  | version (mismatch : Mismatch)
  | capability (violation : CapabilityViolation)
  | unknownImplementation (implementation : String)
  | duplicateId (id : String)
  | init (error : HostError)
deriving DecidableEq

/-- The wording of an admission error. -/
def AdmissionError.message : AdmissionError → String
  | manifest error => s!"manifest unreadable: {error.message}"
  | version mismatch => s!"version requirements not met: {mismatch.message}"
  | capability violation => violation.message
  | unknownImplementation implementation =>
    s!"no factory registered for implementation `{implementation}`"
  | duplicateId id => s!"plugin id `{id}` is already loaded"
  | init error => s!"init failed: {error.message}"

/-- The name of an admission error's kind. -/
def AdmissionError.kind : AdmissionError → String
  | manifest _ => "manifest"
  | version _ => "version"
  | capability _ => "capability"
  | unknownImplementation _ => "unknown_implementation"
  | duplicateId _ => "duplicate_id"
  | init _ => "init"

/-- Where a plugin comes from. -/
inductive PluginSource where
  | builtin
  | bundle (path : String)
deriving DecidableEq

/-- A source as a text. -/
def PluginSource.text : PluginSource → String
  | builtin => "builtin"
  | bundle path => path

/-- A plugin that was admitted and initialised. -/
structure LoadedPlugin where
  manifest : Manifest
  source : PluginSource
  /-- The number of its instance. -/
  instanceNumber : Nat

/-- What plugins are admitted by. -/
structure AdmissionRules where
  versions : HostVersions
  policy : CapabilityPolicy
  factories : PluginFactories
  /-- What each plugin is configured with, by its id. -/
  pluginConfig : JsonFields

/-- The rules, the instances that were constructed, and the loaded plugins in load order. -/
structure PluginManager where
  rules : AdmissionRules
  handles : Handles
  loaded : List LoadedPlugin

/-- What an operation of the manager gives: the manager afterwards, the calls of plugin code in
order, the warnings in order, and the result. -/
structure Managed (α : Type) where
  manager : PluginManager
  calls : List HookCall
  warnings : List HostWarning
  result : α

namespace AdmissionRules

/-- The configuration of a plugin, an empty object if it has none. -/
def configOf (rules : AdmissionRules) (id : String) : Json :=
  (KeyedList.get? id rules.pluginConfig).getD (.object [])

/-- What a plugin learns when it is initialised. -/
def contextOf (rules : AdmissionRules) (id : String) (dataDir : Option String) :
    PluginContext :=
  ⟨rules.versions.host, rules.versions.api, rules.configOf id, dataDir⟩

end AdmissionRules

namespace PluginManager

/-- A manager that has loaded nothing. -/
def new (rules : AdmissionRules) : PluginManager :=
  ⟨rules, [], []⟩

/-- The ids of the loaded plugins in load order. -/
def loadedIds (manager : PluginManager) : List String :=
  manager.loaded.map fun plugin => plugin.manifest.id

/-- Checks everything about a manifest that needs no instance. -/
def evaluate (manager : PluginManager) (manifest : Manifest) : Except AdmissionError Unit :=
  if manager.loadedIds.contains manifest.id then .error (.duplicateId manifest.id)
  else
    match manifest.resolve manager.rules.versions with
    | .error mismatch => .error (.version mismatch)
    | .ok () =>
      match manager.rules.policy.enforce manifest.id manifest.capabilities with
      | .error violation => .error (.capability violation)
      | .ok () =>
        if manager.rules.factories.contains manifest.implementation then .ok ()
        else .error (.unknownImplementation manifest.implementation)

/-- An operation that does nothing and gives an error. -/
def refused (manager : PluginManager) (error : AdmissionError) :
    Managed (Except AdmissionError LoadedPlugin) :=
  ⟨manager, [], [], .error error⟩

/-- Constructs and initialises an instance for a manifest that was checked. -/
def instantiate (manager : PluginManager) (manifest : Manifest) (source : PluginSource)
    (dataDir : Option String) (plugin : Plugin) :
    Managed (Except AdmissionError LoadedPlugin) :=
  let number := manager.handles.length
  let context := manager.rules.contextOf manifest.id dataDir
  let handles := manager.handles ++ [PluginHandle.create manifest.id plugin]
  let started := Handles.init handles number context
  let calls := HookCall.construct number manifest.implementation :: started.calls
  match started.result with
  | .error error => ⟨{ manager with handles := started.handles }, calls, [], .error (.init error)⟩
  | .ok () =>
    let loaded : LoadedPlugin := ⟨manifest, source, number⟩
    ⟨{ manager with handles := started.handles, loaded := manager.loaded ++ [loaded] }, calls,
      [], .ok loaded⟩

/-- Admits the plugin of a manifest. -/
def load (manager : PluginManager) (manifest : Manifest) (source : PluginSource)
    (dataDir : Option String) : Managed (Except AdmissionError LoadedPlugin) :=
  match manager.evaluate manifest with
  | .error error => manager.refused error
  | .ok () =>
    match manager.rules.factories.construct? manifest.implementation manager.handles.length with
    | none => manager.refused (.unknownImplementation manifest.implementation)
    | some plugin => manager.instantiate manifest source dataDir plugin

/-- Admits a plugin that is compiled into the host. -/
def loadBuiltin (manager : PluginManager) (manifest : Manifest) :
    Managed (Except AdmissionError LoadedPlugin) :=
  manager.load manifest .builtin none

/-- Admits the plugin of a bundle. -/
def loadBundle (files : FileView) (manager : PluginManager) (bundle : PluginBundle) :
    Managed (Except AdmissionError LoadedPlugin) :=
  match bundle.manifest files with
  | .error error => manager.refused (.manifest error)
  | .ok manifest => manager.load manifest (.bundle bundle.path) bundle.dataDirectory?

/-- Loads bundles one after the other and counts those that were admitted. -/
def loadBundles (files : FileView) : List PluginBundle → Managed Nat → Managed Nat
  | [], done => done
  | bundle :: rest, done =>
    let step := done.manager.loadBundle files bundle
    loadBundles files rest <|
      match step.result with
      | .ok _ =>
        ⟨step.manager, done.calls ++ step.calls, done.warnings ++ step.warnings,
          done.result + 1⟩
      | .error error =>
        ⟨step.manager, done.calls ++ step.calls,
          done.warnings ++ step.warnings ++ [.bundleSkipped bundle.path error.message],
          done.result⟩

/-- Loads the bundles of a directory; one that cannot be read has none. -/
def loadDirectory (files : FileView) (manager : PluginManager) (directory : String) :
    Managed Nat :=
  match PluginBundle.discover files directory with
  | .error _ => ⟨manager, [], [], 0⟩
  | .ok bundles => loadBundles files bundles ⟨manager, [], [], 0⟩

/-- Shuts plugins down one after the other and counts the failures. -/
def shutdownEach : List LoadedPlugin → Managed Nat → Managed Nat
  | [], done => done
  | plugin :: rest, done =>
    let step := Handles.shutdown done.manager.handles plugin.instanceNumber
    let manager := { done.manager with handles := step.handles }
    shutdownEach rest <|
      match step.result with
      | .ok () => ⟨manager, done.calls ++ step.calls, done.warnings, done.result⟩
      | .error error =>
        ⟨manager, done.calls ++ step.calls,
          done.warnings ++ [.shutdownFailed plugin.manifest.id error.message],
          done.result + 1⟩

/-- Shuts every loaded plugin down, in load order. -/
def shutdownAll (manager : PluginManager) : Managed Nat :=
  shutdownEach manager.loaded ⟨manager, [], [], 0⟩

/-- The state of a loaded plugin's instance. -/
def stateOf (manager : PluginManager) (plugin : LoadedPlugin) : Option PluginState :=
  (manager.handles[plugin.instanceNumber]?).map PluginHandle.state

end PluginManager

end PluginHost
