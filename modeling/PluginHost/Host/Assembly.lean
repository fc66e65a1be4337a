import PluginHost.Plugin.Catalog
import PluginHost.Plugin.Manager
import PluginHost.Settings.Basic
import PluginHost.Tool.Registry

/-!
# Assembling the host

The compiled-in plugins are admitted first, then the bundles of the plugin directory, and the
tools of all of them are registered in load order.  A plugin that is refused is noted and
passed over, so that a host is always assembled.
-/

namespace PluginHost

/-- The loaded plugins and the registry of their tools, with what was called and noted on the
way. -/
structure AssembledHost where
  manager : PluginManager
  registry : ToolRegistry
  calls : List HookCall
  warnings : List HostWarning

namespace HostSettings

/-- The rules by which plugins are admitted. -/
def admissionRules (settings : HostSettings) : AdmissionRules :=
  { versions := .current
    policy := settings.plugins.policy
    factories := builtinFactories
    pluginConfig := settings.plugins.config }

/-- Loads compiled-in plugins one after the other. -/
def loadCatalog : List Manifest → Managed Unit → Managed Unit
  | [], done => done
  | manifest :: rest, done =>
    let step := done.manager.loadBuiltin manifest
    let noted :=
      match step.result with
      | .ok _ => []
      | .error error => [HostWarning.builtinSkipped manifest.id error.message]
    loadCatalog rest
      ⟨step.manager, done.calls ++ step.calls, done.warnings ++ step.warnings ++ noted, ()⟩

/-- The manager with every plugin that settings lead to. -/
def loadPlugins (settings : HostSettings) (files : FileView) : Managed Unit :=
  let noted := if settings.plugins.policy.isDevMode then [HostWarning.everythingAllowed] else []
  let builtin := loadCatalog builtinCatalog
    ⟨PluginManager.new settings.admissionRules, [], noted, ()⟩
  let bundles := builtin.manager.loadDirectory files settings.plugins.directory
  ⟨bundles.manager, builtin.calls ++ bundles.calls, builtin.warnings ++ bundles.warnings, ()⟩

end HostSettings

namespace PluginManager

/-- Registers the tools of plugins one after the other. -/
def registerEach (handles : Handles) :
    List LoadedPlugin → ToolRegistry → ToolRegistry × List HostWarning
  | [], registry => (registry, [])
  | plugin :: rest, registry =>
    let done := registry.registerPlugin handles plugin.instanceNumber
    let (registry, warnings) := registerEach handles rest done.registry
    (registry, done.warnings ++ warnings)

/-- The registry of the tools of all loaded plugins. -/
def registry (manager : PluginManager) : ToolRegistry × List HostWarning :=
  registerEach manager.handles manager.loaded .empty

end PluginManager

/-- Assembles the host that settings describe. -/
def HostSettings.assemble (settings : HostSettings) (files : FileView) : AssembledHost :=
  let plugins := settings.loadPlugins files
  let (registry, warnings) := plugins.manager.registry
  ⟨plugins.manager, registry, plugins.calls, plugins.warnings ++ warnings⟩

end PluginHost
