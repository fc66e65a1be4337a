import PluginHost.Plugin.CoreText
import PluginHost.Plugin.Factories
import PluginHost.Version.Resolution

/-!
# The plugins compiled into the host

One plugin is compiled in: the utilities for texts and JSON values.
-/

namespace PluginHost

/-- The key of the implementation of the text utilities. -/
def coreTextKey : String :=
  "toolgate.builtin.core-text"

/-- The manifests of the compiled-in plugins, in load order. -/
def builtinCatalog : List Manifest :=
  [{ id := CoreText.pluginId
     version := HostVersions.current.host.text
     apiVersion := HostVersions.current.api.text
     implementation := coreTextKey
     capabilities := ["text.transform", "json.read"]
     requires := ⟨none, none⟩
     name := some "Core text"
     description := some "String and JSON utilities" }]

/-- The constructors of the compiled-in implementations. -/
def builtinFactories : PluginFactories :=
  (PluginFactories.empty.register coreTextKey fun _ => CoreText.plugin).1

end PluginHost
