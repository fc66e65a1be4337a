import PluginHost.Plugin.Basic
import PluginHost.Text.Quoted
import PluginHost.Warning

/-!
# Constructors of plugins

A manifest names its implementation by a key.  Only implementations that the host has a
constructor for can be constructed; each construction gives a fresh instance, which need not
behave like those made before it.
-/

namespace PluginHost

open Text

/-- What makes the plugin of every new instance, told apart by the number of the instance. -/
abbrev PluginConstructor := Nat → Plugin

/-- The plugins that can be constructed, by the key of their implementation. -/
structure PluginFactories where
  constructors : KeyedList PluginConstructor

namespace PluginFactories

/-- No constructors. -/
def empty : PluginFactories :=
  ⟨[]⟩

/-- Whether there is a constructor for a key. -/
def contains (factories : PluginFactories) (key : String) : Bool :=
  KeyedList.contains key factories.constructors

/-- The plugin that the constructor of a key makes for the instance of a number. -/
def construct? (factories : PluginFactories) (key : String) (number : Nat) : Option Plugin :=
  (KeyedList.get? key factories.constructors).map fun constructor => constructor number

/-- Puts a constructor under a key, with a warning if it takes another one's place. -/
def register (factories : PluginFactories) (key : String) (constructor : PluginConstructor) :
    PluginFactories × List HostWarning :=
  (⟨KeyedList.insert key constructor factories.constructors⟩,
    if factories.contains key then [.factoryReplaced key] else [])

/-- The keys in order. -/
def keys (factories : PluginFactories) : List String :=
  KeyedList.keys factories.constructors

/-- The number of constructors. -/
def size (factories : PluginFactories) : Nat :=
  factories.constructors.length

/-- The keys as a text for developers. -/
def text (factories : PluginFactories) : String :=
  "FactoryRegistry \x7b keys: [" ++ ", ".intercalate (factories.keys.map quoted) ++ "] \x7d"

end PluginFactories

end PluginHost
