import PluginHost.Json.Basic

/-!
# Warnings

What the host notes for its operators while it goes on.  A warning has a fixed wording and
fields that say whom it concerns.
-/

namespace PluginHost

/-- Something that an operator should know. -/
inductive HostWarning where
  /-- A second constructor was given for an implementation. -/
  | factoryReplaced (implementation : String)
  /-- A bundle of the plugin directory was not loaded. -/
  | bundleSkipped (path : String) (error : String)
  /-- A built-in plugin was not loaded. -/
  | builtinSkipped (pluginId : String) (error : String)
  /-- A `shutdown` hook failed or panicked. -/
  | shutdownFailed (pluginId : String) (error : String)
  /-- Tools of a plugin that is not active were not registered. -/
  | inactiveNotRegistered (pluginId : String) (state : String)
  /-- A tool was not registered. -/
  | toolSkipped (pluginId tool error : String)
  /-- A tool took the place of another one of its name. -/
  | toolReplaced (tool previousPlugin pluginId : String)
  /-- A tool call took longer than its limit, in milliseconds. -/
  | toolTimedOut (tool : String) (limit : Nat)
  /-- A tool call that a model asked for failed. -/
  | modelCallFailed (tool error : String)
  /-- A model asked for tools more often than it may. -/
  | roundLimitReached (rounds : Nat)
  /-- Every capability is allowed. -/
  | everythingAllowed
deriving DecidableEq

namespace HostWarning

/-- The wording of a warning. -/
def message : HostWarning → String
  | factoryReplaced _ => "plugin factory replaced"
  | bundleSkipped _ _ => "skipping plugin bundle"
  | builtinSkipped _ _ => "skipping built-in plugin"
  | shutdownFailed _ _ => "plugin shutdown failed"
  | inactiveNotRegistered _ _ => "not registering tools of inactive plugin"
  | toolSkipped _ _ _ => "skipping tool"
  | toolReplaced _ _ _ => "tool name collision, last registration wins"
  | toolTimedOut _ _ => "tool call timed out"
  | modelCallFailed _ _ => "tool call from model failed"
  | roundLimitReached _ => "tool round limit reached, returning last upstream response"
  | everythingAllowed => "no capability allow-list configured, every capability is allowed"

/-- The fields of a warning. -/
def fields : HostWarning → List (String × Json)
  | factoryReplaced implementation => [("implementation", .string implementation)]
  | bundleSkipped path error => [("bundle", .string path), ("error", .string error)]
  | builtinSkipped pluginId error => [("plugin", .string pluginId), ("error", .string error)]
  | shutdownFailed pluginId error => [("plugin", .string pluginId), ("error", .string error)]
  | inactiveNotRegistered pluginId state =>
    [("plugin", .string pluginId), ("state", .string state)]
  | toolSkipped pluginId tool error =>
    [("plugin", .string pluginId), ("tool", .string tool), ("error", .string error)]
  | toolReplaced tool previousPlugin pluginId =>
    [("tool", .string tool), ("previous_plugin", .string previousPlugin),
     ("plugin", .string pluginId)]
  | toolTimedOut tool limit => [("tool", .string tool), ("timeout_ms", .ofNat limit)]
  | modelCallFailed tool error => [("tool", .string tool), ("error", .string error)]
  | roundLimitReached rounds => [("rounds", .ofNat rounds)]
  | everythingAllowed => []

end HostWarning

end PluginHost
