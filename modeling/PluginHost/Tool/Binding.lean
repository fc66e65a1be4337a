import PluginHost.Tool.Coercion
import PluginHost.Tool.Definition

/-!
# Binding arguments to parameters

Parameters take their arguments in the order of their declaration.  A supplied argument is
coerced, an omitted one falls back to the default, to null where it is optional, or is an
error.  An omitted optional parameter is bound to null but kept out of what the schema gets to
see, so that schemas need not allow null.
-/

namespace PluginHost

/-- Arguments after binding. -/
structure BoundArguments where
  /-- What the handler gets. -/
  bound : JsonFields
  /-- What the schema is asked about. -/
  checked : JsonFields

namespace BoundArguments

/-- No arguments. -/
def empty : BoundArguments :=
  ⟨[], []⟩

/-- Binds a value that the schema gets to see. -/
def bind (name : String) (value : Json) (arguments : BoundArguments) : BoundArguments :=
  ⟨KeyedList.insert name value arguments.bound, KeyedList.insert name value arguments.checked⟩

/-- Binds null out of the schema's sight. -/
def bindOmitted (name : String) (arguments : BoundArguments) : BoundArguments :=
  { arguments with bound := KeyedList.insert name .null arguments.bound }

/-- Binds one parameter, whose argument may have been supplied. -/
def bindParameter (parameter : ParameterDefinition) (supplied : Option Json)
    (arguments : BoundArguments) : Except HostError BoundArguments :=
  match supplied, parameter.default with
  | some value, _ =>
    (coerce parameter.name parameter.type value).map fun value =>
      arguments.bind parameter.name value
  | none, some default => .ok (arguments.bind parameter.name default)
  | none, none =>
    if parameter.required then
      .error (.invalidArgument s!"Missing required parameter: {parameter.name}")
    else
      .ok (arguments.bindOmitted parameter.name)

/-- Binds parameters in order, each taking its argument out of those supplied. -/
def bindOnto : List ParameterDefinition → JsonFields → BoundArguments →
    Except HostError BoundArguments
  | [], _, arguments => .ok arguments
  | parameter :: rest, supplied, arguments =>
    match bindParameter parameter (KeyedList.get? parameter.name supplied) arguments with
    | .error error => .error error
    | .ok arguments => bindOnto rest (KeyedList.erase parameter.name supplied) arguments

/-- The arguments of a call bound to a tool's parameters. -/
def ofSupplied (parameters : List ParameterDefinition) (supplied : JsonFields) :
    Except HostError BoundArguments :=
  bindOnto parameters supplied empty

end BoundArguments

end PluginHost
