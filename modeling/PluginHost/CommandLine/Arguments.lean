/-!
# Command line arguments

The program has three commands, of which serving is the one without a name.  All commands take
a settings file as an option, one takes a path.  An argument that starts with a dash is an
option, unless it is a dash alone or comes after two dashes.  Asking for help or for the version
ends the reading right there; so does the first argument that cannot be used.
-/

namespace PluginHost

/-- What the program does. -/
inductive Command where
  | serve (settingsFile : Option String)
  | tools (settingsFile : Option String)
  | checkManifest (path : String) (settingsFile : Option String)
deriving DecidableEq

/-- What help is about. -/
inductive HelpTopic where
  | program
  | serve
  | tools
  | checkManifest
  | help
deriving DecidableEq

/-- What a command line asks for. -/
inductive CommandLine where
  | run (command : Command)
  | help (topic : HelpTopic)
  | version
deriving DecidableEq

/-- Why a command line cannot be followed. -/
inductive UsageProblem where
  | unknownCommand (text : String)
  | unexpectedArgument (text : String)
  | missingValue
  | emptyValue (name : String)
  | unexpectedValue (name value : String)
  | repeatedOption
  | missingPath
deriving DecidableEq

/-- How the option for the settings file is shown. -/
def settingsOption : String :=
  "--config <CONFIG>"

/-- How the path of a command is shown. -/
def pathArgument : String :=
  "<PATH>"

/-- The wording of a problem. -/
def UsageProblem.message : UsageProblem → String
  | unknownCommand text => s!"unrecognized subcommand '{text}'"
  | unexpectedArgument text => s!"unexpected argument '{text}' found"
  | missingValue => s!"a value is required for '{settingsOption}' but none was supplied"
  | emptyValue name => s!"a value is required for '{name}' but none was supplied"
  | unexpectedValue name value =>
    s!"unexpected value '{value}' for '{name}' found; no more were expected"
  | repeatedOption => s!"the argument '{settingsOption}' cannot be used multiple times"
  | missingPath =>
    s!"the following required arguments were not provided:\n  {pathArgument}"

/-- An argument by its form. -/
inductive ArgumentForm where
  /-- Two dashes: everything after them is plain. -/
  | endOfOptions
  /-- Two dashes and a name, with a value if an equals sign follows. -/
  | long (name : String) (value : Option String)
  /-- A dash and letters. -/
  | short (letters : List Char)
  | plain
deriving DecidableEq

/-- The form of an argument. -/
def ArgumentForm.of (argument : String) : ArgumentForm :=
  match argument.toList with
  | ['-', '-'] => .endOfOptions
  | '-' :: '-' :: rest =>
    match rest.span fun c => c != '=' with
    | (name, []) => .long (String.ofList name) none
    | (name, _ :: value) => .long (String.ofList name) (some (String.ofList value))
  | '-' :: letter :: letters => .short (letter :: letters)
  | _ => .plain

/-- What has been read of a command's arguments. -/
structure GivenArguments where
  path : Option String
  settingsFile : Option String
deriving DecidableEq

namespace GivenArguments

/-- Before the first argument. -/
def empty : GivenArguments :=
  ⟨none, none⟩

/-- Takes the value of the option for the settings file. -/
def takeFile (value : String) (given : GivenArguments) : Except UsageProblem GivenArguments :=
  if value == "" then .error (.emptyValue settingsOption)
  else if given.settingsFile.isSome then .error .repeatedOption
  else .ok { given with settingsFile := some value }

/-- Takes a plain argument, which can only be a path that is not given yet. -/
def takePlain (takesPath : Bool) (value : String) (given : GivenArguments) :
    Except UsageProblem GivenArguments :=
  if takesPath && given.path.isNone then
    if value == "" then .error (.emptyValue pathArgument)
    else .ok { given with path := some value }
  else .error (.unexpectedArgument value)

/-- Takes plain arguments one after the other. -/
def takeAllPlain (takesPath : Bool) :
    List String → GivenArguments → Except UsageProblem GivenArguments
  | [], given => .ok given
  | value :: rest, given =>
    match given.takePlain takesPath value with
    | .error problem => .error problem
    | .ok given => takeAllPlain takesPath rest given

end GivenArguments

/-- What an argument comes to on its own. -/
inductive ArgumentEffect where
  /-- The value of the option for the settings file. -/
  | file (value : String)
  /-- The option for the settings file, whose value is the next argument. -/
  | fileNext
  | help
  | plain
  | endOfOptions
  | refused (problem : UsageProblem)

/-- What an argument of a command comes to. -/
def ArgumentEffect.of (argument : String) : ArgumentEffect :=
  match ArgumentForm.of argument with
  | .endOfOptions => .endOfOptions
  | .plain => .plain
  | .long "config" none => .fileNext
  | .long "config" (some value) => .file value
  | .long "help" none => .help
  | .long "help" (some value) => .refused (.unexpectedValue "--help" value)
  | .long name _ => .refused (.unexpectedArgument ("--" ++ name))
  | .short ['c'] => .fileNext
  | .short ('c' :: '=' :: value) => .file (String.ofList value)
  | .short ('c' :: value) => .file (String.ofList value)
  | .short ('h' :: _) => .help
  | .short letters => .refused (.unexpectedArgument (String.ofList ('-' :: letters.take 1)))

/-- Reads the arguments of a command; none is the answer to a question for help. -/
def readArguments (takesPath : Bool) :
    List String → GivenArguments → Except UsageProblem (Option GivenArguments)
  | [], given => .ok (some given)
  | argument :: rest, given =>
    match ArgumentEffect.of argument with
    | .help => .ok none
    | .refused problem => .error problem
    | .endOfOptions => (given.takeAllPlain takesPath rest).map some
    | .plain =>
      match given.takePlain takesPath argument with
      | .error problem => .error problem
      | .ok given => readArguments takesPath rest given
    | .file value =>
      match given.takeFile value with
      | .error problem => .error problem
      | .ok given => readArguments takesPath rest given
    | .fileNext =>
      match rest with
      | [] => .error .missingValue
      | value :: rest =>
        if ArgumentForm.of value = .plain then
          match given.takeFile value with
          | .error problem => .error problem
          | .ok given => readArguments takesPath rest given
        else .error .missingValue

namespace CommandLine

/-- The command line of a command with its arguments. -/
def ofCommand (topic : HelpTopic) (takesPath : Bool)
    (command : GivenArguments → Except UsageProblem Command) (arguments : List String) :
    Except UsageProblem CommandLine :=
  match readArguments takesPath arguments .empty with
  | .error problem => .error problem
  | .ok none => .ok (.help topic)
  | .ok (some given) => (command given).map .run

/-- The check of the manifest at the path that is given. -/
def checkOf (given : GivenArguments) : Except UsageProblem Command :=
  match given.path with
  | none => .error .missingPath
  | some path => .ok (.checkManifest path given.settingsFile)

/-- The topic of the words that follow a call for help. -/
def topicOf : List String → Except UsageProblem HelpTopic
  | [] => .ok .program
  | ["serve"] => .ok .serve
  | ["tools"] => .ok .tools
  | ["check-manifest"] => .ok .checkManifest
  | ["help"] => .ok .help
  | first :: rest =>
    if ["serve", "tools", "check-manifest", "help"].contains first then
      .error (.unknownCommand (rest.headD ""))
    else .error (.unknownCommand first)

/-- What the options before any command ask for. -/
def ofOption (argument : String) : Except UsageProblem CommandLine :=
  match ArgumentForm.of argument with
  | .long "help" none => .ok (.help .program)
  | .long "version" none => .ok .version
  | .long "help" (some value) => .error (.unexpectedValue "--help" value)
  | .long "version" (some value) => .error (.unexpectedValue "--version" value)
  | .short ('h' :: _) => .ok (.help .program)
  | .short ('V' :: _) => .ok .version
  | .long name _ => .error (.unexpectedArgument ("--" ++ name))
  | .short letters => .error (.unexpectedArgument (String.ofList ('-' :: letters.take 1)))
  | _ => .error (.unknownCommand argument)

/-- What arguments ask for. -/
def ofArguments : List String → Except UsageProblem CommandLine
  | [] => .ok (.run (.serve none))
  | ["--"] => .ok (.run (.serve none))
  | "--" :: argument :: _ => .error (.unexpectedArgument argument)
  | "serve" :: rest => ofCommand .serve false (fun given => .ok (.serve given.settingsFile)) rest
  | "tools" :: rest => ofCommand .tools false (fun given => .ok (.tools given.settingsFile)) rest
  | "check-manifest" :: rest => ofCommand .checkManifest true checkOf rest
  | "help" :: rest => (topicOf rest).map .help
  | argument :: _ => ofOption argument

end CommandLine

/-- The settings file that a command names. -/
def Command.settingsFile? : Command → Option String
  | .serve file => file
  | .tools file => file
  | .checkManifest _ file => file

end PluginHost
