import PluginHost.CommandLine.Help
import PluginHost.Host.Inspection
import PluginHost.Host.Serving
import PluginHost.Settings.Loading
import PluginHost.Settings.Report

/-!
# What a command line comes to

A command line is followed in its surroundings: the files and the environment.  It ends with a
status, an output and what is told on the side, or with a host that is ready to serve.
Settings are loaded before anything else is done.
-/

namespace PluginHost

/-- How a program ends. -/
structure ProgramResult where
  status : Nat
  output : String
  errors : String
deriving DecidableEq

/-- What a command line comes to. -/
inductive ProgramOutcome where
  | ended (result : ProgramResult)
  | serving (host : ServingHost)

namespace ProgramResult

/-- A program that ends well with an output. -/
def printed (output : String) : ProgramResult :=
  ⟨0, output, ""⟩

/-- A program that ends with an error. -/
def failed (error : HostError) : ProgramResult :=
  ⟨1, "", s!"{programName}: {error.message}\n"⟩

/-- A program that does not accept its settings. -/
def settingsRefused (diagnostics : List SettingsDiagnostic) : ProgramResult :=
  ⟨1, "", String.join (diagnostics.map SettingsDiagnostic.report)⟩

/-- A program that cannot follow its command line. -/
def misused (problem : UsageProblem) : ProgramResult :=
  ⟨2, "", problem.report⟩

/-- A program that prints a report and ends well if the report is good. -/
def ofReport (report : AdmissionReport) : ProgramResult :=
  ⟨if report.isAdmissible then 0 else 1, report.toJson.indented ++ "\n", ""⟩

end ProgramResult

/-- The settings that a command runs with. -/
def Command.settings (command : Command) (surroundings : Surroundings) :
    Except (List SettingsDiagnostic) HostSettings :=
  match command.settingsFile? with
  | some file => HostSettings.ofFile surroundings file
  | none => HostSettings.ofSurroundings surroundings

/-- Runs a command with its settings. -/
def Command.runWith (files : FileView) (settings : HostSettings) : Command → ProgramOutcome
  | .serve _ =>
    match settings.prepareServing files with
    | .ok host => .serving host
    | .error error => .ended (.failed error)
  | .tools _ => .ended (.printed ((settings.assemble files).catalogue.indented ++ "\n"))
  | .checkManifest path _ =>
    match settings.checkManifest files path with
    | .ok report => .ended (.ofReport report)
    | .error error => .ended (.failed error)

/-- Runs a command. -/
def Command.run (command : Command) (surroundings : Surroundings) : ProgramOutcome :=
  match command.settings surroundings with
  | .error diagnostics => .ended (.settingsRefused diagnostics)
  | .ok settings => command.runWith surroundings.files settings

/-- The line that tells the program's version. -/
def versionLine : String :=
  s!"{programName} {HostVersions.current.host.text}\n"

namespace CommandLine

/-- Follows a command line. -/
def follow (surroundings : Surroundings) : CommandLine → ProgramOutcome
  | .run command => command.run surroundings
  | .help topic => .ended (.printed topic.page.text)
  | .version => .ended (.printed versionLine)

/-- What arguments come to in surroundings. -/
def outcome (surroundings : Surroundings) (arguments : List String) : ProgramOutcome :=
  match ofArguments arguments with
  | .ok commandLine => commandLine.follow surroundings
  | .error problem => .ended (.misused problem)

end CommandLine

end PluginHost
