import PluginHost.CommandLine.Arguments

/-!
# Help texts

A help text tells what something does, how it is called and what may be given to it.  The
explanations of one list start in one column.
-/

namespace PluginHost

/-- A word of a list with its explanation. -/
structure HelpEntry where
  word : String
  explanation : String

/-- A list of words under a heading. -/
structure HelpList where
  heading : String
  entries : List HelpEntry

/-- A help text in its parts. -/
structure HelpPage where
  purpose : String
  usage : String
  lists : List HelpList

namespace HelpList

/-- The width of the longest word. -/
def width (list : HelpList) : Nat :=
  list.entries.foldl (fun width entry => max width entry.word.length) 0

/-- An entry's line, with its explanation in the column after a width. -/
def line (width : Nat) (entry : HelpEntry) : String :=
  let gap := String.ofList (List.replicate (width + 2 - entry.word.length) ' ')
  "  " ++ entry.word ++ gap ++ entry.explanation ++ "\n"

/-- The text of a list. -/
def text (list : HelpList) : String :=
  list.heading ++ ":\n" ++ String.join (list.entries.map (line list.width))

end HelpList

/-- The text of a page. -/
def HelpPage.text (page : HelpPage) : String :=
  page.purpose ++ "\n\nUsage: " ++ page.usage ++ "\n" ++
    String.join (page.lists.map fun list => "\n" ++ list.text)

/-- The name of the program. -/
def programName : String :=
  "toolgate"

namespace HelpTopic

/-- What a topic's command does. -/
def purpose : HelpTopic → String
  | program => "Plugin host exposing LLM tools over an OpenAI-compatible HTTP gateway"
  | serve => "Load plugins and serve the HTTP gateway (default)"
  | tools => "Load plugins, print the tool catalogue as JSON, and exit"
  | checkManifest => "Check whether a plugin bundle would be admitted by this host"
  | help => "Print this message or the help of the given subcommand(s)"

/-- How a topic's command is called, after the program's name. -/
def usage : HelpTopic → String
  | program => "[COMMAND]"
  | serve => "serve [OPTIONS]"
  | tools => "tools [OPTIONS]"
  | checkManifest => s!"check-manifest [OPTIONS] {pathArgument}"
  | help => "help [COMMAND]..."

/-- The options of a command that takes a settings file. -/
def commandOptions (fileExplanation : String) : HelpList :=
  ⟨"Options", [⟨"-c, " ++ settingsOption, fileExplanation⟩, ⟨"-h, --help", "Print help"⟩]⟩

/-- The lists of a topic. -/
def lists : HelpTopic → List HelpList
  | program =>
    [⟨"Commands",
      [⟨"serve", serve.purpose⟩, ⟨"tools", tools.purpose⟩,
       ⟨"check-manifest", checkManifest.purpose⟩, ⟨"help", help.purpose⟩]⟩,
     ⟨"Options", [⟨"-h, --help", "Print help"⟩, ⟨"-V, --version", "Print version"⟩]⟩]
  | serve => [commandOptions "Use this config file instead of the standard lookup"]
  | tools => [commandOptions ""]
  | checkManifest =>
    [⟨"Arguments",
      [⟨pathArgument, "Bundle directory, `.tar.gz` archive, or `plugin.json` file"⟩]⟩,
     commandOptions ""]
  | help => [⟨"Arguments", [⟨"[COMMAND]...", "Print help for the subcommand(s)"⟩]⟩]

/-- The page of a topic. -/
def page (topic : HelpTopic) : HelpPage :=
  ⟨topic.purpose, programName ++ " " ++ topic.usage, topic.lists⟩

end HelpTopic

/-- What is told about a command line that cannot be followed. -/
def UsageProblem.report (problem : UsageProblem) : String :=
  s!"error: {problem.message}\n\nFor more information, try '--help'.\n"

end PluginHost
