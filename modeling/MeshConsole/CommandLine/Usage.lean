import MeshConsole.CommandLine.Settings

/-!
# Usage

What can be said on the command line, and the help about it. A command has options, each with a
value, and at most one argument, which is then required.
-/

namespace MeshConsole

/-- An option with a value. -/
structure CommandOption where
  name : String
  value : String
  about : String
  accepts : String → Bool

/-- An argument. -/
structure CommandArgument where
  value : String
  about : String
deriving Repr, DecidableEq

/-- A command. -/
structure Command where
  name : String
  about : String
  options : List CommandOption
  argument : Option CommandArgument

/-- The name of the program. -/
def programName : String := "meshstatus"

/-- What the program is. -/
def programAbout : String := "Diagnostics dashboard for a single mesh node"

/-- The line that tells the version of the program. -/
def versionText : String := programName ++ " 1.0.0\n"

namespace Command

/-- The command that runs the console. It is run if there is no command. -/
def serve : Command := ⟨"serve", "Serve the dashboard (default)", [], none⟩

/-- The option that limits the time of a probe. -/
def timeoutOption : CommandOption :=
  ⟨"timeout-secs", "TIMEOUT_SECS", "Upper bound for the whole load, in seconds",
   fun value => (Settings.seconds? value).isSome⟩

/-- The command that probes the node. -/
def probe : Command :=
  ⟨"probe", "Load the node once, print a summary and exit", [timeoutOption], none⟩

/-- The option that gives the target of a trace. -/
def targetOption : CommandOption := ⟨"target", "TARGET", "Traceroute target", fun _ => true⟩

/-- The command that fetches from one endpoint. -/
def fetch : Command :=
  ⟨"fetch", "Fetch one node endpoint and print its payload", [targetOption],
   some
     ⟨"ENDPOINT", "capabilities, status, olsr2, nodedb, connections, versions or traceroute"⟩⟩

/-- All commands. -/
def all : List Command := [serve, probe, fetch]

/-- The command of a name. -/
def ofName? (name : String) : Option Command := all.find? fun command => command.name == name

end Command

/-! ### Help -/

/-- The description of the help command. -/
def helpAbout : String := "Print this message or the help of the given subcommand(s)"

/-- An entry of a section of the help: what is said, and what it means. -/
abbrev HelpEntry := String × String

/-- An entry whose explanation begins in the given column. -/
def HelpEntry.line (column : Nat) (entry : HelpEntry) : String :=
  entry.1 ++ String.ofList (List.replicate (column - entry.1.length) ' ') ++ entry.2 ++ "\n"

/-- A section of the help. The explanations stand below each other. A section without entries is
left out. -/
def helpSection (title : String) (entries : List HelpEntry) : String :=
  if entries.isEmpty then ""
  else
    let column := entries.foldl (fun widest entry => max widest entry.1.length) 0 + 2
    "\n" ++ title ++ ":\n" ++ String.join (entries.map (HelpEntry.line column))

/-- The beginning of a help: what something is, and how it is called. -/
def helpHead (about : String) (call : List String) : String :=
  about ++ "\n\nUsage: " ++ " ".intercalate (programName :: call) ++ "\n"

namespace Command

/-- The entry of the option that asks for help. -/
def helpEntry : HelpEntry := ("  -h, --help", "Print help")

/-- The help about a command. -/
def help (command : Command) : String :=
  let arguments := command.argument.toList
  let options := if command.options.isEmpty then [] else ["[OPTIONS]"]
  helpHead command.about
    (command.name :: options ++ arguments.map fun argument => "<" ++ argument.value ++ ">") ++
  helpSection "Arguments"
    (arguments.map fun argument => ("  <" ++ argument.value ++ ">", argument.about)) ++
  helpSection "Options"
    ((command.options.map fun option =>
        ("      --" ++ option.name ++ " <" ++ option.value ++ ">", option.about)) ++
      [helpEntry])

end Command

/-- The help about the help command. -/
def helpOnHelp : String :=
  helpHead helpAbout ["help", "[COMMAND]..."] ++
  helpSection "Arguments" [("  [COMMAND]...", "Print help for the subcommand(s)")]

/-- The help about the program. -/
def programHelp : String :=
  helpHead programAbout ["[COMMAND]"] ++
  helpSection "Commands"
    ((Command.all.map fun command => ("  " ++ command.name, command.about)) ++
      [("  help", helpAbout)]) ++
  helpSection "Options" [Command.helpEntry, ("  -V, --version", "Print version")]

end MeshConsole
