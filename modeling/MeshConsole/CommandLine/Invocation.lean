import MeshConsole.CommandLine.Usage

/-!
# Invocations

A command line is read word by word. A word that begins with a dash is an option, until a word of
two dashes ends the options; the value of an option is the next word, or stands behind an equals
sign. No option may be given twice. Who asks for help is given help, unless something was wrong
before.

    words ──Command.fill──▶ Except Interruption Filled ──▶ Invocation
-/

namespace MeshConsole

/-- What has been read of a command's words: the values of its options, its argument, the option
that waits for its value, and whether the options have ended. -/
structure Filled where
  values : List (String × String)
  argument : Option String
  pending : Option String
  optionsEnded : Bool
deriving Repr, DecidableEq

/-- Nothing has been read. -/
def Filled.initial : Filled := ⟨[], none, none, false⟩

/-- Why the reading of a command's words ends early. -/
inductive Interruption where
  | help
  | misuse
deriving Repr, DecidableEq

namespace Command

/-- The option of a name. -/
def option? (command : Command) (name : String) : Option CommandOption :=
  command.options.find? fun option => option.name == name

/-- Gives an option its value. -/
def give (command : Command) (name value : String) (filled : Filled) :
    Except Interruption Filled :=
  match command.option? name with
  | some option =>
    if (filled.values.lookup name).isSome || !option.accepts value then .error .misuse
    else .ok { filled with values := filled.values ++ [(name, value)], pending := none }
  | none => .error .misuse

/-- Reads the name of an option with its two dashes taken away. -/
def readLong (command : Command) (cs : List Char) (filled : Filled) :
    Except Interruption Filled :=
  let (name, value) := Text.splitOnce (· == '=') cs
  let name := String.ofList name
  match value with
  | some value => command.give name (String.ofList value) filled
  | none =>
    if name = "help" then .error .help
    else if (command.option? name).isSome then .ok { filled with pending := some name }
    else .error .misuse

/-- Takes a word as the argument. -/
def readArgument (command : Command) (word : String) (filled : Filled) :
    Except Interruption Filled :=
  if command.argument.isSome && filled.argument.isNone then
    .ok { filled with argument := some word }
  else .error .misuse

/-- Reads one word. -/
def readWord (command : Command) (filled : Filled) (word : String) :
    Except Interruption Filled :=
  if filled.optionsEnded then command.readArgument word filled
  else match word.toList, filled.pending with
    | ['-'], some name => command.give name word filled
    | ['-'], none => command.readArgument word filled
    | '-' :: _, some _ => .error .misuse
    | ['-', '-'], none => .ok { filled with optionsEnded := true }
    | '-' :: '-' :: cs, none => command.readLong cs filled
    | '-' :: 'h' :: _, none => .error .help
    | '-' :: _, none => .error .misuse
    | _, some name => command.give name word filled
    | _, none => command.readArgument word filled

/-- Reads all words of a command. At the end no option waits for its value, and the argument is
there if the command has one. -/
def fill (command : Command) (words : List String) : Except Interruption Filled := do
  let filled ← words.foldlM command.readWord .initial
  if filled.pending.isSome || (command.argument.isSome && filled.argument.isNone) then
    .error .misuse
  else .ok filled

end Command

/-- What the program is called for. -/
inductive Invocation where
  /-- To tell something about itself. -/
  | inform (text : String)
  /-- For nothing it understands. -/
  | misuse
  | serve
  | probe (seconds : Option Nat)
  | fetch (endpoint : String) (target : Option String)
deriving Repr, DecidableEq

namespace Invocation

/-- The invocation of a command with what was read of its words. -/
def ofFilled (command : Command) (filled : Filled) : Invocation :=
  if command.name = "probe" then
    .probe ((filled.values.lookup "timeout-secs").bind Settings.seconds?)
  else if command.name = "fetch" then
    .fetch (filled.argument.getD "") (filled.values.lookup "target")
  else .serve

/-- The invocation of a command with its words. -/
def ofCommand (command : Command) (words : List String) : Invocation :=
  match command.fill words with
  | .ok filled => ofFilled command filled
  | .error .help => .inform command.help
  | .error .misuse => .misuse

/-- The help that is asked for. -/
def ofHelp : List String → Invocation
  | [] => .inform programHelp
  | ["help"] => .inform helpOnHelp
  | [name] =>
    match Command.ofName? name with
    | some command => .inform command.help
    | none => .misuse
  | _ => .misuse

/-- The invocation that the words of a command line give. -/
def ofWords : List String → Invocation
  | [] => .serve
  | "help" :: words => ofHelp words
  | "--" :: words => if words.isEmpty then .serve else .misuse
  | "--help" :: _ => .inform programHelp
  | "--version" :: _ => .inform versionText
  | word :: words =>
    match Command.ofName? word, word.toList with
    | some command, _ => ofCommand command words
    | none, '-' :: 'h' :: _ => .inform programHelp
    | none, '-' :: 'V' :: _ => .inform versionText
    | none, _ => .misuse

end Invocation

end MeshConsole
