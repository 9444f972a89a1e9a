import TenantSessions.CommandLine.Verb
import TenantSessions.Text.Terminal

/-! Usage texts: help for the program and its commands, and what is said about a wrong command line.
-/

namespace TenantSessions.CommandLine

/-- What help can be about. -/
inductive Topic where
  | program
  | verb (verb : Verb)
  /-- The command that prints help. -/
  | help
deriving DecidableEq, Repr

/-- What help says about the program. -/
def programAbout : String :=
  "Inspect and revoke tenant sessions in the shared cache"

/-- The version of the program. -/
def programVersion : String := "0.1.0"

/-- The word for the command that prints help. -/
def helpName : String := "help"

/-- What help says about the command that prints it. -/
def helpAbout : String :=
  "Print this message or the help of the given subcommand(s)"

/-- Two columns, of which the first is as wide as its widest text. -/
def columns (rows : List (String × String)) : List String :=
  -- The gap between the columns is two spaces at its narrowest.
  let width := rows.foldl (fun width row => max width row.1.length) 0
  rows.map fun row =>
    "  " ++ row.1 ++ String.ofList (List.replicate (width - row.1.length) ' ') ++ "  " ++ row.2

/-- The row of an option. -/
def optionRow (slot : Slot) : String × String :=
  ("    " ++ slot.shown, slot.about)

/-- The row of the option that asks for help. -/
def helpRow : String × String :=
  ("-h, --help", "Print help")

/-- How a command is called. -/
def usageLine (verb : Verb) : String :=
  let options := if verb.optional.isEmpty then "" else " [OPTIONS]"
  "Usage: " ++ programName ++ " " ++ verb.name ++ options ++
    String.join (verb.required.map fun slot => " " ++ slot.shown)

/-- The help of a topic, line by line. -/
def Topic.lines : Topic → List String
  | .program =>
    [programAbout, "", "Usage: " ++ programName ++ " <COMMAND>", "", "Commands:"] ++
      columns (Verb.all.map (fun verb => (verb.name, verb.about)) ++ [(helpName, helpAbout)]) ++
      ["", "Options:"] ++ columns [helpRow, ("-V, --version", "Print version")]
  | .verb chosen =>
    -- Slots with an option and without are listed apart, each in the order of the command.
    let bare := chosen.slots.filter fun slot => slot.option?.isNone
    let named := chosen.slots.filter fun slot => slot.option?.isSome
    let operands :=
      if bare.isEmpty then []
      else ["Arguments:"] ++ columns (bare.map fun slot => (slot.shown, slot.about)) ++ [""]
    [chosen.about, "", usageLine chosen, ""] ++ operands ++ ["Options:"] ++
      columns (named.map optionRow ++ [helpRow])
  | .help =>
    [helpAbout, "", "Usage: " ++ programName ++ " " ++ helpName ++ " [COMMAND]...", "",
        "Arguments:"] ++
      columns [("[COMMAND]...", "Print help for the subcommand(s)")]

/-- The lines that tell the version. -/
def versionLines : List String :=
  [programName ++ " " ++ programVersion]

/-- What is wrong with a command line. -/
inductive Misuse where
  | nothingAsked
  | unexpectedArgument (text : String)
  | unrecognizedVerb (text : String)
  | unexpectedValue (value option : String)
  | missingValue (slot : Slot)
  | repeated (slot : Slot)
  | invalidValue (slot : Slot) (value : String) (flaw : Decimal.Flaw)
  | missingArguments
deriving DecidableEq, Repr

/-- What is said first about a wrong command line; arguments are shown without what would command a
terminal. -/
def Misuse.complaint : Misuse → String
  | .nothingAsked => programAbout
  | .unexpectedArgument text => "error: unexpected argument '" ++ Text.strip text ++ "' found"
  | .unrecognizedVerb text => "error: unrecognized subcommand '" ++ Text.strip text ++ "'"
  | .unexpectedValue value option =>
    "error: unexpected value '" ++ Text.strip value ++ "' for '" ++ option ++
      "' found; no more were expected"
  | .missingValue slot =>
    "error: a value is required for '" ++ slot.shown ++ "' but none was supplied"
  | .repeated slot =>
    "error: the argument '" ++ slot.shown ++ "' cannot be used multiple times"
  | .invalidValue slot value flaw =>
    "error: invalid value '" ++ Text.strip value ++ "' for '" ++ slot.shown ++ "': " ++
      flaw.message
  | .missingArguments => "error: the following required arguments were not provided:"

end TenantSessions.CommandLine
