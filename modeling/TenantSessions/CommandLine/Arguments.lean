import TenantSessions.CommandLine.Usage

/-!
Reading a command line. The value of an option is looked at only when the next known option begins
or the line ends, so an argument that nothing takes is complained about first.
-/

namespace TenantSessions.CommandLine

/-- What a well-formed command line asks for. -/
inductive Asked where
  | order (order : Order)
  | help (topic : Topic)
  | version
deriving DecidableEq, Repr

/-- The shape of one argument. -/
inductive Shape where
  /-- Two dashes, after which nothing is an option. -/
  | divider
  /-- A name after two dashes, and the value behind an equals sign if there is one. -/
  | long (name : String) (value : Option String)
  /-- A letter after one dash. -/
  | short (letter : Char)
  | plain
deriving DecidableEq, Repr

/-- The shape of an argument; a lone dash is plain. -/
def Shape.of (argument : String) : Shape :=
  match argument.toList with
  | ['-', '-'] => .divider
  -- The first equals sign ends the name; the value may hold more of them, or nothing.
  | '-' :: '-' :: text =>
    match text.dropWhile (· != '=') with
    | [] => .long (String.ofList text) none
    | _ :: value =>
      .long (String.ofList (text.takeWhile (· != '='))) (some (String.ofList value))
  | '-' :: letter :: _ => .short letter
  | _ => .plain

/-- The name of an option as complaints show it. -/
def longName (name : String) : String :=
  "--" ++ name

/-- How complaints show a letter after a dash. -/
def shortName (letter : Char) : String :=
  String.ofList ['-', letter]

/-- The name of the option that asks for help. -/
def helpOption : String := "help"

/-- The name of the option that asks for the version. -/
def versionOption : String := "version"

/-- How far the arguments of a command have been read. -/
structure Progress where
  given : Given
  /-- The slot that was begun last, and its value once that has come. -/
  pending : Option (Slot × Option String)
  /-- Whether the divider has come. -/
  divided : Bool
deriving DecidableEq, Repr

namespace Progress

/-- Before the first argument of a command. -/
def start : Progress where
  given := .nothing
  pending := none
  divided := false

/-- Fills the slot that was begun last. -/
def settle (progress : Progress) : Except Misuse Given :=
  match progress.pending with
  | none => .ok progress.given
  | some (slot, none) => .error (.missingValue slot)
  | some (slot, some value) =>
    -- A repetition is complained about before the value is read.
    if progress.given.has slot then .error (.repeated slot)
    else
      match progress.given.fill slot value with
      | .ok given => .ok given
      | .error flaw => .error (.invalidValue slot value flaw)

/-- Begins a slot, which settles the one before it; a value that comes with the name is settled at
once. -/
def begin (progress : Progress) (slot : Slot) (attached : Option String) :
    Except Misuse Progress := do
  let given ← progress.settle
  match attached with
  | none => return { progress with given := given, pending := some (slot, none) }
  | some value =>
    let given ← { progress with given := given, pending := some (slot, some value) }.settle
    return { progress with given := given, pending := none }

/-- Takes an argument that is no option: the value that is waited for, or a token by itself. -/
def takePlain (verb : Verb) (progress : Progress) (argument : String) :
    Except Misuse Progress := do
  match progress.pending, progress.divided with
  -- Behind the divider no option waits for its value any more.
  | some (slot, none), false => return { progress with pending := some (slot, some argument) }
  | pending, _ =>
    -- A bare token that was begun but not settled is taken as well.
    let taken := progress.given.has .bareToken || (pending.map Prod.fst) == some .bareToken
    if verb.takesBareToken && !taken then
      let given ← progress.settle
      return { progress with given := given, pending := some (.bareToken, some argument) }
    else throw (.unexpectedArgument argument)

/-- Ends the arguments of a command. -/
def finish (verb : Verb) (progress : Progress) : Except Misuse Asked := do
  let given ← progress.settle
  match verb.order? given with
  | some order => return .order order
  | none => throw .missingArguments

end Progress

/-- Reads the arguments of a command. -/
def readVerb (verb : Verb) (progress : Progress) : List String → Except Misuse Asked
  | [] => progress.finish verb
  | argument :: rest => do
    -- Behind the divider everything is plain, whatever it looks like.
    match if progress.divided then .plain else Shape.of argument with
    | .divider => readVerb verb { progress with divided := true } rest
    | .plain => readVerb verb (← progress.takePlain verb argument) rest
    | .short letter =>
      if letter = 'h' then
        let _ ← progress.settle
        return .help (.verb verb)
      else throw (.unexpectedArgument (shortName letter))
    | .long name attached =>
      if name = helpOption then
        match attached with
        | some value => throw (.unexpectedValue value (longName name))
        | none =>
          let _ ← progress.settle
          return .help (.verb verb)
      else
        match verb.slotOf? name with
        | some slot => readVerb verb (← progress.begin slot attached) rest
        | none => throw (.unexpectedArgument (longName name))

/-- Reads the words after the command that prints help. -/
def readHelp : List String → Except Misuse Asked
  | [] => .ok (.help .program)
  | word :: rest =>
    let topic :=
      if word = helpName then some .help else (Verb.ofName? word).map Topic.verb
    match topic, rest with
    | none, _ => .error (.unrecognizedVerb word)
    | some topic, [] => .ok (.help topic)
    | some _, word :: _ => .error (.unrecognizedVerb word)

/-- Complains about words after the divider, where no command may stand. -/
def readDivided : List String → Except Misuse Asked
  | [] => .error .nothingAsked
  | word :: _ =>
    if word = helpName ∨ (Verb.ofName? word).isSome then .error (.unexpectedArgument word)
    else .error (.unrecognizedVerb word)

/-- Reads a whole command line, of which options may stand before the command. -/
def readArguments : List String → Except Misuse Asked
  | [] => .error .nothingAsked
  | argument :: rest =>
    match Shape.of argument with
    | .divider => readDivided rest
    | .plain =>
      if argument = helpName then readHelp rest
      else
        match Verb.ofName? argument with
        | some verb => readVerb verb .start rest
        | none => .error (.unrecognizedVerb argument)
    | .short letter =>
      if letter = 'h' then .ok (.help .program)
      else if letter = 'V' then .ok .version
      else .error (.unexpectedArgument (shortName letter))
    | .long name attached =>
      if name = helpOption ∨ name = versionOption then
        match attached with
        | some value => .error (.unexpectedValue value (longName name))
        | none => .ok (if name = helpOption then .help .program else .version)
      else .error (.unexpectedArgument (longName name))

end TenantSessions.CommandLine
