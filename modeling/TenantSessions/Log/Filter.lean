import TenantSessions.Log.Event
import TenantSessions.Decimal
import TenantSessions.Expression
import TenantSessions.Text.Cut
import TenantSessions.Text.Letter

/-!
A log filter says, by the source and the values of an event, up to which level events are shown.
The places at which a rule is cut are counted from its first character that is no blank, yet the
rule is cut with all its blanks, so a rule that starts with a blank may be cut within a character.
-/

namespace TenantSessions

/-- One rule of a log filter: up to which verbosity some events are shown. -/
structure LogRule where
  /-- What the source of an event starts with. -/
  source : String
  /-- The name of a value that an event carries, if the rule asks for one. -/
  valueName : Option String
  /-- Whether the rule is about what happens within a span, of which the program has none. -/
  withinSpan : Bool
  limit : Nat
deriving DecidableEq, Repr

namespace LogRule

/-- Why a text is no rule. -/
inductive Flaw where
  | malformed
  | unknownLevel
  | invalidValue (flaw : Expression.Flaw)
deriving DecidableEq, Repr

/-- How messages describe why a text is no rule. -/
def Flaw.message : Flaw → String
  | .malformed => "invalid filter directive"
  | .unknownLevel =>
    "error parsing level filter: expected one of \"off\", \"error\", \"warn\", \"info\", " ++
      "\"debug\", \"trace\", or a number 0-5"
  | .invalidValue flaw => "invalid field filter: " ++ flaw.message

/-- The verbosity up to which a rule shows events that names no level. -/
def everything : Nat := 5

/-- The rule that shows every event. -/
def all : LogRule where
  source := ""
  valueName := none
  withinSpan := false
  limit := everything

/-- The verbosity that a word names: a level, `off`, or a number up to five. -/
def limitOf? (word : List Char) : Option Nat :=
  match (String.ofList word).toLower with
  | "off" => some 0
  | "error" => some 1
  | "warn" => some 2
  | "info" => some 3
  | "debug" => some 4
  | "trace" => some everything
  | _ =>
    -- A number may have a plus sign and zeros in front.
    match Decimal.readWord word with
    | .ok number => if number.toNat ≤ everything then some number.toNat else none
    | .error _ => none

/-- Whether a character may open the name of a source. -/
def opensSource (c : Char) : Bool :=
  c == '-' || c == ':' || c == '_' || Text.isLetterOrNumber c

/-- The reading of a rule: it may find a flaw, and there is none where a cut is within a character.
-/
abbrev Reading := ExceptT Flaw Option

/-- Cuts a text at two places. -/
def cut (text : List Char) (start stop : Nat) : Reading (List Char) :=
  ExceptT.lift (Text.between? text start stop)

/-- Reads the level from a place to the end of a text. -/
def readLimit (text : List Char) (start : Nat) : Reading Nat := do
  let word ← cut text start (Text.byteSize text)
  -- An equals sign with nothing behind it sets no limit.
  if word.isEmpty then return everything
  match limitOf? word with
  | some limit => return limit
  | none => throw .unknownLevel

/-- Reads what follows a span: nothing, or a level behind an equals sign. -/
def readEnd (text : List Char) (rule : LogRule) (start : Nat) (rest : List Char) :
    Reading LogRule :=
  match rest with
  | [] => return rule
  | '=' :: _ => return { rule with limit := ← readLimit text (start + 1) }
  | _ => throw .malformed

/-- What is wrong with the content that a value is to have: unless it is a number, it has to be an
expression. -/
def contentFlaw? (value : List Char) : Option Expression.Flaw :=
  match value.splitOn '=' with
  | _ :: content :: _ => if Decimal.isNumber content then none else Expression.flaw? content
  | _ => none

/-- Reads the value behind a brace; with a content it can only be that of a span. -/
def readValue (text : List Char) (rule : LogRule) (start : Nat) (rest : List Char) :
    Reading LogRule := do
  let (inside, after) := Text.cutAt (· == '\x7d') rest
  let stop := start + Text.byteSize inside
  match after with
  | [] => throw .malformed
  | _ :: after =>
    -- Where the value stops is counted without blanks in front, and the cut is made with them.
    let value ← cut text start stop
    if value.isEmpty then throw .malformed
    if let some flaw := contentFlaw? value then throw (.invalidValue flaw)
    match after with
    | ']' :: after =>
      let rule :=
        if value.contains '=' then { rule with withinSpan := true }
        else { rule with valueName := some (String.ofList value) }
      readEnd text rule (stop + 2) after
    | _ => throw .malformed

/-- Reads a span behind a bracket: its name, which may be left out before a value. -/
def readSpan (text : List Char) (rule : LogRule) (start : Nat) (rest : List Char) :
    Reading LogRule := do
  let (inside, after) := Text.cutAt (fun c => c == ']' || c == '\x7b') rest
  let stop := start + Text.byteSize inside
  match after with
  | [] => throw .malformed
  | mark :: after =>
    let name ← cut text start stop
    if mark = ']' then readEnd text { rule with withinSpan := true } (stop + 1) after
    else readValue text { rule with withinSpan := !name.isEmpty } (stop + 1) after

/-- Reads a rule: a level, or the name of a source, a span or both, before a level if there is one.
-/
def read (text : List Char) : Reading LogRule :=
  let bare := Text.trim text
  match bare with
  | [] => throw .malformed
  | '[' :: rest => readSpan text all 1 rest
  | first :: _ => do
    -- The first character is that of the trimmed text, while names are cut from the whole.
    if !opensSource first then throw .malformed
    let (name, rest) := Text.cutAt (fun c => c == '=' || c == '[') bare
    let stop := Text.byteSize name
    match rest with
    | [] =>
      match limitOf? text with
      | some limit => return { all with limit := limit }
      | none => return { all with source := String.ofList text }
    | mark :: rest =>
      let rule := { all with source := String.ofList (← cut text 0 stop) }
      if mark = '[' then readSpan text rule (stop + 1) rest
      else return { rule with limit := ← readLimit text (stop + 1) }

/-- Whether a rule is about an event, which carries a value named `message` besides its own. -/
def fits (rule : LogRule) (event : LogEvent) : Bool :=
  !rule.withinSpan && rule.source.toList.isPrefixOf event.source.toList &&
    rule.valueName.all fun name => name == "message" || event.values.any (·.1 == name)

/-- Whether a rule asks at least as much of events as another, first of their source. -/
def asksAsMuchAs (rule other : LogRule) : Bool :=
  -- A longer source asks more; among sources of one length a value does, and then its name.
  if rule.source.utf8ByteSize = other.source.utf8ByteSize then
    match rule.valueName, other.valueName with
    | some name, some otherName => otherName ≤ name
    | none, some _ => false
    | _, none => true
  else other.source.utf8ByteSize < rule.source.utf8ByteSize

end LogRule

/-- The rules of a filter in the order in which they were given, and what was said of texts that are
no rules. -/
structure LogFilter where
  rules : List LogRule
  notes : List String
deriving DecidableEq, Repr

namespace LogFilter

/-- What is said of a text that is no rule. -/
def note (text : List Char) (flaw : LogRule.Flaw) : String :=
  "ignoring \x60" ++ String.ofList text ++ "\x60: " ++ flaw.message

/-- The rule of a filter without any other: errors are shown. -/
def fallback : LogRule :=
  { LogRule.all with limit := LogLevel.error.verbosity }

/-- Reads the rules among some texts, and notes the other texts. -/
def readAll : List (List Char) → Option LogFilter
  | [] => some { rules := [], notes := [] }
  | text :: texts => do
    let reading ← (LogRule.read text).run
    -- A text that cannot be cut leaves no filter, wherever it stands in the list.
    let filter ← readAll texts
    match reading with
    | .ok rule => return { filter with rules := rule :: filter.rules }
    | .error flaw => return { filter with notes := note text flaw :: filter.notes }

/-- Reads the rules between commas; there is no filter where a rule is cut within a character. -/
def read (text : String) : Option LogFilter := do
  let filter ← readAll ((text.toList.splitOn ',').filter fun text => !text.isEmpty)
  -- Where every text is flawed, errors are still shown.
  return if filter.rules.isEmpty then { filter with rules := [fallback] } else filter

/-- Of two rules that fit an event, the one that asks more, and else the later one. -/
def prefer (earlier : Option LogRule) (later : LogRule) : Option LogRule :=
  match earlier with
  | some rule => if later.asksAsMuchAs rule then some later else some rule
  | none => some later

/-- Whether a filter shows an event. -/
def shows (filter : LogFilter) (event : LogEvent) : Bool :=
  match (filter.rules.filter (·.fits event)).foldl prefer none with
  | some rule => event.level.verbosity ≤ rule.limit
  | none => false

end LogFilter

end TenantSessions
