import TenantSessions.Fields
import TenantSessions.Decimal
import TenantSessions.Text.Quoted

/-! Replies of a cache server, what they are read as, and how a reply of the wrong type is shown. -/

namespace TenantSessions

/-- One reply of a cache server. -/
inductive Reply where
  | integer (value : Int64)
  | bulk (text : String)
  | nil
  | status (text : String)
  | error (text : String)
  | array (items : List Reply)
deriving Inhabited

namespace Reply

/-- An error that a server signals: a code, and a detail where one follows the code. -/
structure Signal where
  code : String
  detail : Option String
deriving DecidableEq, Repr

/-- Splits the text of an error reply at its first space. -/
def Signal.ofText (text : String) : Signal :=
  -- A code without a space behind it has no detail, and one with a bare space an empty detail.
  let code := text.toList.takeWhile (· != ' ')
  match text.toList.drop code.length with
  | [] => { code := String.ofList code, detail := none }
  | _ :: detail => { code := String.ofList code, detail := some (String.ofList detail) }

mutual

/-- The first error in a reply, looking into arrays from left to right. -/
def signal? : Reply → Option Signal
  | .error text => some (Signal.ofText text)
  | .array items => signalIn? items
  | _ => none
termination_by structural reply => reply

/-- The first error in a list of replies. -/
def signalIn? : List Reply → Option Signal
  | [] => none
  | item :: rest => (signal? item).or (signalIn? rest)
termination_by structural replies => replies

end

mutual

/-- How a message shows a reply. -/
def describe : Reply → String
  | .integer value => "int(" ++ Decimal.write value ++ ")"
  | .bulk text => "bulk-string('" ++ Text.quote text ++ "')"
  | .nil => "nil"
  | .status text => if text = "OK" then "ok" else "simple-string(" ++ Text.quote text ++ ")"
  | .error text => "error(" ++ Text.quote text ++ ")"
  | .array items => "array([" ++ String.intercalate ", " (describeAll items) ++ "])"
termination_by structural reply => reply

/-- How a message shows each of several replies. -/
def describeAll : List Reply → List String
  | [] => []
  | item :: rest => describe item :: describeAll rest
termination_by structural replies => replies

end

/-- A reply that cannot be read as what the command answers, and what was expected of it. -/
structure Mismatch where
  expectation : String
  reply : String
deriving DecidableEq, Repr

/-- The mismatch of a reply with an expectation. -/
def mismatch (reply : Reply) (expectation : String) : Mismatch where
  expectation := expectation
  reply := reply.describe

/-- Reads a truth value: a nonzero number, the digit one, or plain consent. -/
def toBool (reply : Reply) : Except Mismatch Bool :=
  match reply with
  | .nil => .ok false
  | .integer value => .ok (value != 0)
  | .status text =>
    if text = "OK" ∨ text = "1" then .ok true
    else if text = "0" then .ok false
    else .error (reply.mismatch "Response status not valid boolean")
  | .bulk text =>
    if text = "1" then .ok true
    else if text = "0" then .ok false
    else .error (reply.mismatch "Response type not bool compatible.")
  | _ => .error (reply.mismatch "Response type not bool compatible.")

/-- Reads a text; a number reads as its decimal text. -/
def toText (reply : Reply) : Except Mismatch String :=
  match reply with
  | .bulk text => .ok text
  | .status text => .ok text
  | .integer value => .ok (Decimal.write value)
  | _ => .error (reply.mismatch "Response type not string compatible.")

/-- Reads a text that may be missing. -/
def toText? (reply : Reply) : Except Mismatch (Option String) :=
  match reply with
  | .nil => .ok none
  | _ => reply.toText.map some

/-- Reads pairs of a name and a value that follow each other, none if the number of items is odd. -/
def pairs? : List Reply → Option (Except Mismatch (List (String × String)))
  | [] => some (.ok [])
  | [_] => none
  -- Whether the items pair up is settled before any of them is read.
  | name :: value :: rest =>
    (pairs? rest).map fun read => do
      let name ← name.toText
      let value ← value.toText
      return (name, value) :: (← read)

/-- Reads the fields of a key. -/
def toFields (reply : Reply) : Except Mismatch Fields :=
  match reply with
  | .nil => .ok ∅
  | .array items =>
    match pairs? items with
    | some read => read.map Fields.ofPairs
    | none => .error (reply.mismatch "Response type not hashmap compatible")
  | _ => .error (reply.mismatch "Response type not hashmap compatible")

/-- Reads a list of texts; a lone text reads as the list of itself. -/
def toTexts (reply : Reply) : Except Mismatch (List String) :=
  match reply with
  | .bulk text => .ok [text]
  | .array items => items.mapM toText
  | .nil => .ok []
  | _ => .error (reply.mismatch "Response type not vector compatible.")

/-- Reads a count, which is a word of 64 bits; a negative number wraps around. -/
def toCount (reply : Reply) : Except Mismatch Nat :=
  -- A text is read as a word without a sign, so no negative number comes out of it.
  let ofText (text : String) : Except Mismatch Nat :=
    match Decimal.readWord text.toList with
    | .ok count => .ok count.toNat
    | .error _ => .error (reply.mismatch "Could not convert from string.")
  match reply with
  | .integer value => .ok value.toUInt64.toNat
  | .status text => ofText text
  | .bulk text => ofText text
  | _ => .error (reply.mismatch "Response type not convertible to numeric.")

end Reply

end TenantSessions
