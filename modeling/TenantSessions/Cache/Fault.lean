import TenantSessions.Cache.Command
import TenantSessions.Cache.Reply

/-! Faults are the causes for which a cache does not perform a command. -/

namespace TenantSessions

/-- Why no connection to a server came about. -/
inductive Outage where
  /-- Nothing listens at the address. -/
  | refused
  /-- No way leads to the host. -/
  | unreachable
  /-- The machine has no number of the host's kind. -/
  | unaddressed
  /-- The number of the host does not tell the network that it is in. -/
  | ambiguous
  /-- Nobody could be asked for the host. -/
  | unresolved
  /-- No host can have this name. -/
  | unnamed
  /-- The path leads nowhere. -/
  | missingFile
  | pathTooLong
  /-- The path holds a byte that no path can hold. -/
  | invalidPath
deriving DecidableEq, Repr

/-- How messages describe an outage. -/
def Outage.message : Outage → String
  | .refused => "Connection refused (os error 111)"
  | .unreachable => "Network is unreachable (os error 101)"
  | .unaddressed => "Cannot assign requested address (os error 99)"
  | .ambiguous => "Invalid argument (os error 22)"
  | .unresolved => "failed to lookup address information: Temporary failure in name resolution"
  | .unnamed => "failed to lookup address information: Name or service not known"
  | .missingFile => "No such file or directory (os error 2)"
  | .pathTooLong => "path must be shorter than SUN_LEN"
  | .invalidPath => "paths must not contain interior null bytes"

/-- Why a cache did not perform a command. -/
inductive Fault where
  /-- The lifetime has more milliseconds than an expiry command can carry. -/
  | lifetimeTooLong (life : Lifetime)
  /-- The deadline lies behind the last instant of the clock. -/
  | deadlineTooLate (life : Lifetime)
  /-- Commands of this kind are made to fail. -/
  | injected (kind : Command.Kind)
  /-- No connection to the server came about. -/
  | outage (cause : Outage)
  /-- The server signalled an error. -/
  | signalled (signal : Reply.Signal)
  /-- The reply of the server is not of the command's type. -/
  | mismatched (mismatch : Reply.Mismatch)
  /-- Input or output failed as described. -/
  | io (description detail : String)
deriving DecidableEq, Repr

namespace Fault

/-- The class of a fault, by which a caller may decide what to do. -/
inductive Kind where
  | io
  | clientConfig
  | type
  | response
  | execAbort
  | busyLoading
  | noScript
  | moved
  | ask
  | tryAgain
  | clusterDown
  | crossSlot
  | masterDown
  | readOnly
  | notBusy
  | noSubscription
  | extension
deriving DecidableEq, Repr

/-- How messages name a class of faults. -/
def Kind.label : Kind → String
  | .io => "IoError"
  | .clientConfig => "InvalidClientConfig"
  | .type => "TypeError"
  | .response => "ResponseError"
  | .execAbort => "ExecAbortError"
  | .busyLoading => "BusyLoadingError"
  | .noScript => "NoScriptError"
  | .moved => "Moved"
  | .ask => "Ask"
  | .tryAgain => "TryAgain"
  | .clusterDown => "ClusterDown"
  | .crossSlot => "CrossSlot"
  | .masterDown => "MasterDown"
  | .readOnly => "ReadOnly"
  | .notBusy => "NotBusy"
  | .noSubscription => "NoSub"
  | .extension => "ExtensionError"

/-- The class of the errors that servers signal with a code of their own. -/
def Kind.ofCode (code : String) : Kind :=
  match code with
  | "ERR" => .response
  | "EXECABORT" => .execAbort
  | "LOADING" => .busyLoading
  | "NOSCRIPT" => .noScript
  | "MOVED" => .moved
  | "ASK" => .ask
  | "TRYAGAIN" => .tryAgain
  | "CLUSTERDOWN" => .clusterDown
  | "CROSSSLOT" => .crossSlot
  | "MASTERDOWN" => .masterDown
  | "READONLY" => .readOnly
  | "NOTBUSY" => .notBusy
  | "NOSUB" => .noSubscription
  | _ => .extension

/-- The class of a fault. -/
def kind : Fault → Kind
  | .lifetimeTooLong _ => .clientConfig
  | .deadlineTooLate _ => .clientConfig
  | .injected _ => .io
  | .outage _ => .io
  | .signalled signal => Kind.ofCode signal.code
  | .mismatched _ => .type
  | .io .. => .io

/-- A description, the class of the fault and, where there is one, a detail. -/
def phrase (description : String) (kind : Kind) : Option String → String
  | some detail => description ++ " - " ++ kind.label ++ ": " ++ detail
  -- Without a detail there is no space before the dash either.
  | none => description ++ "- " ++ kind.label

/-- How messages describe an error that a server signals. -/
def signalMessage (signal : Reply.Signal) : String :=
  -- A code that is not known is shown itself, as there is no class to name.
  match Kind.ofCode signal.code with
  | .extension =>
    signal.code ++ ": " ++ signal.detail.getD "Unknown extension error encountered"
  | kind => phrase "An error was signalled by the server" kind signal.detail

/-- How messages describe a fault. -/
def message (fault : Fault) : String :=
  match fault with
  | .lifetimeTooLong life =>
    phrase "ttl out of range" fault.kind (some (life.text ++ " does not fit a PEXPIRE argument"))
  | .deadlineTooLate life =>
    phrase "ttl out of range" fault.kind (some (life.text ++ " overflows the clock"))
  | .injected command =>
    phrase "memory store failure" fault.kind (some (command.label ++ " is failing"))
  | .outage cause => cause.message
  | .signalled signal => signalMessage signal
  | .mismatched mismatch =>
    phrase "Response was of incompatible type" fault.kind
      (some (Text.quote mismatch.expectation ++ " (response was " ++ mismatch.reply ++ ")"))
  | .io description detail => phrase description fault.kind (some detail)

end Fault

/-- The milliseconds of a lifetime, unless an expiry command cannot carry them. -/
def Lifetime.expiry (life : Lifetime) : Except Fault Nat :=
  if life.millis ≤ Lifetime.maxMillis then .ok life.millis else .error (.lifetimeTooLong life)

end TenantSessions
