import TenantSessions.Fields
import TenantSessions.Lifetime

/-! Commands are the round trips that session operations make to a cache. -/

namespace TenantSessions

/-- One round trip to a cache. -/
inductive Command where
  | write (key : String) (pairs : List (String × String))
  | expire (key : String) (life : Lifetime)
  | present (key : String)
  | read (key field : String)
  | readAll (key : String)
  | list (pattern : String)
  | delete (keys : List String)
deriving DecidableEq, Repr

namespace Command

/-- The commands by kind, as outages single them out. -/
inductive Kind where
  | write
  | expire
  | present
  | read
  | readAll
  | list
  | delete
deriving DecidableEq, Repr

/-- How messages name a kind of command. -/
def Kind.label : Kind → String
  | .write => "HashSet"
  | .expire => "Expire"
  | .present => "Exists"
  | .read => "HashGet"
  | .readAll => "HashGetAll"
  | .list => "Keys"
  | .delete => "Delete"

/-- The kinds in the order of their declaration. -/
def Kind.all : List Kind :=
  [.write, .expire, .present, .read, .readAll, .list, .delete]

/-- The kind of a command. -/
def kind : Command → Kind
  | .write .. => .write
  | .expire .. => .expire
  | .present .. => .present
  | .read .. => .read
  | .readAll .. => .readAll
  | .list .. => .list
  | .delete .. => .delete

/-- What a command answers when the cache performs it. -/
@[reducible] def Answer : Command → Type
  | .write .. => Unit
  | .expire .. => Unit
  | .present .. => Bool
  | .read .. => Option String
  | .readAll .. => Fields
  | .list .. => List String
  | .delete .. => Nat

/-- The words in which a command is sent to a server. -/
def words : Command → List String
  -- A name and its value are two words.
  | .write key pairs => ["HMSET", key] ++ pairs.flatMap fun pair => [pair.1, pair.2]
  | .expire key life => ["PEXPIRE", key, life.millis.repr]
  | .present key => ["EXISTS", key]
  | .read key field => ["HGET", key, field]
  | .readAll key => ["HGETALL", key]
  | .list pattern => ["KEYS", pattern]
  | .delete keys => "DEL" :: keys

end Command

end TenantSessions
