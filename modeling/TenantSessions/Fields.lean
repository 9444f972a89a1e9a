import Std.Data.ExtTreeMap

/-! Fields are the named texts that a cache keeps under one key. -/

namespace TenantSessions

/-- The fields of one key, each name at most once. -/
abbrev Fields := Std.ExtTreeMap String String

namespace Fields

/-- Writes pairs in order, so that a later pair replaces an earlier one of its name. -/
def write (fields : Fields) (pairs : List (String × String)) : Fields :=
  -- From left to right, as a server goes through the words of the command.
  pairs.foldl (fun written pair => written.insert pair.1 pair.2) fields

/-- The fields that a list of pairs stands for. -/
def ofPairs (pairs : List (String × String)) : Fields :=
  write ∅ pairs

end Fields

end TenantSessions
