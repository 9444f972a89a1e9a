import TenantSessions.Text.Cut

/-! The path of a URL names its segments between slashes; segments of one dot stay where they are,
and segments of two dots go back by one. -/

namespace TenantSessions.Url

/-- Whether a segment is one dot, which may be spelled by its byte. -/
def isDot (segment : List Char) : Bool :=
  [".", "%2e"].contains (String.ofList segment).toLower

/-- Whether a segment is two dots, each of which may be spelled by its byte. -/
def isTwoDots (segment : List Char) : Bool :=
  ["..", ".%2e", "%2e.", "%2e%2e"].contains (String.ofList segment).toLower

/-- Whether a segment names a drive by a letter and a mark; nothing goes back over it. -/
def namesDrive (segment : List Char) : Bool :=
  match segment with
  | letter :: mark :: rest =>
    letter.isAlpha && (mark == ':' || mark == '|') && (rest.isEmpty || rest.head? == some '\\')
  | _ => false

/-- Goes back by one segment; the last segment comes first. -/
def goBack (trail : List (List Char)) : List (List Char) :=
  match trail with
  | [] => []
  | last :: before => if namesDrive last then last :: before else before

/-- Follows segments to the end; the trail of those before them has the last one first, and dots at
the end leave an empty segment. -/
def follow (trail : List (List Char)) : List (List Char) → List (List Char)
  | [] => trail.reverse
  | segment :: segments =>
    -- Dots that end the path name a directory, which ends in a slash.
    let place := if segments.isEmpty then [[]] else []
    if isTwoDots segment then follow (place ++ goBack trail) segments
    else if isDot segment then follow (place ++ trail) segments
    else follow (segment :: trail) segments

/-- The path behind a slash, with its dots followed. -/
def resolve (text : List Char) : List Char :=
  (follow [] (text.splitOn '/')).flatMap ('/' :: ·)

/-- Reads what follows the host: nothing, or a path that starts with a slash even if the text does
not. -/
def readPath (text : List Char) : List Char :=
  match text with
  | [] => []
  | '/' :: rest => resolve rest
  | _ => resolve text

end TenantSessions.Url
