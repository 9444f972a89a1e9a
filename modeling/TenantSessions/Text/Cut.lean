/-! Cutting texts: at the first character of a class, at places counted in bytes, at the ends of
lines, and so that no blanks are left at either end. -/

namespace TenantSessions.Text

/-- Cuts a text at the first character of a class, which starts the second part. -/
def cutAt (stops : Char → Bool) (text : List Char) : List Char × List Char :=
  (text.takeWhile (!stops ·), text.dropWhile (!stops ·))

/-- Cutting a text loses nothing. -/
theorem cutAt_append (stops : Char → Bool) (text : List Char) :
    (cutAt stops text).1 ++ (cutAt stops text).2 = text :=
  List.takeWhile_append_dropWhile

/-- How many bytes a text takes. -/
def byteSize : List Char → Nat
  | [] => 0
  | c :: rest => c.utf8Size + byteSize rest

/-- A text without so many bytes at its start, if these end with a character. -/
def dropBytes? (count : Nat) : List Char → Option (List Char)
  | [] => if count = 0 then some [] else none
  -- A character that is longer than what is left to drop would be cut in two.
  | c :: rest =>
    if count = 0 then some (c :: rest)
    else if c.utf8Size ≤ count then dropBytes? (count - c.utf8Size) rest
    else none

/-- So many bytes at the start of a text, if these end with a character. -/
def takeBytes? (count : Nat) : List Char → Option (List Char)
  | [] => if count = 0 then some [] else none
  | c :: rest =>
    if count = 0 then some []
    else if c.utf8Size ≤ count then (takeBytes? (count - c.utf8Size) rest).map (c :: ·)
    else none

/-- The part of a text between two places, if neither lies within a character. -/
def between? (text : List Char) (start stop : Nat) : Option (List Char) :=
  (dropBytes? start text).bind (takeBytes? (stop - start))

/-- Dropping the bytes of a part leaves what follows it. -/
theorem dropBytes?_append (part rest : List Char) :
    dropBytes? (byteSize part) (part ++ rest) = some rest := by
  -- Every character of the part takes at least one byte, so none is left early.
  induction part with
  | nil => cases rest <;> simp [dropBytes?, byteSize]
  | cons c part ih =>
    have positive : c.utf8Size ≠ 0 := Nat.ne_of_gt c.utf8Size_pos
    simp [dropBytes?, byteSize, positive, ih]

/-- Taking the bytes of a part yields that part. -/
theorem takeBytes?_append (part rest : List Char) :
    takeBytes? (byteSize part) (part ++ rest) = some part := by
  -- As for dropping, every character of the part uses up at least one byte.
  induction part with
  | nil => cases rest <;> simp [takeBytes?, byteSize]
  | cons c part ih =>
    have positive : c.utf8Size ≠ 0 := Nat.ne_of_gt c.utf8Size_pos
    simp [takeBytes?, byteSize, positive, ih]

/-- The part between the places where it starts and stops is that part. -/
theorem between?_append (before part after : List Char) :
    between? (before ++ (part ++ after)) (byteSize before) (byteSize before + byteSize part) =
      some part := by
  simp [between?, dropBytes?_append, takeBytes?_append]

/-- A line without the carriage return that may belong to its end. -/
def dropReturn (line : List Char) : List Char :=
  if line.getLast? = some '\r' then line.dropLast else line

/-- The lines of a text. -/
def lines (text : String) : List String :=
  (text.toList.splitOn '\n').map fun line => String.ofList (dropReturn line)

/-- A text up to its first line end. -/
def firstLine (text : String) : String :=
  String.ofList (dropReturn (text.toList.takeWhile (· != '\n')))

/-- Whether a character is a blank, as Unicode's property `White_Space` has it. -/
def isBlank (c : Char) : Bool :=
  (0x9 ≤ c.toNat && c.toNat ≤ 0xD) || c.toNat == 0x20 || c.toNat == 0x85 || c.toNat == 0xA0 ||
    c.toNat == 0x1680 || (0x2000 ≤ c.toNat && c.toNat ≤ 0x200A) || c.toNat == 0x2028 ||
    c.toNat == 0x2029 || c.toNat == 0x202F || c.toNat == 0x205F || c.toNat == 0x3000

/-- Drops the characters of a class from the end of a text. -/
def dropEnd (drops : Char → Bool) (text : List Char) : List Char :=
  (text.reverse.dropWhile drops).reverse

/-- Drops the blanks at both ends of a text. -/
def trim (text : List Char) : List Char :=
  dropEnd isBlank (text.dropWhile isBlank)

end TenantSessions.Text
