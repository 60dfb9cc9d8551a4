/-!
Percent codes. A character outside the allowed ones is written as the bytes
of its UTF-8 form, each as `%` and two upper-case hexadecimal digits.
-/

namespace GuideLayer

namespace Percent

/-- The sixteen digits, upper case. -/
def hexDigit (n : Nat) : Char :=
  if n < 10 then Char.ofNat (48 + n) else Char.ofNat (55 + n)

/-- The value of a digit of either case. -/
def hexValue? (c : Char) : Option Nat :=
  if '0' ≤ c ∧ c ≤ '9' then some (c.toNat - 48)
  else if 'A' ≤ c ∧ c ≤ 'F' then some (c.toNat - 55)
  else if 'a' ≤ c ∧ c ≤ 'f' then some (c.toNat - 87)
  else none

def encodeByte (b : UInt8) : List Char :=
  ['%', hexDigit (b.toNat / 16), hexDigit (b.toNat % 16)]

/-- The code of a character, byte by byte. -/
def encodeChar (c : Char) : List Char :=
  (String.utf8EncodeChar c).flatMap encodeByte

/-- Writes the characters that are `reserved`, and all outside ASCII, as codes. -/
def encode (reserved : Char → Bool) (cs : List Char) : List Char :=
  cs.flatMap (fun c => if reserved c || decide (127 ≤ c.toNat) then encodeChar c else [c])

/-- The bytes a text stands for. A `%` without two digits after it stands for itself. -/
def decode : List Char → List UInt8
  | '%' :: a :: b :: rest =>
    match hexValue? a, hexValue? b with
    | some h, some l => UInt8.ofNat (16 * h + l) :: decode rest
    | _, _ => (37 : UInt8) :: decode (a :: b :: rest)
  | c :: rest => String.utf8EncodeChar c ++ decode rest
  | [] => []
  termination_by cs => cs.length

/-- Control characters below the space. The ones above ASCII's letters are always coded. -/
def control (c : Char) : Bool := decide (c.toNat < 32)

def inFragment (c : Char) : Bool := control c || [' ', '"', '<', '>', '\x60'].contains c

def inQuery (c : Char) : Bool := control c || [' ', '"', '#', '<', '>'].contains c

/-- In queries of the schemes with a hierarchy the apostrophe is coded too. -/
def inSpecialQuery (c : Char) : Bool := inQuery c || c == '\''

def inPath (c : Char) : Bool := inFragment c || ['#', '?', '\x7b', '\x7d'].contains c

def inUserInfo (c : Char) : Bool :=
  inPath c || ['/', ':', ';', '=', '@', '[', '\\', ']', '^', '|'].contains c

/-- What has to be coded in a text that is to stay one segment of a path. -/
def inSegment (c : Char) : Bool := inPath c || ['/', '%'].contains c

/-- Where the backslash separates segments as well, it is coded too. -/
def inSpecialSegment (c : Char) : Bool := inSegment c || c == '\\'

end Percent

end GuideLayer
