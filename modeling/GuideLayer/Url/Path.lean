import GuideLayer.Url.Percent
import GuideLayer.Url.Pieces
import GuideLayer.Url.Scheme

/-!
Paths as lists of segments in their written form. One rule adds a piece of
text, whether it comes from a path or is appended later: `.` adds nothing,
`..` takes the segment before it away, and a drive letter at the front of a
file path is written with a colon and ends its segment.
-/

namespace GuideLayer

namespace Path

def isSingleDot (segment : String) : Bool := [".", "%2e", "%2E"].contains segment

def isDoubleDot (segment : String) : Bool :=
  ["..", "%2e%2e", "%2e%2E", "%2E%2e", "%2E%2E", "%2e.", "%2E.", ".%2e", ".%2E"].contains segment

/-- A letter with a colon or a bar after it. -/
def isDrive : List Char → Bool
  | [c, d] => c.isAlpha && (d == ':' || d == '|')
  | _ => false

/-- A drive letter, alone or before a separator. -/
def opensWithDrive : List Char → Bool
  | [c, d] => isDrive [c, d]
  | c :: d :: e :: _ => isDrive [c, d] && e == '\\'
  | _ => false

/-- The way up: a path without its last segment, but never without its drive. -/
def parent (done : List String) : List String :=
  match done.getLast? with
  | some s => if opensWithDrive s.toList then done else done.dropLast
  | none => []

/-- Tabs and line ends have no place in a URL and are left out wherever they stand. -/
def isIgnored (c : Char) : Bool := c == '\t' || c == '\n' || c == '\r'

def dropIgnored (cs : List Char) : List Char := cs.filter (fun c => !isIgnored c)

/-- How a text is written in a URL: the `reserved` characters as codes. -/
def written (reserved : Char → Bool) (cs : List Char) : String :=
  String.ofList (Percent.encode reserved (dropIgnored cs))

/-- A drive letter with its colon, set apart from the text after it by a tab or a line end. -/
def detachedDrive? (piece : List Char) : Option (String × List Char) :=
  match piece.dropWhile isIgnored with
  | [] => none
  | c :: cs =>
    match cs.dropWhile isIgnored with
    | ':' :: t :: rest =>
      if c.isAlpha ∧ isIgnored t ∧ dropIgnored rest ≠ [] then some (String.ofList [c, ':'], rest)
      else none
    | _ => none

/-- Adds one segment. After the last one a dot segment leaves an empty segment behind. -/
def addSegment (k : SchemeClass) (done : List String) (segment : String) (last : Bool) :
    List String :=
  if isDoubleDot segment then parent done ++ (if last then [""] else [])
  else if isSingleDot segment then done ++ (if last then [""] else [])
  else if k = .file ∧ done = [] ∧ isDrive segment.toList then
    [String.ofList (segment.toList.take 1 ++ [':'])]
  else done ++ [segment]

/-- Adds a piece of text. What follows a detached drive letter at the front of a file path is a
segment as it stands, dots included. -/
def add (k : SchemeClass) (reserved : Char → Bool) (done : List String) (piece : List Char)
    (last : Bool) : List String :=
  match if k = .file ∧ done = [] then detachedDrive? piece else none with
  | some (drive, rest) => [drive, written reserved rest]
  | none => addSegment k done (written reserved piece) last

/-- Adds the pieces of a path one after the other. -/
def addAll (k : SchemeClass) : List String → List (List Char) → List String
  | done, [] => done
  | done, [p] => add k Percent.inPath done p true
  | done, p :: q :: rest => addAll k (add k Percent.inPath done p false) (q :: rest)

/-- Whether a piece of a file path that comes to stand at the front is a drive letter alone. -/
def meetsDrive : List String → List (List Char) → Bool
  | _, [] => false
  | done, p :: rest =>
    (done.isEmpty && isDrive (dropIgnored p)) ||
      meetsDrive (add .file Percent.inPath done p false) rest

/-- File paths do not begin with empty segments. -/
def trimFront (segments : List String) : List String :=
  match segments.dropWhile (· == "") with
  | [] => [""]
  | s :: rest => s :: rest

/-- The last touch on a path of the given kind. -/
def tidy (k : SchemeClass) (segments : List String) : List String :=
  if k = .file then trimFront segments else segments

def render (segments : List String) : List Char :=
  segments.flatMap (fun s => '/' :: s.toList)

/-- A path without one trailing empty segment, unless it is the only one. -/
def dropTrailingEmpty (segments : List String) : List String :=
  if 1 < segments.length ∧ segments.getLast? = some "" then segments.dropLast else segments

/-- Appends a text as one segment. The texts `.` and `..` are passed over. -/
def append (k : SchemeClass) (segments : List String) (text : String) : List String :=
  if text = "." ∨ text = ".." then segments
  else
    let done := if segments = [""] then [] else segments
    let reserved := if k.isSpecial then Percent.inSpecialSegment else Percent.inSegment
    tidy k (add k reserved done text.toList true)

end Path

end GuideLayer
