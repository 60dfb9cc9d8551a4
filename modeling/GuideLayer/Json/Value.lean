import GuideLayer.Decimal.Notation

/-!
JSON values and their texts, compact and indented. The entries of an object
keep their order. A number that is not finite is written as `null`.
-/

namespace GuideLayer

inductive Json where
  | null
  | bool (b : Bool)
  | nat (n : Nat)
  | float (x : Float)
  | string (s : String)
  | array (items : List Json)
  | object (entries : List (String × Json))
  deriving Inhabited

namespace Json

/-- A string, or `null` in its absence. -/
def optional (s : Option String) : Json :=
  match s with
  | some s => string s
  | none => null

def hexDigit (n : Nat) : Char :=
  if n < 10 then Char.ofNat (48 + n) else Char.ofNat (87 + n)

/-- Quotes, backslashes and control characters are escaped, and nothing else. -/
def escapeChar (c : Char) : List Char :=
  if c = '"' then ['\\', '"']
  else if c = '\\' then ['\\', '\\']
  else if c = '\n' then ['\\', 'n']
  else if c = '\r' then ['\\', 'r']
  else if c = '\t' then ['\\', 't']
  else if c.toNat = 8 then ['\\', 'b']
  else if c.toNat = 12 then ['\\', 'f']
  else if c.toNat < 32 then
    ['\\', 'u', '0', '0', hexDigit (c.toNat / 16), hexDigit (c.toNat % 16)]
  else [c]

def quote (s : String) : String :=
  String.ofList ('"' :: s.toList.flatMap escapeChar ++ ['"'])

def renderFloat (x : Float) : String :=
  if x.isFinite then DecimalNotation.json.render x else "null"

/-- The text of a value that holds no others. -/
def renderLeaf : Json → String
  | null => "null"
  | bool b => if b then "true" else "false"
  | nat n => String.ofList (Nat.toDigits 10 n)
  | float x => renderFloat x
  | string s => quote s
  | array _ => "[]"
  | object _ => "\x7b\x7d"

mutual

/-- The text without any blanks. -/
def compact : Json → String
  | array items => "[" ++ ",".intercalate (compactItems items) ++ "]"
  | object entries => "\x7b" ++ ",".intercalate (compactEntries entries) ++ "\x7d"
  | leaf => renderLeaf leaf

def compactItems : List Json → List String
  | [] => []
  | v :: rest => v.compact :: compactItems rest

def compactEntries : List (String × Json) → List String
  | [] => []
  | (k, v) :: rest => (quote k ++ ":" ++ v.compact) :: compactEntries rest

end

/-- A line end and the indentation of a level. -/
def newLine (level : Nat) : String :=
  String.ofList ('\n' :: List.replicate (2 * level) ' ')

/-- Texts on lines of their own, one level deeper than the brackets around them. -/
def indentLines (level : Nat) (texts : List String) : String :=
  newLine (level + 1) ++ ("," ++ newLine (level + 1)).intercalate texts ++ newLine level

mutual

/-- The text with each item and entry on a line of its own, indented by two blanks a level. -/
def indented (level : Nat) : Json → String
  | array (v :: rest) =>
    "[" ++ indentLines level (indentedItems (level + 1) (v :: rest)) ++ "]"
  | object (e :: rest) =>
    "\x7b" ++ indentLines level (indentedEntries (level + 1) (e :: rest)) ++ "\x7d"
  | leaf => renderLeaf leaf

def indentedItems (level : Nat) : List Json → List String
  | [] => []
  | v :: rest => v.indented level :: indentedItems level rest

def indentedEntries (level : Nat) : List (String × Json) → List String
  | [] => []
  | (k, v) :: rest => (quote k ++ ": " ++ v.indented level) :: indentedEntries level rest

end

end Json

end GuideLayer
