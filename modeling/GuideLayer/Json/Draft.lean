import GuideLayer.Json.Numeral
import GuideLayer.Json.Quoted

/-!
A JSON text as a tree, as far as it can be read. What is wrong stands at its
place in the tree, so that a reader who walks it front to back meets the first
problem first, be it of the text or of what the reader wants.
-/

namespace GuideLayer

inductive Draft where
  /-- Nothing that begins a value. -/
  | absent (fault : Fault)
  | null (flaw : Option Fault)
  | bool (b : Bool) (flaw : Option Fault)
  | number (n : Except Fault Numeral)
  | string (s : Quoted)
  /-- A list, and what stands where a comma or its end should. -/
  | array (items : List Draft) (stop : Option Fault)
  /-- An object; what stands where a key should is kept, whether it is a string or not. -/
  | object (entries : List (Draft × Draft)) (stop : Option Fault)

namespace Draft

def isBlank (c : Char) : Bool := c == ' ' || c == '\n' || c == '\t' || c == '\r'

def skipBlanks (cs : List Char) : List Char := cs.dropWhile isBlank

/-- Compares a text with the rest of a word; the word's flaw and what follows it. -/
def word : List Char → List Char → Option Fault × List Char
  | [], cs => (none, cs)
  | _ :: _, [] => (some .truncated, [])
  | w :: ws, c :: cs => if c = w then word ws cs else (some .malformed, c :: cs)

mutual

/-- Reads a value and gives what follows it. The count bounds the steps; twice as many as there
are characters, and two more, are always enough. -/
def value : Nat → List Char → Draft × List Char
  | 0, cs => (absent .truncated, cs)
  | n + 1, cs =>
    match skipBlanks cs with
    | [] => (absent .truncated, [])
    | c :: rest =>
      if c = 'n' then
        let (flaw, rest) := word ['u', 'l', 'l'] rest
        (null flaw, rest)
      else if c = 't' then
        let (flaw, rest) := word ['r', 'u', 'e'] rest
        (bool true flaw, rest)
      else if c = 'f' then
        let (flaw, rest) := word ['a', 'l', 's', 'e'] rest
        (bool false flaw, rest)
      else if c = '"' then
        let (q, rest) := Quoted.lex n rest
        (string q, rest)
      else if c = '-' ∨ c.isDigit then
        match Numeral.lex (c :: rest) with
        | .ok (numeral, rest) => (number (.ok numeral), rest)
        | .error fault => (number (.error fault), rest)
      else if c = '[' then
        match skipBlanks rest with
        | [] => (array [] (some .truncated), [])
        | ']' :: rest => (array [] none, rest)
        | rest =>
          let (list, stop, rest) := items n rest
          (array list stop, rest)
      else if c = '\x7b' then
        match skipBlanks rest with
        | [] => (object [] (some .truncated), [])
        | '\x7d' :: rest => (object [] none, rest)
        | rest =>
          let (list, stop, rest) := entries n rest
          (object list stop, rest)
      else (absent .malformed, c :: rest)

/-- Reads the items of a list up to its end. -/
def items : Nat → List Char → List Draft × Option Fault × List Char
  | 0, cs => ([], some .truncated, cs)
  | n + 1, cs =>
    let (v, rest) := value n cs
    match skipBlanks rest with
    | [] => ([v], some .truncated, [])
    | ']' :: rest => ([v], none, rest)
    | ',' :: rest =>
      let (list, stop, rest) := items n rest
      (v :: list, stop, rest)
    | rest => ([v], some .malformed, rest)

/-- Reads the entries of an object up to its end. -/
def entries : Nat → List Char → List (Draft × Draft) × Option Fault × List Char
  | 0, cs => ([], some .truncated, cs)
  | n + 1, cs =>
    let (key, rest) := value n cs
    match skipBlanks rest with
    | [] => ([(key, absent .truncated)], none, [])
    | ':' :: rest =>
      let (v, rest) := value n rest
      match skipBlanks rest with
      | [] => ([(key, v)], some .truncated, [])
      | '\x7d' :: rest => ([(key, v)], none, rest)
      | ',' :: rest =>
        let (list, stop, rest) := entries n rest
        ((key, v) :: list, stop, rest)
      | rest => ([(key, v)], some .malformed, rest)
    | rest => ([(key, absent .malformed)], none, rest)

end

/-- The draft of a text and what is left of the text. -/
def ofText (text : String) : Draft × List Char :=
  value (2 * text.length + 2) text.toList

def check (flaw : Option Fault) : Except Fault Unit :=
  match flaw with
  | some fault => .error fault
  | none => .ok ()

/-- The text of a key. What is no string is no key. -/
def keyText : Draft → Except Fault String
  | string q => q.text
  | absent fault => .error fault
  | _ => .error .malformed

/-- What is wrong with a key that is only passed over. -/
def skimKey : Draft → Except Fault Unit
  | string q => q.skim
  | absent fault => .error fault
  | _ => .error .malformed

mutual

/-- What is wrong with a value that is only passed over. -/
def skim : Draft → Except Fault Unit
  | absent fault => .error fault
  | null flaw => check flaw
  | bool _ flaw => check flaw
  | number (.ok _) => .ok ()
  | number (.error _) => .error .malformed
  | string q => q.skim
  | array list stop => do skimItems list; check stop
  | object list stop => do skimEntries list; check stop

def skimItems : List Draft → Except Fault Unit
  | [] => .ok ()
  | v :: rest => do v.skim; skimItems rest

def skimEntries : List (Draft × Draft) → Except Fault Unit
  | [] => .ok ()
  | (key, v) :: rest => do key.skimKey; v.skim; skimEntries rest

end

/-- One level down. A value may be nested only so deep. -/
def descend (depth : Nat) : Except Fault Nat :=
  if depth ≤ 1 then .error .malformed else .ok (depth - 1)

mutual

/-- What is wrong with a value that is kept, of whatever kind it is. -/
def settle (depth : Nat) : Draft → Except Fault Unit
  | absent fault => .error fault
  | null flaw => check flaw
  | bool _ flaw => check flaw
  | number (.ok n) => n.value.map (fun _ => ())
  | number (.error fault) => .error fault
  | string q => q.text.map (fun _ => ())
  | array list stop => do
    let depth ← descend depth
    settleItems depth list
    check stop
  | object list stop => do
    let depth ← descend depth
    settleEntries depth list
    check stop

def settleItems (depth : Nat) : List Draft → Except Fault Unit
  | [] => .ok ()
  | v :: rest => do v.settle depth; settleItems depth rest

def settleEntries (depth : Nat) : List (Draft × Draft) → Except Fault Unit
  | [] => .ok ()
  | (key, v) :: rest => do
    let _ ← key.keyText
    v.settle depth
    settleEntries depth rest

end

/-- What to say of a value of the wrong kind: a flaw of its own comes first. -/
def mismatch : Draft → Fault
  | absent fault => fault
  | null flaw => flaw.getD .mismatch
  | bool _ flaw => flaw.getD .mismatch
  | number (.error fault) => fault
  | number (.ok n) =>
    match n.value with
    | .error fault => fault
    | .ok _ => .mismatch
  | string q =>
    match q.text with
    | .error fault => fault
    | .ok _ => .mismatch
  | array _ _ => .mismatch
  | object _ _ => .mismatch

end Draft

end GuideLayer
