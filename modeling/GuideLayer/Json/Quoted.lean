import GuideLayer.Json.Fault

/-!
Strings in JSON texts. A string is first cut into characters and the units of
escapes by code; only a string that is wanted is then put together, and only
there the units have to make characters.
-/

namespace GuideLayer

/-- A part of a string: a character, or a sixteen-bit unit from an escape by code. -/
inductive QuotedPart where
  | char (c : Char)
  | unit (n : Nat)
  deriving DecidableEq, Repr

/-- A string as far as it can be read, and what stopped it before its closing quote. -/
structure Quoted where
  parts : List QuotedPart
  flaw : Option Fault
  deriving DecidableEq, Repr

namespace Quoted

/-- Where a string should be and is not. -/
def absent (fault : Fault) : Quoted := ⟨[], some fault⟩

/-- A whole string. -/
def ofString (s : String) : Quoted := ⟨s.toList.map .char, none⟩

def hexValue? (c : Char) : Option Nat :=
  if '0' ≤ c ∧ c ≤ '9' then some (c.toNat - 48)
  else if 'a' ≤ c ∧ c ≤ 'f' then some (c.toNat - 87)
  else if 'A' ≤ c ∧ c ≤ 'F' then some (c.toNat - 55)
  else none

/-- The four digits of an escape by code. Less than four bytes of text are too few. -/
def hexUnit (cs : List Char) : Except Fault (Nat × List Char) :=
  match cs with
  | a :: b :: c :: d :: rest =>
    match hexValue? a, hexValue? b, hexValue? c, hexValue? d with
    | some a, some b, some c, some d => .ok (((a * 16 + b) * 16 + c) * 16 + d, rest)
    | _, _, _, _ => .error .malformed
  | cs => if cs.foldr (fun c n => c.utf8Size + n) 0 < 4 then .error .truncated else .error .malformed

/-- The character that a one-letter escape stands for. -/
def escaped? (c : Char) : Option Char :=
  if c = '"' ∨ c = '\\' ∨ c = '/' then some c
  else if c = 'b' then some '\x08'
  else if c = 'f' then some '\x0c'
  else if c = 'n' then some '\n'
  else if c = 'r' then some '\r'
  else if c = 't' then some '\t'
  else none

/-- One part of a string, or what is wrong with it; `none` at the closing quote. -/
def next (cs : List Char) : Except Fault (Option QuotedPart × List Char) :=
  match cs with
  | [] => .error .truncated
  | '"' :: rest => .ok (none, rest)
  | '\\' :: 'u' :: rest => do
    let (n, rest) ← hexUnit rest
    pure (some (.unit n), rest)
  | '\\' :: c :: rest =>
    match escaped? c with
    | some e => .ok (some (.char e), rest)
    | none => .error .malformed
  | '\\' :: [] => .error .truncated
  | c :: rest => if c.toNat < 32 then .error .malformed else .ok (some (.char c), rest)

/-- Reads a string after its opening quote. Every step takes at least one character, so a count
above that of the characters bounds the steps. -/
def lex : Nat → List Char → Quoted × List Char
  | 0, cs => (absent .truncated, cs)
  | n + 1, cs =>
    match next cs with
    | .error fault => (absent fault, cs)
    | .ok (none, rest) => (⟨[], none⟩, rest)
    | .ok (some part, rest) =>
      let (q, rest) := lex n rest
      ({ q with parts := part :: q.parts }, rest)

/-- The character that two surrogate units make. -/
def pairValue (high low : Nat) : Char :=
  Char.ofNat (0x10000 + (high - 0xD800) * 0x400 + (low - 0xDC00))

def isHigh (n : Nat) : Bool := decide (0xD800 ≤ n ∧ n ≤ 0xDBFF)

def isLow (n : Nat) : Bool := decide (0xDC00 ≤ n ∧ n ≤ 0xDFFF)

/-- Puts parts together. Surrogates have to come in pairs; the flaw comes last. -/
def assemble (flaw : Option Fault) : List QuotedPart → Except Fault (List Char)
  | [] =>
    match flaw with
    | some fault => .error fault
    | none => .ok []
  | .char c :: rest => (assemble flaw rest).map (c :: ·)
  | .unit h :: .unit l :: rest =>
    if isHigh h then
      if isLow l then (assemble flaw rest).map (pairValue h l :: ·) else .error .malformed
    else if isLow h then .error .malformed
    else (assemble flaw (.unit l :: rest)).map (Char.ofNat h :: ·)
  | .unit h :: rest =>
    if isHigh h then
      match rest with
      | [] => .error (flaw.getD .malformed)
      | _ => .error .malformed
    else if isLow h then .error .malformed
    else (assemble flaw rest).map (Char.ofNat h :: ·)

/-- The string, where it is wanted. -/
def text (q : Quoted) : Except Fault String :=
  (assemble q.flaw q.parts).map String.ofList

/-- What is wrong with a string that is only passed over. -/
def skim (q : Quoted) : Except Fault Unit :=
  match q.flaw with
  | some fault => .error fault
  | none => .ok ()

end Quoted

end GuideLayer
