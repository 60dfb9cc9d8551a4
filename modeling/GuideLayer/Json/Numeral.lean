import GuideLayer.Json.Fault

/-!
Numbers in JSON texts, and the values they are read as. Whole numbers of at
most sixty-four bits stay exact. All others become floating point numbers: as
many digits as fit sixty-four bits, scaled by a power of ten.
-/

namespace GuideLayer

/-- The parts of a number as written. -/
structure Numeral where
  negative : Bool
  whole : List Char
  /-- The digits after the point, if there is one. -/
  fraction : Option (List Char)
  /-- Whether the exponent is negative, and its digits. -/
  exponent : Option (Bool × List Char)
  deriving DecidableEq, Repr

inductive NumberValue where
  | nat (n : Nat)
  /-- A whole number below zero, by its absolute value. -/
  | negative (n : Nat)
  | float (x : Float)

namespace Numeral

def digitValue (c : Char) : Nat := c.toNat - 48

def positional (digits : List Char) : Nat :=
  digits.foldl (fun n c => 10 * n + digitValue c) 0

def maxNat64 : Nat := 0xffffffffffffffff

/-- Takes digits into a number while it stays within sixty-four bits, and tells what is left. -/
def absorb (n : Nat) : List Char → Nat × List Char
  | [] => (n, [])
  | c :: cs =>
    let next := 10 * n + digitValue c
    if next ≤ maxNat64 then absorb next cs else (n, c :: cs)

def pow10 (k : Nat) : Float := Float.ofScientific 1 false k

/-- Divides by powers of ten that are numbers themselves. A zero stays one. -/
def scaleDown (x : Float) (k : Nat) : Float :=
  if k ≤ 308 then x / pow10 k
  else if x == 0 then x
  else scaleDown (x / pow10 308) (k - 308)
  termination_by k

/-- Scales by a power of ten. A result beyond all numbers is none. -/
def scale (x : Float) (k : Int) : Option Float :=
  if k < 0 then some (scaleDown x k.natAbs)
  else if k ≤ 308 then
    let y := x * pow10 k.toNat
    if y.isInf then none else some y
  else if x == 0 then some x
  else none

/-- The largest exponent that is looked at. -/
def maxExponent : Nat := 0x7fffffff

/-- The absolute value as a floating point number. -/
def magnitude (n : Numeral) : Option Float :=
  let (head, beyond) := absorb 0 n.whole
  let (significand, rest) := absorb head (n.fraction.getD [])
  let taken := (n.fraction.getD []).length - rest.length
  let shift : Int := beyond.length - taken
  match n.exponent with
  | none => scale (Float.ofNat significand) shift
  | some (negative, digits) =>
    let e := positional digits
    if maxExponent < e then
      if significand = 0 ∨ negative then some 0 else none
    else scale (Float.ofNat significand) (if negative then shift - e else shift + e)

def isWhole (n : Numeral) : Bool := n.fraction.isNone && n.exponent.isNone

/-- The value of a number. Minus zero is no whole number. -/
def value (n : Numeral) : Except Fault NumberValue :=
  let w := positional n.whole
  if n.isWhole ∧ n.negative = false ∧ w ≤ maxNat64 then .ok (.nat w)
  else if n.isWhole ∧ n.negative ∧ 0 < w ∧ w ≤ 0x8000000000000000 then .ok (.negative w)
  else
    match n.magnitude with
    | some x => .ok (.float (if n.negative then -x else x))
    | none => .error .malformed

/-- Digits of which there has to be one, and what follows them. -/
def digits (cs : List Char) : Except Fault (List Char × List Char) :=
  match cs with
  | [] => .error .truncated
  | c :: _ =>
    if c.isDigit then .ok (cs.takeWhile Char.isDigit, cs.dropWhile Char.isDigit)
    else .error .malformed

/-- Reads an exponent where one begins. -/
def lexExponent (cs : List Char) : Except Fault (Option (Bool × List Char) × List Char) :=
  match cs with
  | c :: rest =>
    if c = 'e' ∨ c = 'E' then do
      let (negative, rest) :=
        match rest with
        | '+' :: rest => (false, rest)
        | '-' :: rest => (true, rest)
        | rest => (false, rest)
      let (ds, rest) ← digits rest
      pure (some (negative, ds), rest)
    else .ok (none, cs)
  | [] => .ok (none, [])

/-- Reads a fraction where one begins. -/
def lexFraction (cs : List Char) : Except Fault (Option (List Char) × List Char) :=
  match cs with
  | '.' :: rest => do
    let (ds, rest) ← digits rest
    pure (some ds, rest)
  | _ => .ok (none, cs)

/-- Digits before the point. A zero stands alone. -/
def lexWhole (cs : List Char) : Except Fault (List Char × List Char) := do
  let (ds, rest) ← digits cs
  if ds.head? = some '0' ∧ 1 < ds.length then throw .malformed
  pure (ds, rest)

/-- Reads a number and gives what follows it. -/
def lex (cs : List Char) : Except Fault (Numeral × List Char) := do
  let (negative, cs) :=
    match cs with
    | '-' :: rest => (true, rest)
    | _ => (false, cs)
  let (whole, cs) ← lexWhole cs
  let (fraction, cs) ← lexFraction cs
  let (exponent, cs) ← lexExponent cs
  pure (⟨negative, whole, fraction, exponent⟩, cs)

end Numeral

end GuideLayer
