import GuideLayer.Decimal.Shortest

/-!
Decimal notation of floating point numbers: which digits to take, when to
write an exponent, and whether whole numbers keep a point.
-/

namespace GuideLayer

structure DecimalNotation where
  tie : TieRule
  /-- The exponents of the first digit that are written out; all of them if there is no range. -/
  positional : Option (Int × Int)
  /-- Whole numbers end in `.0`. -/
  keepPoint : Bool
  deriving DecidableEq, Repr

namespace DecimalNotation

/-- Numbers in JSON texts. -/
def json : DecimalNotation := ⟨.even, some (-5, 15), true⟩

/-- Numbers in messages. -/
def plain : DecimalNotation := ⟨.up, none, false⟩

/-- All digits at their places, with zeros where there are none. -/
def writeOut (keepPoint : Bool) (d : DecimalParts) : List Char :=
  let digits := Nat.toDigits 10 d.digits
  let whole := (digits.length : Int) + d.exponent
  if 0 ≤ d.exponent then
    digits ++ List.replicate d.exponent.toNat '0' ++ (if keepPoint then ['.', '0'] else [])
  else if 0 < whole then
    digits.take whole.toNat ++ '.' :: digits.drop whole.toNat
  else '0' :: '.' :: List.replicate (-whole).toNat '0' ++ digits

/-- One digit before the point, and the exponent with its sign. -/
def writeScientific (d : DecimalParts) : List Char :=
  let digits := Nat.toDigits 10 d.digits
  let exponent := (digits.length : Int) - 1 + d.exponent
  let front :=
    match digits with
    | c :: e :: rest => c :: '.' :: e :: rest
    | ds => ds
  front ++ 'e' :: (if exponent < 0 then '-' else '+') :: Nat.toDigits 10 exponent.natAbs

def writeParts (n : DecimalNotation) (d : DecimalParts) : List Char :=
  let exponent := ((Nat.toDigits 10 d.digits).length : Int) - 1 + d.exponent
  match n.positional with
  | none => writeOut n.keepPoint d
  | some (low, high) =>
    if low ≤ exponent ∧ exponent ≤ high then writeOut n.keepPoint d else writeScientific d

/-- A finite number with its sign, zero included. -/
def render (n : DecimalNotation) (x : Float) : String :=
  let bits := x.toBits
  let sign := if bits.toNat < 0x8000000000000000 then [] else ['-']
  let parts := if bits.toNat % 0x8000000000000000 = 0 then ⟨0, 0⟩ else DecimalParts.shortest n.tie bits
  String.ofList (sign ++ n.writeParts parts)

end DecimalNotation

end GuideLayer
