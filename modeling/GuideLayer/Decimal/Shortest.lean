/-!
The fewest decimal digits that read back as the same floating point number.
A number `m * 2 ^ e` is what every real in an interval around it rounds to;
the coarsest decimal grid with a point in that interval gives the digits.
-/

namespace GuideLayer

/-- The parts of a finite, positive floating point number, counted in quarters of its last
place so that both ends of its interval are whole: the number is `4 * mantissa * 2 ^ exponent`. -/
structure BinaryParts where
  mantissa : Nat
  exponent : Int
  /-- The gap to the number below is half the gap to the number above. -/
  narrowBelow : Bool
  deriving DecidableEq, Repr

namespace BinaryParts

/-- The parts behind the bits of a number, its sign aside. -/
def ofBits (bits : UInt64) : BinaryParts :=
  let fraction : Nat := bits.toNat % 0x10000000000000
  let biased : Nat := bits.toNat / 0x10000000000000 % 0x800
  if biased = 0 then ⟨fraction, -1076, false⟩
  else ⟨0x10000000000000 + fraction, (biased : Int) - 1077, decide (fraction = 0 ∧ 1 < biased)⟩

/-- How far the interval reaches down, in quarters of the last place. -/
def reachBelow (p : BinaryParts) : Nat := if p.narrowBelow then 1 else 2

end BinaryParts

/-- The decimal `digits * 10 ^ exponent`. -/
structure DecimalParts where
  digits : Nat
  exponent : Int
  deriving DecidableEq, Repr

/-- Which of two decimals at the same distance is taken. -/
inductive TieRule where
  | even
  | up
  deriving DecidableEq, Repr

namespace DecimalParts

/-- What a step of the grid `10 ^ k` and a quarter of the last place come to in a common unit. -/
def units (p : BinaryParts) (k : Int) : Nat × Nat :=
  (Nat.pow 10 k.toNat * Nat.pow 2 (-p.exponent).toNat,
    Nat.pow 2 p.exponent.toNat * Nat.pow 10 (-k).toNat)

/-- A decimal of the grid that rounds to the number. The ends belong to even mantissas. -/
def readsBack (p : BinaryParts) (k : Int) (c : Nat) : Bool :=
  let (step, quarter) := units p k
  let low := (4 * p.mantissa - p.reachBelow) * quarter
  let high := (4 * p.mantissa + 2) * quarter
  if p.mantissa % 2 = 0 then decide (low ≤ c * step ∧ c * step ≤ high)
  else decide (low < c * step ∧ c * step < high)

/-- The nearest decimal of the grid that reads back, if there is one. -/
def onGrid? (tie : TieRule) (p : BinaryParts) (k : Int) : Option Nat :=
  let (step, quarter) := units p k
  let value := 4 * p.mantissa * quarter
  let below := value / step
  match readsBack p k below, readsBack p k (below + 1) with
  | false, false => none
  | true, false => some below
  | false, true => some (below + 1)
  | true, true =>
    let down := value - below * step
    let up := (below + 1) * step - value
    if down < up then some below
    else if up < down then some (below + 1)
    else if tie = .even ∧ below % 2 = 0 then some below
    else some (below + 1)

/-- Tries grids from `10 ^ k` on, each ten times as fine as the one before. -/
def search (tie : TieRule) (p : BinaryParts) : Nat → Int → DecimalParts
  | 0, k => ⟨0, k⟩
  | n + 1, k =>
    match onGrid? tie p k with
    | some c => ⟨c, k⟩
    | none => search tie p n (k - 1)

/-- A grid too coarse for the number, though not by much. -/
def coarseGrid (p : BinaryParts) : Int :=
  ((Nat.log2 (4 * p.mantissa) : Int) + p.exponent) * 30103 / 100000 + 2

/-- The fewest digits that read back as the number with these bits, which is neither zero nor
infinite. Seventeen digits are always enough. -/
def shortest (tie : TieRule) (bits : UInt64) : DecimalParts :=
  let p := BinaryParts.ofBits bits
  search tie p 24 (coarseGrid p)

end DecimalParts

end GuideLayer
