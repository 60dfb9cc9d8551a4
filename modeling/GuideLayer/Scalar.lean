/-!
The numbers the layer computes with. Every rule about points, areas and
viewports is written once over `Scalar`, so that it runs on binary floating
point and can be read over the rationals. Turning needs `Trig` beside it.
-/

namespace GuideLayer

/-- Arithmetic, decidable order and decimal literals. No law is assumed. -/
class Scalar (α : Type) extends Add α, Sub α, Mul α, Div α, Neg α, Zero α, One α,
    LT α, LE α, BEq α, OfScientific α where
  abs : α → α
  decidableLT : DecidableLT α
  decidableLE : DecidableLE α

namespace Scalar

variable {α : Type} [Scalar α]

instance instDecidableLT : DecidableLT α := decidableLT

instance instDecidableLE : DecidableLE α := decidableLE

/-- The value itself where it is positive, zero elsewhere. -/
def positivePart (x : α) : α := if 0 < x then x else 0

/-- Holds a value between zero and one; a value that compares with nothing stays as it is. -/
def clampUnit (x : α) : α := if x < 0 then 0 else if 1 < x then 1 else x

end Scalar

/-- Cosine and sine of an angle. -/
class Trig (α : Type) where
  cos : α → α
  sin : α → α

instance : Scalar Float where
  abs := Float.abs
  decidableLT := inferInstance
  decidableLE := inferInstance

instance : Trig Float where
  cos := Float.cos
  sin := Float.sin

instance : Scalar Rat where
  zero := 0
  one := 1
  abs x := if x < 0 then -x else x
  decidableLT := inferInstance
  decidableLE := inferInstance

end GuideLayer
