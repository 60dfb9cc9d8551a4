import GuideLayer.Scalar

/-!
Points and directions of the plane, in map units or in screen pixels.
-/

namespace GuideLayer

structure Point (α : Type) where
  x : α
  y : α
  deriving BEq, DecidableEq, Repr

namespace Point

variable {α : Type} [Scalar α]

instance : Zero (Point α) := ⟨⟨0, 0⟩⟩

instance : Inhabited (Point α) := ⟨0⟩

instance : Add (Point α) := ⟨fun p q => ⟨p.x + q.x, p.y + q.y⟩⟩

instance : Sub (Point α) := ⟨fun p q => ⟨p.x - q.x, p.y - q.y⟩⟩

/-- Stretches both coordinates by the same factor. -/
instance : HMul (Point α) α (Point α) := ⟨fun p k => ⟨p.x * k, p.y * k⟩⟩

@[simp] theorem x_add (p q : Point α) : (p + q).x = p.x + q.x := rfl

@[simp] theorem y_add (p q : Point α) : (p + q).y = p.y + q.y := rfl

@[simp] theorem x_sub (p q : Point α) : (p - q).x = p.x - q.x := rfl

@[simp] theorem y_sub (p q : Point α) : (p - q).y = p.y - q.y := rfl

@[simp] theorem x_mul (p : Point α) (k : α) : (p * k).x = p.x * k := rfl

@[simp] theorem y_mul (p : Point α) (k : α) : (p * k).y = p.y * k := rfl

def dot (p q : Point α) : α := p.x * q.x + p.y * q.y

/-- Positive when `q` points to the left of `p`. -/
def cross (p q : Point α) : α := p.x * q.y - p.y * q.x

/-- Turns a direction counter-clockwise. -/
def turned [Trig α] (angle : α) (p : Point α) : Point α :=
  let c := Trig.cos angle
  let s := Trig.sin angle
  ⟨p.x * c - p.y * s, p.x * s + p.y * c⟩

def length (p : Point Float) : Float := (p.dot p).sqrt

end Point

end GuideLayer
