import GuideLayer.Marks.Board

/-!
A store that loses some of the marks it is asked to make. Which ones is
settled beforehand by their ordinal; all else is as on the board below, except
that notices are not passed on.
-/

namespace GuideLayer

structure LossyBoard (α : Type) where
  board : MarkBoard α := {}
  /-- The creations that leave no mark, counted from one. -/
  drops : Nat → Bool := fun _ => false
  /-- How many creations there have been. -/
  creations : Nat := 0

namespace LossyBoard

variable {α : Type}

/-- The id given out for a lost mark. No mark ever has it. -/
def lostId : MarkId := 0xffffffffffffffff

def createMark (kind : MarkKind) (pivot : Point α) (s : LossyBoard α) :
    MarkId × LossyBoard α :=
  let s := { s with creations := s.creations + 1 }
  if s.drops s.creations then (lostId, s)
  else
    let made := s.board.createMark kind pivot
    (made.1, { s with board := made.2 })

instance : MarkStore (LossyBoard α) α where
  clearGroup kind s := { s with board := s.board.clearGroup kind }
  createMark := createMark
  tagMark id tags s := { s with board := s.board.tagMark id tags }
  markIds kind s := s.board.markIds kind
  mark? id s := s.board.mark? id
  hasDownloaded guideId s := s.board.hasDownloaded guideId

end LossyBoard

end GuideLayer
