import GuideLayer.Geometry.TurnedBox
import GuideLayer.Guide.Spot

/-!
Requests to the guides service, its answers, and the queue in which requests
wait to be answered.
-/

namespace GuideLayer

/-- A request for the guides of an area. Its generation tells it from all others. -/
structure Request (α : Type) where
  generation : Nat
  area : TurnedBox α
  zoom : Nat
  deriving DecidableEq, Repr

/-- Why the service did not answer. -/
structure FetchError where
  reason : String
  deriving DecidableEq, Repr

namespace FetchError

def message (e : FetchError) : String := "guides request failed: " ++ e.reason

end FetchError

/-- What came of a request. -/
structure Answer (α : Type) where
  generation : Nat
  result : Except FetchError (List (Spot α))

namespace Answer

variable {α : Type}

def success (r : Request α) (spots : List (Spot α)) : Answer α := ⟨r.generation, .ok spots⟩

def failure (r : Request α) (e : FetchError) : Answer α := ⟨r.generation, .error e⟩

end Answer

/-- Requests that are not answered yet, oldest first, and how many there ever were. -/
structure RequestQueue (α : Type) where
  pending : List (Request α) := []
  issued : Nat := 0
  deriving DecidableEq, Repr

namespace RequestQueue

variable {α : Type}

def send (r : Request α) (q : RequestQueue α) : RequestQueue α :=
  ⟨q.pending ++ [r], q.issued + 1⟩

/-- Takes the oldest request out. -/
def popOldest? (q : RequestQueue α) : Option (Request α × RequestQueue α) :=
  match q.pending with
  | [] => none
  | r :: rest => some (r, { q with pending := rest })

/-- Takes the newest request out. -/
def popNewest? (q : RequestQueue α) : Option (Request α × RequestQueue α) :=
  match q.pending.getLast? with
  | none => none
  | some r => some (r, { q with pending := q.pending.dropLast })

/-- Takes out the request at either end. -/
def pop? (newest : Bool) (q : RequestQueue α) : Option (Request α × RequestQueue α) :=
  if newest then q.popNewest? else q.popOldest?

end RequestQueue

end GuideLayer
