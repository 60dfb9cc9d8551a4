/-!
Cutting a text at separators. A text without a separator is one piece, and
every separator begins a new one, so there may be empty pieces.
-/

namespace GuideLayer

namespace Pieces

/-- The pieces between separators. -/
def cut (isSeparator : Char → Bool) : List Char → List (List Char)
  | [] => [[]]
  | c :: cs =>
    if isSeparator c then [] :: cut isSeparator cs
    else
      match cut isSeparator cs with
      | [] => [[c]]
      | p :: ps => (c :: p) :: ps

/-- Pieces put together again with one separator between each two. -/
def join (separator : Char) : List (List Char) → List Char
  | [] => []
  | [p] => p
  | p :: q :: ps => p ++ separator :: join separator (q :: ps)

theorem cut_ne_nil (isSeparator : Char → Bool) (cs : List Char) : cut isSeparator cs ≠ [] := by
  cases cs with
  | nil => simp [cut]
  | cons c cs =>
    rw [cut]
    split
    · simp
    · split <;> simp

/-- The text before the first character of a class, and the text from it on. -/
def before (stop : Char → Bool) (cs : List Char) : List Char × List Char :=
  (cs.takeWhile (fun c => !stop c), cs.dropWhile (fun c => !stop c))

/-- The texts on both sides of the last `mark`, if there is one. -/
def aroundLast? (mark : Char) (cs : List Char) : Option (List Char × List Char) :=
  match before (· == mark) cs.reverse with
  | (_, []) => none
  | (after, _ :: front) => some (front.reverse, after.reverse)

end Pieces

end GuideLayer
