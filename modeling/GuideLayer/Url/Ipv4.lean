import GuideLayer.Url.Percent
import GuideLayer.Url.Pieces

/-!
Internet addresses of four bytes, in the loose forms hosts come in: up to four
numbers, decimal, octal after `0` or hexadecimal after `0x`, of which the last
fills all the bytes that are left.
-/

namespace GuideLayer

/-- An address as one number below two to the thirty-second. -/
structure Ipv4 where
  value : Nat
  deriving DecidableEq, Repr

namespace Ipv4

/-- The number a run of digits stands for, if all of them are digits of the base. -/
def inBase? (base : Nat) (digits : List Char) : Option Nat :=
  digits.foldlM
    (fun n c =>
      match Percent.hexValue? c with
      | some d => if d < base then some (base * n + d) else none
      | none => none)
    0

/-- One number of an address. After `0x` there may be no digits at all. -/
def part? : List Char → Option Nat
  | [] => none
  | '0' :: 'x' :: digits => inBase? 16 digits
  | '0' :: 'X' :: digits => inBase? 16 digits
  | '0' :: d :: digits => inBase? 8 (d :: digits)
  | digits => inBase? 10 digits

/-- The parts between dots; a dot at the very end adds none. -/
def parts (host : List Char) : List (List Char) :=
  let ps := Pieces.cut (· == '.') host
  if ps.getLast? = some [] then ps.dropLast else ps

/-- A host whose last part is a number is read as an address and as nothing else. -/
def endsInNumber (host : List Char) : Bool :=
  match (parts host).getLast? with
  | none => false
  | some [] => false
  | some p => p.all Char.isDigit || (part? p).isSome

/-- All but the last part take one byte each; the last takes the rest. -/
def read? (host : List Char) : Option Ipv4 := do
  let numbers ← (parts host).mapM part?
  let last ← numbers.getLast?
  let heads := numbers.dropLast
  if heads.length ≤ 3 ∧ (∀ n ∈ heads, n ≤ 255) ∧ last < Nat.pow 256 (4 - heads.length) then
    some ⟨heads.foldr (fun n sum => n * 0x1000000 + sum / 256) 0 + last⟩
  else none

def render (a : Ipv4) : List Char :=
  Pieces.join '.'
    ([a.value / 0x1000000, a.value / 0x10000 % 256, a.value / 256 % 256, a.value % 256].map
      (Nat.toDigits 10))

end Ipv4

end GuideLayer
