import GuideLayer.Url.Ipv4

/-!
Internet addresses of eight groups. One run of zero groups may be left out as
`::`, and the last two groups may be written as four decimal bytes. The
written form leaves out the longest run of at least two zero groups.
-/

namespace GuideLayer

/-- An address as its groups, first to last, each below two to the sixteenth. -/
structure Ipv6 where
  groups : List Nat
  deriving DecidableEq, Repr

namespace Ipv6

/-- A decimal byte without leading zeros. -/
def byte? (digits : List Char) : Option Nat :=
  match digits with
  | [] => none
  | '0' :: _ :: _ => none
  | _ =>
    match Ipv4.inBase? 10 digits with
    | some n => if n ≤ 255 then some n else none
    | none => none

/-- Four decimal bytes as two groups. -/
def dotted? (cs : List Char) : Option (List Nat) :=
  match (Pieces.cut (· == '.') cs).mapM byte? with
  | some [a, b, c, d] => some [a * 256 + b, c * 256 + d]
  | _ => none

/-- Puts zeros into the gap so that there are eight groups. -/
def fill? (groups : List Nat) (gap : Option Nat) : Option Ipv6 :=
  match gap with
  | none => if groups.length = 8 then some ⟨groups⟩ else none
  | some g =>
    some ⟨groups.take g ++ List.replicate (8 - groups.length) 0 ++ groups.drop g⟩

/-- Reads on after `groups`, with room for so many more. `gap` is where zeros were left out. -/
def readFrom (room : Nat) (groups : List Nat) (gap : Option Nat) (cs : List Char) :
    Option Ipv6 :=
  match room, cs with
  | _, [] => fill? groups gap
  | 0, _ => none
  | room + 1, ':' :: rest =>
    if gap.isSome then none
    else readFrom room (groups ++ [0]) (some (groups.length + 1)) rest
  | room + 1, cs =>
    let digits := (cs.take 4).takeWhile (fun c => (Percent.hexValue? c).isSome)
    match Ipv4.inBase? 16 digits, cs.drop digits.length with
    | none, _ => none
    | some v, [] => fill? (groups ++ [v]) gap
    | some _, '.' :: _ =>
      if room = 0 then none
      else
        match dotted? cs with
        | some tail => fill? (groups ++ tail) gap
        | none => none
    | some v, ':' :: rest =>
      if rest.isEmpty then none else readFrom room (groups ++ [v]) gap rest
    | some _, _ => none

/-- Reads what stands between the brackets. -/
def read? (cs : List Char) : Option Ipv6 :=
  match cs with
  | ':' :: ':' :: rest => readFrom 7 [0] (some 1) rest
  | ':' :: _ => none
  | [] | [_] => none
  | _ => readFrom 8 [] none cs

/-- How many groups from position `i` on are zero. -/
def zerosAt (groups : List Nat) (i : Nat) : Nat :=
  ((groups.drop i).takeWhile (· == 0)).length

/-- Where the longest run of zero groups begins, the first of equal ones, and its length. -/
def longestRun (groups : List Nat) : Nat × Nat :=
  (List.range groups.length).foldl
    (fun best i => if best.2 < zerosAt groups i then (i, zerosAt groups i) else best) (0, 0)

def renderGroups (groups : List Nat) : List Char :=
  Pieces.join ':' (groups.map (Nat.toDigits 16))

def render (a : Ipv6) : List Char :=
  let run := longestRun a.groups
  if run.2 < 2 then renderGroups a.groups
  else
    renderGroups (a.groups.take run.1) ++ ':' :: ':' ::
      renderGroups (a.groups.drop (run.1 + run.2))

end Ipv6

end GuideLayer
