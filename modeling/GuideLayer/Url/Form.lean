import GuideLayer.Url.Percent

/-!
Pairs of names and values in a query, as forms send them: `&` between pairs,
`=` inside one, `+` for the space, and a percent code for all but letters,
digits and four marks.
-/

namespace GuideLayer

namespace Form

/-- Letters, digits and the four marks that are written as they are. -/
def plain (c : Char) : Bool :=
  c.isAlphanum || ['*', '-', '.', '_'].contains c

def encodeChar (c : Char) : List Char :=
  if plain c then [c] else if c = ' ' then ['+'] else Percent.encodeChar c

def encode (cs : List Char) : List Char := cs.flatMap encodeChar

def pair (name value : String) : List Char :=
  encode name.toList ++ '=' :: encode value.toList

/-- A query with one more pair. There may have been no query before, or an empty one. -/
def append (query : Option String) (name value : String) : String :=
  match query with
  | none | some "" => String.ofList (pair name value)
  | some q => String.ofList (q.toList ++ '&' :: pair name value)

end Form

end GuideLayer
