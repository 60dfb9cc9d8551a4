import GuideLayer.Url.Form
import GuideLayer.Url.Host
import GuideLayer.Url.Path

/-!
URLs in their parts, and the text they make. All parts are kept in their
written form, so putting them together adds nothing but delimiters.
-/

namespace GuideLayer

/-- Who and where: what stands between the two slashes and the path. -/
structure Authority where
  /-- The name and password with the sign after them, or nothing. -/
  userInfo : List Char := []
  host : Option Host := none
  port : Option Nat := none
  deriving DecidableEq, Repr

namespace Authority

def render (a : Authority) : List Char :=
  a.userInfo ++ (a.host.map Host.render).getD [] ++
    match a.port with
    | some p => ':' :: Nat.toDigits 10 p
    | none => []

end Authority

inductive UrlPath where
  /-- A text without structure, such as an address to mail to. -/
  | opaqueText (text : List Char)
  | segments (list : List String)
  deriving DecidableEq, Repr

structure Url where
  scheme : String
  authority : Option Authority
  path : UrlPath
  /-- Without an authority a path that begins with an empty segment is kept apart by `/.`. -/
  guarded : Bool := false
  query : Option String := none
  fragment : Option String := none
  deriving DecidableEq, Repr

namespace Url

def schemeClass (u : Url) : SchemeClass := SchemeClass.ofScheme u.scheme

def renderAuthority (u : Url) : List Char :=
  match u.authority with
  | some a => '/' :: '/' :: a.render
  | none => []

def renderPath (u : Url) : List Char :=
  match u.path with
  | .opaqueText text => text
  | .segments list => (if u.guarded then ['/', '.'] else []) ++ Path.render list

def renderQuery (u : Url) : List Char :=
  match u.query with
  | some q => '?' :: q.toList
  | none => []

def renderFragment (u : Url) : List Char :=
  match u.fragment with
  | some f => '#' :: f.toList
  | none => []

def render (u : Url) : String :=
  String.ofList
    (u.scheme.toList ++ ':' :: u.renderAuthority ++ u.renderPath ++ u.renderQuery ++
      u.renderFragment)

/-- The segments of the path, if it has any structure. -/
def segments? (u : Url) : Option (List String) :=
  match u.path with
  | .opaqueText _ => none
  | .segments list => some list

/-- Adds a pair to the query. -/
def addPair (name value : String) (u : Url) : Url :=
  { u with query := some (Form.append u.query name value) }

end Url

end GuideLayer
