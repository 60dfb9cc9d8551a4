/-!
Schemes, and what differs between them: the hierarchical ones of the web
always have a host and take the backslash for a slash, files have drive
letters, and all others are left alone.
-/

namespace GuideLayer

/-- How the part of a URL after the scheme is read. -/
inductive SchemeClass where
  | web
  | file
  | other
  deriving DecidableEq, Repr

namespace SchemeClass

/-- The schemes of the web and the port each has unless another is given. -/
def webPorts : List (String × Nat) :=
  [("http", 80), ("https", 443), ("ws", 80), ("wss", 443), ("ftp", 21)]

def defaultPort? (scheme : String) : Option Nat := webPorts.lookup scheme

def ofScheme (scheme : String) : SchemeClass :=
  if scheme = "file" then file
  else if (defaultPort? scheme).isSome then web
  else other

/-- Web schemes and files share the rules for backslashes and query marks. -/
def isSpecial : SchemeClass → Bool
  | web | file => true
  | other => false

/-- The characters that separate segments of a path. -/
def isSeparator (k : SchemeClass) (c : Char) : Bool :=
  c == '/' || (k.isSpecial && c == '\\')

/-- The characters that end the authority. -/
def endsAuthority (k : SchemeClass) (c : Char) : Bool :=
  k.isSeparator c || c == '?' || c == '#'

end SchemeClass

namespace Scheme

def isSchemeChar (c : Char) : Bool := c.isAlphanum || ['+', '-', '.'].contains c

/-- Reads a scheme and its colon. The scheme is lower case, and the rest follows. -/
def read? (cs : List Char) : Option (String × List Char) :=
  match cs with
  | [] => none
  | c :: _ =>
    match cs.span isSchemeChar with
    | (name, ':' :: rest) =>
      if c.isAlpha then some (String.ofList (name.map Char.toLower), rest) else none
    | _ => none

end Scheme

end GuideLayer
