import GuideLayer.Url.Basic

/-!
Reading URLs. Fragment and query are cut off first, since nothing before them
can hold their marks; then scheme, authority and path are read in that order,
and the first that is wrong is the answer.
-/

namespace GuideLayer

namespace Url

variable [HostNames]

/-- The text without blanks and control characters around it. -/
def trim (text : String) : List Char :=
  let blank := fun c : Char => decide (c.toNat ≤ 32)
  let front := text.toList.dropWhile blank
  (front.reverse.dropWhile blank).reverse

/-- The text before a mark, and the text after it if it is there. -/
def cutAt (mark : Char) (cs : List Char) : List Char × Option (List Char) :=
  match Pieces.before (· == mark) cs with
  | (front, []) => (front, none)
  | (front, _ :: rest) => (front, some rest)

/-- The written form of a name and a password. Neither of them empty text makes nothing. -/
def readUserInfo (cs : List Char) : List Char :=
  let parts := cutAt ':' cs
  let user := Percent.encode Percent.inUserInfo parts.1
  let password := Percent.encode Percent.inUserInfo (parts.2.getD [])
  if user = [] ∧ password = [] then []
  else if password = [] then user ++ ['@']
  else user ++ ':' :: password ++ ['@']

/-- The host ends at a colon outside brackets. -/
def hostSpan : Bool → List Char → List Char × List Char
  | _, [] => ([], [])
  | inside, c :: cs =>
    if c = ':' ∧ inside = false then ([], c :: cs)
    else
      let next := hostSpan (if c = '[' then true else if c = ']' then false else inside) cs
      (c :: next.1, next.2)

/-- A port and what follows its digits. The usual port of the scheme is left out. -/
def readPort (scheme : String) (cs : List Char) : Except UrlFault (Option Nat × List Char) :=
  let digits := cs.takeWhile Char.isDigit
  let rest := cs.dropWhile Char.isDigit
  let port := (Ipv4.inBase? 10 digits).getD 0
  if 65535 < port then .error .portNumber
  else if rest ≠ [] ∧ rest.head? ≠ some '\\' then .error .portNumber
  else if digits = [] ∨ SchemeClass.defaultPort? scheme = some port then .ok (none, rest)
  else .ok (some port, rest)

/-- Reads an authority, and gives back what belongs to the path after all. `more` says whether
anything follows it. -/
def readAuthority (scheme : String) (cs : List Char) (more : Bool) :
    Except UrlFault (Authority × List Char) := do
  let k := SchemeClass.ofScheme scheme
  let parts := (Pieces.aroundLast? '@' cs).getD ([], cs)
  if (Pieces.aroundLast? '@' cs).isSome ∧ parts.1 = [] ∧ parts.2 = [] ∧ more then
    throw .emptyHost
  let userInfo := readUserInfo parts.1
  let span := hostSpan false parts.2
  if k.isSpecial ∧ span.1 = [] then throw .emptyHost
  let host ← Host.read k span.1
  if span.1 = [] ∧ (span.2 ≠ [] ∨ userInfo ≠ []) then throw .emptyHost
  let port ← match span.2 with
    | [] => pure (none, [])
    | _ :: digits => readPort scheme digits
  pure (⟨userInfo, if span.1 = [] then none else some host, port.1⟩, port.2)

/-- The pieces of a path text that may begin with a separator. -/
def rootPieces (k : SchemeClass) (cs : List Char) : List (List Char) :=
  Pieces.cut k.isSeparator
    (match cs with
    | [] => []
    | c :: rest => if k.isSeparator c then rest else cs)

/-- The segments of a path text that may begin with a separator. -/
def readPath (k : SchemeClass) (cs : List Char) : List String :=
  if cs = [] ∧ k.isSpecial = false then [] else Path.addAll k [] (rootPieces k cs)

/-- Scheme, authority and path of a URL with an authority. -/
def readHierarchy (scheme : String) (cs : List Char) (more : Bool) : Except UrlFault Url := do
  let k := SchemeClass.ofScheme scheme
  let parts := Pieces.before k.endsAuthority cs
  let (authority, rest) ← readAuthority scheme parts.1 (more || !parts.2.isEmpty)
  pure
    { scheme
      authority := some authority
      path := .segments (readPath k (rest ++ parts.2)) }

/-- A file path in its final form. -/
def fileUrl (host : Option Host) (segments : List String) : Url :=
  { scheme := "file"
    authority := some { host }
    path := .segments (Path.tidy .file segments) }

/-- A file path text as it stands, without leaving out a separator at its front. -/
def readWholeFilePath (cs : List Char) : List String :=
  Path.addAll .file [] (Pieces.cut SchemeClass.file.isSeparator cs)

/-- A file with a host. A drive letter at the front of the path takes the host away, and the
machine itself is no host. -/
def readHostedFile (host path : List Char) : Except UrlFault Url := do
  let host ← Host.read .file host
  if host = .name "localhost".toList then
    return fileUrl none (readWholeFilePath path)
  let pieces := rootPieces .file path
  return fileUrl (if Path.meetsDrive [] pieces then none else some host)
    (Path.addAll .file [] pieces)

/-- Files after two separators: a host may come first, and a drive letter is never one. -/
def readFileHost (cs : List Char) : Except UrlFault Url :=
  let parts := Pieces.before SchemeClass.file.isSeparator cs
  let host := Path.dropIgnored parts.1
  if host = [] ∨ Path.isDrive host then .ok (fileUrl none (readWholeFilePath cs))
  else readHostedFile host parts.2

/-- Files. Ignored characters are still in the text, since one of them after a drive letter
matters. -/
def readFile (cs : List Char) : Except UrlFault Url :=
  match cs.dropWhile Path.isIgnored with
  | [] => .ok (fileUrl none (readWholeFilePath []))
  | c :: cs =>
    if SchemeClass.file.isSeparator c then
      match cs.dropWhile Path.isIgnored with
      | [] => .ok (fileUrl none (readWholeFilePath []))
      | d :: rest =>
        if SchemeClass.file.isSeparator d then readFileHost rest
        else .ok (fileUrl none (readWholeFilePath (d :: rest)))
    else .ok (fileUrl none (readWholeFilePath (c :: cs)))

/-- Schemes outside the web: with an authority, with a path alone, or with plain text. -/
def readOther (scheme : String) (cs : List Char) (more : Bool) : Except UrlFault Url :=
  match cs with
  | '/' :: '/' :: rest => readHierarchy scheme rest more
  | '/' :: rest =>
    let segments := Path.addAll .other [] (Pieces.cut SchemeClass.other.isSeparator rest)
    .ok
      { scheme
        authority := none
        path := .segments segments
        guarded := segments.head? == some "" && decide (1 < segments.length) }
  | _ =>
    .ok
      { scheme
        authority := none
        path := .opaqueText (Percent.encode Percent.control cs) }

/-- Scheme, authority and path. -/
def readBody (body : List Char) (more : Bool) : Except UrlFault Url :=
  match Scheme.read? (Path.dropIgnored body) with
  | none => .error .noScheme
  | some (scheme, rest) =>
    match SchemeClass.ofScheme scheme with
    | .web => readHierarchy scheme (rest.dropWhile SchemeClass.web.isSeparator) more
    | .file => readFile ((cutAt ':' body).2.getD [])
    | .other => readOther scheme rest more

def read (text : String) : Except UrlFault Url := do
  let (front, fragment) := cutAt '#' (trim text)
  let (body, query) := cutAt '?' front
  let url ← readBody body (query.isSome || fragment.isSome)
  let inQuery := if url.schemeClass.isSpecial then Percent.inSpecialQuery else Percent.inQuery
  pure
    { url with
      query := query.map (Path.written inQuery)
      fragment := fragment.map (Path.written Percent.inFragment) }

end Url

end GuideLayer
