/-
Module: ServerDriven.Url.Parser
Purpose: Reading URLs.
Main exports:
  Url.parse
-/
import ServerDriven.Url.Basic

namespace ServerDriven.Url

/-- What stands before the first character of a kind, and what after it. -/
def splitAtFirst (c : Char) (cs : List Char) : List Char × Option (List Char) :=
  match cs.span (· != c) with
  | (before, _ :: after) => (before, some after)
  | (before, []) => (before, none)

/-- What stands before the last character of a kind, and what after it. -/
def splitAtLast (c : Char) (cs : List Char) : Option (List Char) × List Char :=
  match splitAtFirst c cs.reverse with
  | (after, some before) => (some before.reverse, after.reverse)
  | (_, none) => (none, cs)

/-- The parts between separators. -/
def splitSegments (kind : SchemeKind) (cs : List Char) : List (List Char) :=
  cs.splitOnP kind.isSeparator

/-- A scheme in lower case and what follows its colon. -/
def scheme? (cs : List Char) : Option (String × List Char) :=
  match splitAtFirst ':' cs with
  | (before, some after) =>
    match before.filter (!UrlPath.isIgnored ·) with
    | first :: rest =>
      if first.isAlpha && rest.all (fun c => c.isAlphanum || ['+', '-', '.'].contains c) then
        some (String.ofList ((first :: rest).map Char.toLower), after)
      else none
    | [] => none
  | _ => none

/-- What stands before the first colon outside brackets, and what follows from it on. -/
def splitHost : Bool → List Char → List Char × List Char
  | _, [] => ([], [])
  | inside, c :: rest =>
    if c = ':' ∧ !inside then ([], c :: rest)
    else
      let (host, after) := splitHost (c = '[' || (inside && c ≠ ']')) rest
      (c :: host, after)

/-- A port: digits, at most 65535.  The scheme's own port, and no digits, count as none. -/
def readPort (kind : SchemeKind) (digits : List Char) : Except UrlError (Option Nat) :=
  match Host.digitsValue? 10 digits with
  | some value =>
    if 65535 < value then .error .invalidPort
    else if digits = [] ∨ kind = .web value then .ok none
    else .ok (some value)
  | none => .error .invalidPort

/-- A host and a port, and what follows them.  A backslash ends the port in every scheme. -/
def readHostAndPort (kind : SchemeKind) (cs : List Char) :
    Except UrlError ((Host × Option Nat) × List Char) := do
  let (host, after) := splitHost false cs
  if host.isEmpty ∧ (kind.isSpecial ∨ !after.isEmpty) then throw .emptyHost
  let host ← if kind.isSpecial then Host.ofChars host else Host.ofOpaqueChars host
  match after with
  | [] => return ((host, none), [])
  | _ :: after =>
    let (digits, rest) := after.span (· != '\\')
    return ((host, ← readPort kind digits), rest)

/-- A user's name and password. -/
def readCredentials (cs : List Char) : String × String :=
  let (name, password?) := splitAtFirst ':' cs
  let encode := fun part => String.ofList (Percent.encodeChars Percent.inUserinfo part)
  (encode name, encode (password?.getD []))

/-- The authority in front of a path, and the path; `more` says that something follows the path. -/
def readAuthority (kind : SchemeKind) (cs : List Char) (more : Bool) :
    Except UrlError (Authority × List Char) := do
  let (place, path) := cs.span (!kind.isSeparator ·)
  match splitAtLast '@' place with
  | (none, place) =>
    let ((host, port), rest) ← readHostAndPort kind place
    return ({ host, port }, rest ++ path)
  | (some user, place) =>
    if user.isEmpty ∧ place.isEmpty ∧ (more ∨ !path.isEmpty) then throw .emptyHost
    let (username, password) := readCredentials user
    let ((host, port), rest) ← readHostAndPort kind place
    if host = .domain "" ∧ (username ≠ "" ∨ password ≠ "") then throw .emptyHost
    return ({ username, password, host, port }, rest ++ path)

/-- The path after an authority.  On the web, and for files, it has at least one segment. -/
def pathAfter (kind : SchemeKind) (cs : List Char) : UrlPath :=
  match cs with
  | [] => .segments (if kind.isSpecial then [""] else [])
  | c :: rest =>
    let raw := if kind.isSeparator c then rest else cs
    .segments (UrlPath.ofSegments kind (splitSegments kind raw))

/-- The host of a file; the machine itself has no name. -/
def readFileHost (cs : List Char) : Except UrlError Host := do
  if cs.isEmpty then return .domain ""
  let host ← Host.ofChars cs
  return if host = .domain "localhost" then .domain "" else host

/-- What follows a separator, if one comes before anything that counts. -/
def afterSeparator? (cs : List Char) : Option (List Char) :=
  match cs.dropWhile UrlPath.isIgnored with
  | c :: rest => if SchemeKind.isSeparator .file c then some rest else none
  | [] => none

/-- A URL of a file, from what follows the scheme.  A drive where a host could be begins the path,
and a path that begins with a drive has no host.  Without a host, all that follows two slashes is
the path, so that a third one stands for an empty segment. -/
def readFile (cs : List Char) : Except UrlError (Authority × UrlPath) := do
  let path := fun raw => UrlPath.segments (UrlPath.ofSegments .file (splitSegments .file raw))
  match afterSeparator? cs with
  | none => return ({ host := .domain "" }, path cs)
  | some cs =>
    match afterSeparator? cs with
    | none => return ({ host := .domain "" }, path cs)
    | some cs =>
      let (host, after) := cs.span (!SchemeKind.isSeparator .file ·)
      let host := host.filter (!UrlPath.isIgnored ·)
      if UrlPath.isDrive host then return ({ host := .domain "" }, path cs)
      match ← readFileHost host with
      | .domain "" => return ({ host := .domain "" }, path after)
      | host =>
        let segments := splitSegments .file (after.drop 1)
        let hasDrive := UrlPath.meetsDrive .file Percent.inPath [] segments
        return ({ host := if hasDrive then .domain "" else host }, path (after.drop 1))

/-- What follows the scheme, up to the query. -/
def readHierarchy (kind : SchemeKind) (raw : List Char) (more : Bool) :
    Except UrlError (Option Authority × UrlPath) := do
  let cs := raw.filter (!UrlPath.isIgnored ·)
  match kind with
  | .web _ =>
    let (a, path) ← readAuthority kind (cs.dropWhile kind.isSeparator) more
    return (some a, pathAfter kind path)
  | .file =>
    let (a, path) ← readFile raw
    return (some a, path)
  | .other =>
    match cs with
    | '/' :: '/' :: rest =>
      let (a, path) ← readAuthority kind rest more
      return (some a, pathAfter kind path)
    | '/' :: rest => return (none, pathAfter kind ('/' :: rest))
    | _ => return (none, .rootless (String.ofList (Percent.encodeChars Percent.inRootless cs)))

/-- The query set of a kind of scheme. -/
def querySet (kind : SchemeKind) : Char → Bool :=
  if kind.isSpecial then Percent.inSpecialQuery else Percent.inQuery

/-- Whether a path would be read as an authority if nothing stood before it. -/
def beginsWithSlashes : UrlPath → Bool
  | .segments ("" :: _ :: _) => true
  | _ => false

/-- Read a URL that stands for itself.  Controls and blanks at its ends, and tabs and line ends
anywhere, count for nothing. -/
def parse (text : String) : Except UrlError Url := do
  let isEdge := fun (c : Char) => c.toNat ≤ 0x20
  let trimmed := ((text.toList.dropWhile isEdge).reverse.dropWhile isEdge).reverse
  match scheme? trimmed with
  | none => throw .noScheme
  | some (scheme, rest) =>
    let kind := SchemeKind.ofScheme scheme
    let (rest, fragment?) := splitAtFirst '#' rest
    let (rest, query?) := splitAtFirst '?' rest
    let (authority, path) ← readHierarchy kind rest (query?.isSome || fragment?.isSome)
    let encode := fun set (part : List Char) =>
      String.ofList (Percent.encodeChars set (part.filter (!UrlPath.isIgnored ·)))
    return {
      scheme, authority, path
      query := query?.map (encode (querySet kind))
      fragment := fragment?.map (encode Percent.inFragment)
      isSetOff := authority.isNone && beginsWithSlashes path }

end ServerDriven.Url
