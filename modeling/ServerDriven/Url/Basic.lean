/-
Module: ServerDriven.Url.Basic
Purpose: URLs in their parts, and their text.
Main exports:
  Url, UrlPath, Authority, SchemeKind, Url.text, Url.push?
-/
import ServerDriven.Url.Host

namespace ServerDriven

/-- Who is asked: a host, with a port unless it is the scheme's own, and with credentials. -/
structure Authority where
  username : String := ""
  password : String := ""
  host : Host
  port : Option Nat := none
deriving Repr, DecidableEq, Inhabited

/-- What is asked for. -/
inductive UrlPath where
  /-- Each segment stands after a slash. -/
  | segments (parts : List String)
  /-- A path without a leading slash has no segments. -/
  | rootless (text : String)
deriving Repr, DecidableEq, Inhabited

structure Url where
  scheme : String
  authority : Option Authority
  path : UrlPath
  query : Option String
  fragment : Option String
  /-- Whether `/.` stands before the path, which then may begin with two slashes. -/
  isSetOff : Bool := false
deriving Repr, DecidableEq, Inhabited

/-- What a scheme says about the form of its URLs. -/
inductive SchemeKind where
  /-- A scheme of the web, with the port that it uses by itself. -/
  | web (port : Nat)
  | file
  | other
deriving Repr, DecidableEq, Inhabited

namespace SchemeKind

def ofScheme : String → SchemeKind
  | "http" | "ws" => .web 80
  | "https" | "wss" => .web 443
  | "ftp" => .web 21
  | "file" => .file
  | _ => .other

/-- In special URLs a backslash is as good as a slash. -/
def isSpecial (kind : SchemeKind) : Bool := kind != .other

def isSeparator (kind : SchemeKind) (c : Char) : Bool :=
  c == '/' || (kind.isSpecial && c == '\\')

end SchemeKind

namespace Authority

/-- The credentials and the sign after them. -/
def credentials (a : Authority) : String :=
  if a.username = "" ∧ a.password = "" then ""
  else a.username ++ (if a.password = "" then "" else ":" ++ a.password) ++ "@"

def text (a : Authority) : String :=
  a.credentials ++ a.host.text ++ match a.port with
    | some port => ":" ++ toString port
    | none => ""

end Authority

namespace UrlPath

def text : UrlPath → String
  | .segments parts => String.join (parts.map ("/" ++ ·))
  | .rootless text => text

/-- Characters that count for nothing in a URL. -/
def isIgnored (c : Char) : Bool := c == '\t' || c == '\n' || c == '\r'

/-- The letter of a drive, then a colon or what stands for one. -/
def isDrive : List Char → Bool
  | [letter, mark] => letter.isAlpha && (mark == ':' || mark == '|')
  | _ => false

/-- A drive, alone or before a backslash. -/
def startsWithDrive : List Char → Bool
  | letter :: mark :: rest => isDrive [letter, mark] && rest.head?.all (· == '\\')
  | _ => false

/-- The letter of a drive and what follows its colon in the same segment, if only ignored characters
part the two. -/
def driveBefore? (raw : List Char) : Option (Char × List Char) :=
  match raw.dropWhile isIgnored with
  | letter :: more =>
    match more.dropWhile isIgnored with
    | ':' :: gap :: more =>
      let rest := more.filter (!isIgnored ·)
      if letter.isAlpha ∧ isIgnored gap ∧ rest ≠ [] then some (letter, rest) else none
    | _ => none
  | [] => none

/-- One level up.  A drive is not left. -/
def shorten (parts : List String) : List String :=
  if parts.getLast?.any (startsWithDrive ·.toList) then parts else parts.dropLast

/-- The spellings of "one level up". -/
def isDoubleDot (segment : String) : Bool :=
  ["..", "%2e%2e", "%2e%2E", "%2E%2e", "%2E%2E", "%2e.", "%2E.", ".%2e", ".%2E"].contains segment

/-- The spellings of "here". -/
def isSingleDot (segment : String) : Bool := [".", "%2e", "%2E"].contains segment

/-- Whether a first segment of a file path is a drive. -/
def entersDrive (kind : SchemeKind) (parts : List String) (raw : List Char) : Bool :=
  kind == .file && parts.isEmpty && isDrive (raw.filter (!isIgnored ·))

/-- Go on from a path by one raw segment; `more` says that a slash follows it.  A drive at the
beginning of a file path is written with a colon, and is a segment of its own also where only
ignored characters part it from the rest of its segment. -/
def add (kind : SchemeKind) (set : Char → Bool) (parts : List String) (raw : List Char)
    (more : Bool) : List String :=
  let encode := fun cs => String.ofList (Percent.encodeChars set cs)
  let cs := raw.filter (!isIgnored ·)
  match if kind = .file ∧ parts = [] then driveBefore? raw else none with
  | some (letter, rest) => [String.ofList [letter, ':'], encode rest]
  | none =>
    if isDoubleDot (encode cs) then shorten parts ++ (if more then [] else [""])
    else if isSingleDot (encode cs) then parts ++ (if more then [] else [""])
    else if entersDrive kind parts raw then [String.ofList (cs.take 1 ++ [':'])]
    else parts ++ [encode cs]

/-- A file path does not begin with empty segments. -/
def dropEmpty (kind : SchemeKind) : List String → List String
  | "" :: next :: rest => if kind = .file then dropEmpty kind (next :: rest) else "" :: next :: rest
  | parts => parts

/-- Follow the raw segments of a path. -/
def addAll (kind : SchemeKind) (set : Char → Bool) (parts : List String) :
    List (List Char) → List String
  | [] => parts
  | [last] => add kind set parts last false
  | segment :: rest => addAll kind set (add kind set parts segment true) rest

/-- Whether one comes to a drive while following the raw segments of a path. -/
def meetsDrive (kind : SchemeKind) (set : Char → Bool) (parts : List String) :
    List (List Char) → Bool
  | [] => false
  | segment :: rest =>
    entersDrive kind parts segment || meetsDrive kind set (add kind set parts segment true) rest

/-- The path along the given raw segments. -/
def ofSegments (kind : SchemeKind) (raw : List (List Char)) : List String :=
  dropEmpty kind (addAll kind Percent.inPath [] raw)

end UrlPath

namespace Url

def kind (url : Url) : SchemeKind := .ofScheme url.scheme

def text (url : Url) : String :=
  url.scheme ++ ":" ++ (match url.authority with
    | some a => "//" ++ a.text
    | none => "") ++ (if url.isSetOff then "/." else "") ++ url.path.text ++
    (match url.query with
    | some query => "?" ++ query
    | none => "") ++ match url.fragment with
    | some fragment => "#" ++ fragment
    | none => ""

/-- A path without an empty last segment. -/
def dropEmptyLast (parts : List String) : List String :=
  match parts with
  | _ :: _ :: _ => if parts.getLast? = some "" then parts.dropLast else parts
  | _ => parts

/-- The characters that are encoded in a segment of its own. -/
def segmentSet (kind : SchemeKind) : Char → Bool :=
  if kind.isSpecial then Percent.inSpecialSegment else Percent.inSegment

/-- A path with one more segment.  The texts for "here" and "one level up" add nothing; a path that
is a single slash has no segment yet. -/
def pushSegment (kind : SchemeKind) (parts : List String) (segment : String) : List String :=
  if segment = "." ∨ segment = ".." then parts
  else
    let start := if parts = [""] then [] else parts
    UrlPath.dropEmpty kind (UrlPath.add kind (segmentSet kind) start segment.toList false)

/-- The URL with more segments in the place of an empty last one, if its path has segments. -/
def push? (url : Url) (segments : List String) : Option Url :=
  match url.path with
  | .segments parts =>
    let path := segments.foldl (pushSegment url.kind) (dropEmptyLast parts)
    some { url with path := .segments path }
  | .rootless _ => none

end Url

end ServerDriven
