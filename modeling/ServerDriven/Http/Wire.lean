/-
Module: ServerDriven.Http.Wire
Purpose: A request and its reply on a connection that carries nothing else.
Main exports:
  HttpRequest.wire, HttpReply.ofBytes
-/
import ServerDriven.Http.Exchange
import ServerDriven.Text.Blank

namespace ServerDriven

namespace HttpRequest

/-- What is asked for at the server: the path and the query. -/
def target (r : HttpRequest) : String :=
  r.url.path.text ++ match r.url.query with
    | some query => "?" ++ query
    | none => ""

/-- The header lines.  The server closes the connection after its reply. -/
def headers (r : HttpRequest) : List (String × String) :=
  [("Host", (r.url.withoutCredentials.authority.map Authority.text).getD ""),
    ("Accept", "*/*"), ("Connection", "close")] ++
    match r.body with
    | some body =>
      [("Content-Type", "application/json"), ("Content-Length", toString body.utf8ByteSize)]
    | none => []

/-- The text that is sent. -/
def wire (r : HttpRequest) : String :=
  r.method.text ++ " " ++ r.target ++ " HTTP/1.1\r\n" ++
    String.join (r.headers.map fun (name, value) => name ++ ": " ++ value ++ "\r\n") ++
    "\r\n" ++ r.body.getD ""

end HttpRequest

namespace Wire

/-- The first line, and what follows its break. -/
def line? : List UInt8 → Option (List UInt8 × List UInt8)
  | [] => none
  | 13 :: 10 :: rest => some ([], rest)
  | 10 :: rest => some ([], rest)
  | b :: rest => (line? rest).map fun (line, rest) => (b :: line, rest)

/-- A line as text, byte by byte. -/
def lineText (line : List UInt8) : String := String.ofList (line.map fun b => Char.ofNat b.toNat)

/-- A header line, its name in lower case. -/
def header (line : String) : String × String :=
  let (name, value) := line.toList.span (· != ':')
  (String.ofList (name.map Char.toLower), Text.trim (String.ofList (value.drop 1)))

/-- The lines up to the first empty one, and what follows; of at most so many lines. -/
def head? : Nat → List UInt8 → Option (List String × List UInt8)
  | 0, _ => none
  | fuel + 1, bytes => do
    let (line, rest) ← line? bytes
    if line.isEmpty then return ([], rest)
    let (lines, rest) ← head? fuel rest
    return (lineText line :: lines, rest)

/-- The status in the first line of a reply. -/
def status? (line : String) : Option Nat :=
  match line.splitOn " " with
  | _version :: status :: _ => Text.readNat 1000 status
  | _ => none

/-- The size before a chunk; extensions after a semicolon say nothing. -/
def chunkSize? (line : String) : Option Nat :=
  match (line.toList.takeWhile (· != ';')).filter (· != ' ') with
  | [] => none
  | digits => Host.digitsValue? 16 digits

/-- The chunks of a body, joined; nothing if the last of them is missing. -/
def chunks? : Nat → List UInt8 → Option (List UInt8)
  | 0, _ => none
  | fuel + 1, bytes => do
    let (line, rest) ← line? bytes
    let size ← chunkSize? (lineText line)
    if size = 0 then return []
    let chunk := rest.take size
    let (_, rest) ← line? (rest.drop size)
    return chunk ++ (← chunks? fuel rest)

/-- The body that follows the head of a reply; nothing if it broke off.  A body whose length is not
told ends with the connection. -/
def body? (headers : List (String × String)) (rest : List UInt8) : Option (List UInt8) :=
  if (headers.lookup "transfer-encoding").any (·.endsWith "chunked") then
    chunks? (rest.length + 1) rest
  else
    match headers.lookup "content-length" with
    | none => some rest
    | some length => do
      let length ← Text.readNat UInt64.size length
      if rest.length < length then none else some (rest.take length)

/-- The reply in all that a connection carried; of at most so many interim replies before it. -/
def reply? : Nat → List UInt8 → Option HttpReply
  | 0, _ => none
  | fuel + 1, bytes => do
    let (lines, rest) ← head? (bytes.length + 1) bytes
    let status ← lines.head?.bind status?
    if 100 ≤ status ∧ status < 200 then reply? fuel rest
    else if status = 204 ∨ status = 304 then return .answer status (some "")
    else
      let body := body? (lines.tail.map header) rest
      return .answer status (body.bind fun bytes => String.fromUTF8? ⟨bytes.toArray⟩)

end Wire

/-- What comes of a request, from the bytes that the connection carried until it was closed. -/
def HttpReply.ofBytes (bytes : List UInt8) : HttpReply :=
  (Wire.reply? (bytes.length + 1) bytes).getD .unanswered

end ServerDriven
