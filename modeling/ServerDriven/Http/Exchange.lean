/-
Module: ServerDriven.Http.Exchange
Purpose: Requests over HTTP, and what comes of them.
Main exports:
  HttpMethod, HttpRequest, HttpReply, TransportError, Transport, exchange, endpoint
-/
import ServerDriven.Url.Parser

namespace ServerDriven

inductive HttpMethod where
  | get
  | post
deriving Repr, DecidableEq, Inhabited

def HttpMethod.text : HttpMethod → String
  | .get => "GET"
  | .post => "POST"

/-- A request; its body, if it has one, is JSON. -/
structure HttpRequest where
  method : HttpMethod
  url : Url
  body : Option String
deriving Repr, DecidableEq, Inhabited

/-- What comes of sending a request. -/
inductive HttpReply where
  /-- An answer; it has no body if that broke off. -/
  | answer (status : Nat) (body : Option String)
  | unanswered
deriving Repr, DecidableEq, Inhabited

/-- Why a request has no answer that can be read. -/
inductive TransportError where
  /-- No request can be made of the text. -/
  | unusable (url : Option Url)
  | unanswered (url : Url)
  /-- The body of the answer broke off. -/
  | cutShort
deriving Repr, DecidableEq, Inhabited

namespace TransportError

def message : TransportError → String
  | .unusable none => "builder error"
  | .unusable (some url) => "builder error for url (" ++ url.text ++ ")"
  | .unanswered url => "error sending request for url (" ++ url.text ++ ")"
  | .cutShort => "error decoding response body"

end TransportError

/-- What sends requests. -/
abbrev Transport (m : Type → Type) := HttpRequest → m HttpReply

/-- A URL without the name and the password of a user, which are no part of what is asked for. -/
def Url.withoutCredentials (url : Url) : Url :=
  { url with authority := url.authority.map fun a => { a with username := "", password := "" } }

/-- The text of the URL of an endpoint: the base without slashes at its end, and the path. -/
def endpoint (base path : String) : String :=
  String.ofList (base.toList.reverse.dropWhile (· == '/')).reverse ++ path

/-- Whether requests can be sent to a URL: it speaks HTTP and names a host. -/
def Url.isServer (url : Url) : Bool :=
  (url.scheme == "http" || url.scheme == "https") && url.authority.isSome

section Exchange

variable {m : Type → Type} [Monad m]

/-- Send a request to a URL: the status of the answer, and its body unless that broke off. -/
def exchangeAt (transport : Transport m) (method : HttpMethod) (url : Url)
    (body : Option String) : m (Except TransportError (Nat × Option String)) := do
  let url := url.withoutCredentials
  if !url.isServer then return .error (.unusable (some url))
  match ← transport ⟨method, url, body⟩ with
  | .answer status body => return .ok (status, body)
  | .unanswered => return .error (.unanswered url)

/-- Send a request to the URL that a text is. -/
def exchange (transport : Transport m) (method : HttpMethod) (url : String)
    (body : Option String) : m (Except TransportError (Nat × Option String)) :=
  match Url.parse url with
  | .ok url => exchangeAt transport method url body
  | .error _ => return .error (.unusable none)

end Exchange

end ServerDriven
