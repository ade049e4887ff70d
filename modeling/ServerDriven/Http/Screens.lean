/-
Module: ServerDriven.Http.Screens
Purpose: Screens over HTTP.
Main exports:
  ScreenSite, ScreenSite.new, ScreenSite.fetch
-/
import ServerDriven.Http.Exchange
import ServerDriven.Http.Status
import ServerDriven.Schema.Codec
import ServerDriven.Screen.Address
import ServerDriven.Screen.Error

namespace ServerDriven

/-- A base URL under which screens are found. -/
structure ScreenSite where
  base : Url
deriving Repr, DecidableEq, Inhabited

namespace ScreenSite

/-- What is wrong with a base URL that has no place for screens. -/
def invalid (raw : String) : FetchError := .parse ("invalid screens URL: " ++ raw)

/-- The site at a base URL, if the URL has a place for screens. -/
def new (raw : String) : Except FetchError ScreenSite :=
  match Url.parse raw with
  | .ok base =>
    match base.path with
    | .segments _ => .ok ⟨base⟩
    | .rootless _ => .error (invalid raw)
  | .error _ => .error (invalid raw)

/-- Read an answer. -/
def readAnswer (id : String) (status : Nat) (body : Option String) :
    Except FetchError ScreenSchema :=
  if status = 404 then .error (.notFound id)
  else if !Status.isSuccess status then .error (.status status)
  else match body with
    | none => .error (.network TransportError.cutShort.message)
    | some text => (ScreenSchema.codec.readText text).mapError fun e => .parse e.message

/-- Fetch a screen. -/
def fetch {m : Type → Type} [Monad m] (transport : Transport m) (site : ScreenSite) (id : String) :
    m (Except FetchError ScreenSchema) := do
  match site.base.screen? id with
  | none => return .error (invalid site.base.text)
  | some url =>
    match ← exchangeAt transport .get url none with
    | .ok (status, body) => return readAnswer id status body
    | .error e => return .error (.network e.message)

end ScreenSite

end ServerDriven
