/-
Module: ServerDriven.Screen.Surface
Purpose: A place where one screen is shown at a time, and the way back to earlier ones.
Main exports:
  ScreenView, Loader, Surface, Surface.load, Surface.navigate, Surface.back?, Surface.reload,
  Surface.stop, Surface.follow
-/
import ServerDriven.Screen.Cache

namespace ServerDriven

/-!
A surface shows what its cache holds of one screen.  A loader carries each result from the cache to
the view; when another screen is loaded, the loader before is aborted.  As with fetches, an abort
may take effect late, and generations keep a loader that was overtaken from writing into the view.
-/

/-- What a surface shows. -/
structure ScreenView where
  screen : Option String := none
  isLoading : Bool := false
  schema : Option ScreenSchema := none
  /-- When the schema arrived. -/
  lastUpdated : Option Int := none
  error : Option String := none
deriving Repr, Inhabited, BEq

namespace ScreenView

/-- A screen of which nothing is known. -/
def blank (id : String) : ScreenView := { screen := some id }

/-- Take in what is known of the screen.  A schema that was shown stays until there is another. -/
def apply (view : ScreenView) : ScreenResult → ScreenView
  | .idle => view
  | .loading => { view with isLoading := true, error := none }
  | .success schema receivedAt =>
    { view with
      isLoading := false, schema := some schema, lastUpdated := some receivedAt, error := none }
  | .failure e => { view with isLoading := false, error := some e.message }

end ScreenView

/-- What carries the results of a screen to the view. -/
structure Loader where
  screen : String
  generation : Nat
  /-- How many publications it has seen; none before the first that it looks at. -/
  seen : Option Nat
  /-- Whether it is to be cancelled when it would go on. -/
  isAborted : Bool
  /-- Whether it has found that it was overtaken. -/
  isOver : Bool
deriving Repr, DecidableEq, Inhabited

/-- A surface on a cache. -/
structure Surface where
  cache : ScreenCache := {}
  view : Watched ScreenView := .start {}
  /-- The number of the latest load or stop. -/
  generation : Nat := 0
  /-- The generation of the loader that the next load aborts. -/
  active : Option Nat := none
  /-- The latest first. -/
  loaders : List Loader := []
  /-- The screens to go back to, the latest first. -/
  history : List String := []
deriving Inhabited

namespace Surface

def current? (s : Surface) : Option String := s.view.value.screen

/-- Abort the active loader. -/
def abort (s : Surface) : Surface :=
  match s.active with
  | some generation =>
    { s with
      active := none
      loaders := s.loaders.map fun loader =>
        if loader.generation = generation then { loader with isAborted := true } else loader }
  | none => s

/-- Show a screen, and fetch it anew if that is wanted. -/
def load (s : Surface) (id : String) (refresh : Bool) : Surface :=
  let s := s.abort
  let generation := s.generation + 1
  let view := if s.current? = some id then s.view else s.view.publish (.blank id)
  let cache := s.cache.subscribe id
  { s with
    cache := if refresh then cache.refresh id else cache
    view, generation
    active := some generation
    loaders := ⟨id, generation, none, false, false⟩ :: s.loaders }

/-- Forget the way back and show nothing. -/
def forget (s : Surface) : Surface := { s with history := [], view := s.view.publish {} }

/-- Remember the present screen as the one to go back to from the given one. -/
def remember (s : Surface) (id : String) : Surface :=
  match s.current? with
  | some current => if current = id then s else { s with history := current :: s.history }
  | none => s

/-- Whether nothing was ever asked of a screen, so that it has to be fetched. -/
def needsFetch (s : Surface) (id : String) : Bool :=
  match s.cache.current? id with
  | none | some .idle => true
  | _ => false

/-- Go to a screen. -/
def navigate (s : Surface) (id : String) (clear : Bool) : Surface :=
  let s := if clear then s.forget else s.remember id
  s.load id (s.needsFetch id)

/-- Go back, if there is a screen to go back to. -/
def back? (s : Surface) : Option Surface :=
  match s.history with
  | id :: history => some ({ s with history }.load id false)
  | [] => none

/-- Fetch the present screen anew. -/
def reload (s : Surface) : Surface :=
  match s.current? with
  | some id => { s with cache := s.cache.refresh id }
  | none => s

/-- Let nothing that is loading reach the view any more. -/
def stop (s : Surface) : Surface :=
  let s := s.abort
  { s with generation := s.generation + 1 }

def loader? (s : Surface) (generation : Nat) : Option Loader :=
  s.loaders.find? (·.generation = generation)

/-- Whether a loader has something to look at. -/
def isBehind (s : Surface) (loader : Loader) : Bool :=
  !loader.isOver && match loader.seen with
    | none => true
    | some seen => (s.cache.slot loader.screen).result.hasChanged seen

def changeLoader (generation : Nat) (f : Loader → Loader) (s : Surface) : Surface :=
  { s with
    loaders := s.loaders.map fun loader =>
      if loader.generation = generation then f loader else loader }

/-- One round of a loader: it looks at the latest result of its screen and carries it to the view,
unless it was overtaken. -/
def follow (s : Surface) (generation : Nat) : Surface :=
  match s.loader? generation with
  | some loader =>
    if s.isBehind loader then
      let result := (s.cache.slot loader.screen).result
      let s := s.changeLoader generation fun loader => { loader with seen := some result.version }
      if s.generation = generation then
        { s with view := s.view.change fun view => view.apply result.value }
      else s.changeLoader generation fun loader => { loader with isOver := true }
    else s
  | none => s

end Surface

end ServerDriven
