/-
Module: ServerDriven.Screen.Library
Purpose: A fixed set of screens.
Main exports:
  Library, Library.add, Library.ids, Library.fetch
-/
import ServerDriven.Duration
import ServerDriven.Entries
import ServerDriven.Schema.Basic
import ServerDriven.Screen.Error

namespace ServerDriven

/-- Screens under their ids, and the time that it takes to fetch one. -/
structure Library where
  screens : Entries ScreenSchema := []
  delay : Duration := .ofMillis 0
deriving Inhabited

namespace Library

/-- Add a screen under its own id, in place of one with the same id. -/
def add (library : Library) (schema : ScreenSchema) : Library :=
  { library with screens := library.screens.put schema.screen.id schema }

/-- The ids in increasing order. -/
def ids (library : Library) : List String := library.screens.sorted.keys

def fetch (library : Library) (id : String) : Except FetchError ScreenSchema :=
  match library.screens.get? id with
  | some schema => .ok schema
  | none => .error (.notFound id)

end Library

end ServerDriven
