/-
Module: ServerDriven.Screen.Address
Purpose: Where screens are found under a base URL.
Main exports:
  Url.screen?
-/
import ServerDriven.Url.Basic

namespace ServerDriven

/-- The segment under which all screens lie. -/
def screensSegment : String := "screens"

/-- Where a screen is: its id is one segment below the screens.  A base whose path has no segments
has no place for screens. -/
def Url.screen? (base : Url) (id : String) : Option Url := base.push? [screensSegment, id]

end ServerDriven
