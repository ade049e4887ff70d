/-
Module: ServerDriven.Watched
Purpose: Values that are published, so that others can see that something was published.
Main exports:
  Watched, Watched.start, Watched.publish, Watched.change, Watched.hasChanged
-/

namespace ServerDriven

/-- The latest value, and how many values have been published.  Whoever remembers the number that it
has seen can tell whether there was another publication since, be it of an equal value. -/
structure Watched (α : Type) where
  value : α
  version : Nat
deriving Repr, DecidableEq, Inhabited, BEq

namespace Watched

variable {α : Type}

/-- A value that is there from the start; nothing has been published. -/
def start (value : α) : Watched α := ⟨value, 0⟩

def publish (w : Watched α) (value : α) : Watched α := ⟨value, w.version + 1⟩

/-- Publish what becomes of the latest value. -/
def change (w : Watched α) (f : α → α) : Watched α := w.publish (f w.value)

/-- Whether something was published after the given number of publications. -/
def hasChanged (w : Watched α) (seen : Nat) : Bool := seen < w.version

@[simp] theorem value_publish (w : Watched α) (value : α) : (w.publish value).value = value := rfl

@[simp] theorem version_publish (w : Watched α) (value : α) :
    (w.publish value).version = w.version + 1 := rfl

end Watched

end ServerDriven
