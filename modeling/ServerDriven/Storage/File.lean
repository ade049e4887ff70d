/-
Module: ServerDriven.Storage.File
Purpose: A storage that keeps its entries in memory and in a file.
Main exports:
  Medium, FileStorage, FileStorage.openAt, FileStorage.render, FileStorage.load
-/
import ServerDriven.Codec.Basic
import ServerDriven.Storage.Basic

namespace ServerDriven

/-- The place of a file: the text that can be read there, and whether writing succeeds. -/
structure Medium where
  content : Option String := none
  isWritable : Bool := true
deriving Repr, DecidableEq, Inhabited

/-- Write the whole file.  A write that fails changes nothing. -/
def Medium.write (m : Medium) (text : String) : Medium :=
  if m.isWritable then { m with content := some text } else m

/-- The directory that holds the file of a path, if the path names one. -/
def Medium.directory? (path : String) : Option String :=
  match (path.splitOn "/").dropLast with
  | [] => none
  | parts => some ("/".intercalate parts) |>.filter (!·.isEmpty)

/-- The entries, and the file that should hold them too. -/
structure FileStorage where
  entries : Memory
  medium : Medium
deriving Repr, DecidableEq, Inhabited

namespace FileStorage

/-- The text of a file with the given entries. -/
def render (entries : Memory) : String := ((Codec.dictionary Codec.string).toJson entries).pretty

/-- The entries in the text of a file.  A text that is not an object of texts holds none. -/
def load (text : String) : Memory :=
  match (Codec.dictionary Codec.string).readText text with
  | .ok entries => entries
  | .error _ => .empty

/-- The storage in a file; no file, or one that cannot be read, is an empty one. -/
def openAt (medium : Medium) : FileStorage :=
  ⟨(medium.content.map load).getD .empty, medium⟩

/-- Go on with other entries, and write them. -/
def update (entries : Memory) (s : FileStorage) : FileStorage :=
  ⟨entries, s.medium.write (render entries)⟩

instance : Storage FileStorage where
  get? s key := s.entries.get? key
  put s key value := s.update (s.entries.put key value)
  remove s key := s.update (s.entries.erase key)

end FileStorage

end ServerDriven
