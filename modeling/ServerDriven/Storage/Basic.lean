/-
Module: ServerDriven.Storage.Basic
Purpose: Places where texts are kept under keys.
Main exports:
  Storage, Memory
-/
import ServerDriven.Codec.Dictionary

namespace ServerDriven

/-- A place where texts are kept under keys.  Writing gives the place as it is afterwards. -/
class Storage (σ : Type) where
  get? : σ → String → Option String
  put : σ → String → String → σ
  remove : σ → String → σ

/-- A storage that forgets everything when it is gone. -/
abbrev Memory := Dictionary String

instance : Storage Memory where
  get? := Dictionary.get?
  put := Dictionary.put
  remove := Dictionary.erase

end ServerDriven
