/-
Module: ServerDriven.Proofs.Url.PercentCoding
Purpose: Percent encoding loses nothing, and keeps out what it encodes.
Main exports:
  Percent.hexValue?_hexDigit, Percent.decodeChars_encodeChars, Percent.decode_encode,
  Percent.encode_injective, Percent.encode_eq_self, Percent.not_mem_encode
-/
import Mathlib.Data.List.Basic
import ServerDriven.Url.Percent

namespace ServerDriven.Percent

/-! ### Reading back -/

/-- A digit is read as the number that it was written for. -/
theorem hexValue?_hexDigit {n : Nat} (h : n < 16) : hexValue? (hexDigit n) = some n := by
  have all : ∀ n < 16, hexValue? (hexDigit n) = some n := by decide
  exact all n h

theorem decodeChars_encodeByte (b : UInt8) (rest : List Char) :
    decodeChars (encodeByte b ++ rest) = b :: decodeChars rest := by
  have bound := b.toNat_lt
  have high : hexValue? (hexDigit (b.toNat / 16)) = some (b.toNat / 16) :=
    hexValue?_hexDigit (by omega)
  have low : hexValue? (hexDigit (b.toNat % 16)) = some (b.toNat % 16) :=
    hexValue?_hexDigit (by omega)
  have value : UInt8.ofNat (16 * (b.toNat / 16) + b.toNat % 16) = b := by
    rw [Nat.div_add_mod, UInt8.ofNat_toNat]
  simp only [encodeByte, List.cons_append, List.nil_append, decodeChars, high, low, value]

theorem decodeChars_encodeBytes (bytes : List UInt8) (rest : List Char) :
    decodeChars (bytes.flatMap encodeByte ++ rest) = bytes ++ decodeChars rest := by
  induction bytes with
  | nil =>
      rfl
  | cons b bytes ih =>
      rw [List.flatMap_cons, List.append_assoc, decodeChars_encodeByte, ih, List.cons_append]

theorem decodeChars_cons {c : Char} (h : c ≠ '%') (rest : List Char) :
    decodeChars (c :: rest) = String.utf8EncodeChar c ++ decodeChars rest := by
  rw [decodeChars.eq_def]
  split
  · rename_i same
    exact absurd (List.cons.inj same).1 h
  · rename_i same
    cases same
    rfl
  · rename_i same
    cases same

section Decode

variable {set : Char → Bool}

/-- Where the percent sign is encoded, the bytes of an encoded text are those of the text. -/
theorem decodeChars_encodeChars (percent : set '%' = true) (cs : List Char) :
    decodeChars (encodeChars set cs) = cs.flatMap String.utf8EncodeChar := by
  induction cs with
  | nil =>
      rfl
  | cons c cs ih =>
      unfold encodeChars at ih ⊢
      rw [List.flatMap_cons, List.flatMap_cons, encodeChar]
      split
      · rw [decodeChars_encodeBytes, ih]
      · rename_i kept
        have ordinary : c ≠ '%' := by
          rintro rfl
          exact kept percent
        rw [List.singleton_append, decodeChars_cons ordinary, ih]

/-- Texts of the same bytes are decoded alike. -/
theorem decode_congr {s t : String} (same : decodeChars s.toList = decodeChars t.toList) :
    decode s = decode t := by
  rw [decode, decode, same]

/-- An encoded text is decoded to itself. -/
theorem decode_encode (percent : set '%' = true) (s : String) :
    decode (encode set s) = some s := by
  have bytes : (⟨(decodeChars (encode set s).toList).toArray⟩ : ByteArray) = s.toByteArray := by
    rw [encode, String.toList_ofList, decodeChars_encodeChars percent, ← List.data_toByteArray]
    exact String.utf8Encode_toList
  unfold decode String.fromUTF8?
  rw [bytes, dif_pos s.isValidUTF8]
  rfl

theorem encode_injective (percent : set '%' = true) {s t : String}
    (same : encode set s = encode set t) : s = t := by
  have decoded := congrArg decode same
  rw [decode_encode percent, decode_encode percent] at decoded
  exact Option.some.inj decoded

/-- A text of which no character is in the set stays as it is. -/
theorem encode_eq_self {s : String} (kept : ∀ c ∈ s.toList, set c = false) : encode set s = s := by
  have each : ∀ c ∈ s.toList, encodeChar set c = [c] := fun c mem => by
    rw [encodeChar, kept c mem]
    rfl
  rw [encode, encodeChars, List.flatMap_congr each, List.flatMap_singleton', String.ofList_toList]

end Decode

/-! ### What is kept out -/

/-- A character of the set is not in an encoded text, unless encoded bytes are written with it. -/
theorem not_mem_encode {set : Char → Bool} {c : Char} (inSet : set c = true) (ordinary : c ≠ '%')
    (noDigit : ∀ n < 16, hexDigit n ≠ c) (s : String) : c ∉ (encode set s).toList := by
  rw [encode, String.toList_ofList]
  intro mem
  obtain ⟨d, -, here⟩ := List.mem_flatMap.mp mem
  unfold encodeChar at here
  split at here
  · obtain ⟨b, -, here⟩ := List.mem_flatMap.mp here
    have bound := b.toNat_lt
    rcases List.mem_cons.mp here with percent | here
    · exact ordinary percent
    rcases List.mem_cons.mp here with high | here
    · exact noDigit _ (by omega) high.symm
    · exact noDigit _ (by omega) (List.mem_singleton.mp here).symm
  · rename_i kept
    rw [List.mem_singleton.mp here] at inSet
    exact kept inSet

end ServerDriven.Percent
