/-
Module: ServerDriven.Proofs.Json.ReadBack
Purpose: The printed text of a string, and of an object of strings, is read back as what was
  printed.
Main exports:
  Glyph.Denotes, Token.Adds, Token.Reads, Token.reads_stringText, Written.Builds,
  Written.ofText?_pretty_strings
-/
import Mathlib.Data.List.Forall2
import ServerDriven.Json.Printer
import ServerDriven.Json.Written

namespace ServerDriven

/-! ### Pieces of strings -/

namespace Glyph

/-- A piece stands for one character, whatever comes after it. -/
def Denotes (g : Glyph) (c : Char) : Prop :=
  ∀ rest, characters? (g :: rest) = (characters? rest).map (c :: ·)

theorem denotes_char (c : Char) : (Glyph.char c).Denotes c := fun _ => rfl

/-- A control character is no half of a surrogate pair. -/
theorem denotes_unit {c : Char} (control : c.toNat < 0x20) : (Glyph.unit c.toNat).Denotes c := by
  intro rest
  have noHigh : ¬(0xd800 ≤ c.toNat ∧ c.toNat < 0xdc00) := by omega
  have noLow : ¬(0xdc00 ≤ c.toNat ∧ c.toNat < 0xe000) := by omega
  rw [characters?.eq_def]
  dsimp only
  rw [if_neg noHigh, if_neg noLow, Char.ofNat_toNat]

theorem characters?_eq_some {glyphs : List Glyph} {cs : List Char}
    (denote : List.Forall₂ Denotes glyphs cs) : characters? glyphs = some cs := by
  induction denote with
  | nil =>
      rfl
  | cons head _ ih =>
      rw [head, ih, Option.map_some]

end Glyph

/-! ### Characters of strings -/

namespace Token

theorem scanFrom?_cons (mode : Mode) (found : List Token) (c : Char) (rest : List Char) :
    scanFrom? mode found (c :: rest) =
      match step? mode c with
      | some (tokens, next) => scanFrom? next (tokens.reverse ++ found) rest
      | none => none := by
  cases mode <;> rfl

/-- Inside a string, a text is read as one piece more. -/
def Adds (text : List Char) (g : Glyph) : Prop :=
  ∀ glyphs found rest,
    scanFrom? (.quoted glyphs) found (text ++ rest) = scanFrom? (.quoted (g :: glyphs)) found rest

/-- A character after a backslash. -/
theorem adds_escape {c d : Char} (letter : c ≠ 'u') (stands : escape? c = some d) :
    Adds ['\\', c] (.char d) := by
  intro glyphs found rest
  change scanFrom? (.escape glyphs) found (c :: rest) = _
  rw [scanFrom?_cons, step?, if_neg letter, stands]
  rfl

theorem hexDigit?_digitChar : ∀ d < 16, hexDigit? d.digitChar = some d := by
  decide

/-- A character below the space, written with two digits. -/
theorem adds_unit {n : Nat} (control : n < 0x20) :
    Adds ['\\', 'u', '0', '0', (n / 16).digitChar, (n % 16).digitChar] (.unit n) := by
  intro glyphs found rest
  have high := hexDigit?_digitChar (n / 16) (by omega)
  have low := hexDigit?_digitChar (n % 16) (by omega)
  change scanFrom? (.unit glyphs 2 0) found ((n / 16).digitChar :: (n % 16).digitChar :: rest) = _
  rw [scanFrom?_cons, step?, high]
  change scanFrom? (.unit glyphs 1 (16 * 0 + n / 16)) found ((n % 16).digitChar :: rest) = _
  rw [scanFrom?_cons, step?, low]
  change scanFrom? (.quoted (.unit (16 * (16 * 0 + n / 16) + n % 16) :: glyphs)) found rest = _
  rw [show 16 * (16 * 0 + n / 16) + n % 16 = n by omega]

/-- A character that stands for itself. -/
theorem adds_self {c : Char} (quote : c ≠ '"') (backslash : c ≠ '\\') (visible : 0x20 ≤ c.toNat) :
    Adds [c] (.char c) := by
  intro glyphs found rest
  rw [List.singleton_append, scanFrom?_cons, step?, if_neg quote, if_neg backslash,
    if_neg (by omega)]
  rfl

theorem toList_hex_control : ∀ n < 0x20,
    (if n < 0x10 then "\\u000" ++ Text.hex n else "\\u00" ++ Text.hex n).toList =
      ['\\', 'u', '0', '0', (n / 16).digitChar, (n % 16).digitChar] := by
  decide

/-- The three ways in which a character is printed. -/
theorem stringChar_cases (c : Char) :
    (∃ letter, letter ≠ 'u' ∧ escape? letter = some c ∧
      (Json.stringChar c).toList = ['\\', letter]) ∨
    (c.toNat < 0x20 ∧ (Json.stringChar c).toList =
      ['\\', 'u', '0', '0', (c.toNat / 16).digitChar, (c.toNat % 16).digitChar]) ∨
    (c ≠ '"' ∧ c ≠ '\\' ∧ 0x20 ≤ c.toNat ∧ (Json.stringChar c).toList = [c]) := by
  by_cases letter : c ∈ ['"', '\\', '\x08', '\t', '\n', '\x0c', '\r']
  · refine .inl ?_
    simp only [List.mem_cons, List.not_mem_nil, or_false] at letter
    rcases letter with rfl | rfl | rfl | rfl | rfl | rfl | rfl
    · exact ⟨'"', by decide, rfl, rfl⟩
    · exact ⟨'\\', by decide, rfl, rfl⟩
    · exact ⟨'b', by decide, rfl, rfl⟩
    · exact ⟨'t', by decide, rfl, rfl⟩
    · exact ⟨'n', by decide, rfl, rfl⟩
    · exact ⟨'f', by decide, rfl, rfl⟩
    · exact ⟨'r', by decide, rfl, rfl⟩
  · refine .inr ?_
    simp only [List.mem_cons, List.not_mem_nil, or_false, not_or] at letter
    obtain ⟨quote, backslash, backspace, tab, newline, feed, carriage⟩ := letter
    unfold Json.stringChar
    rw [if_neg quote, if_neg backslash, if_neg backspace, if_neg tab, if_neg newline, if_neg feed,
      if_neg carriage]
    by_cases control : c.toNat < 0x20
    · rw [if_pos control]
      exact .inl ⟨control, toList_hex_control c.toNat control⟩
    · rw [if_neg (by omega), if_neg control]
      exact .inr ⟨quote, backslash, by omega, by simp⟩

/-- However a character is printed, it is read as a piece that stands for it. -/
theorem adds_stringChar (c : Char) :
    ∃ g : Glyph, g.Denotes c ∧ Adds (Json.stringChar c).toList g := by
  rcases stringChar_cases c with
    ⟨letter, plain, stands, text⟩ | ⟨control, text⟩ | ⟨quote, backslash, visible, text⟩
  · rw [text]
    exact ⟨.char c, Glyph.denotes_char c, adds_escape plain stands⟩
  · rw [text]
    exact ⟨.unit c.toNat, Glyph.denotes_unit control, adds_unit control⟩
  · rw [text]
    exact ⟨.char c, Glyph.denotes_char c, adds_self quote backslash visible⟩

/-! ### Texts between two tokens -/

/-- Between two tokens, a text is read as some tokens more. -/
def Reads (text : List Char) (tokens : List Token) : Prop :=
  ∀ found rest,
    scanFrom? .between found (text ++ rest) = scanFrom? .between (tokens.reverse ++ found) rest

theorem reads_nil : Reads [] [] := fun _ _ => rfl

theorem Reads.append {text text' : List Char} {tokens tokens' : List Token}
    (first : Reads text tokens) (next : Reads text' tokens') :
    Reads (text ++ text') (tokens ++ tokens') := by
  intro found rest
  rw [List.append_assoc, first, next, List.reverse_append, List.append_assoc]

/-- What is read from a whole text. -/
theorem Reads.scan? {text : List Char} {tokens : List Token} (reads : Reads text tokens) :
    Token.scan? text = some tokens := by
  have all := reads [] []
  rw [List.append_nil, List.append_nil] at all
  rw [Token.scan?, all, scanFrom?, List.reverse_reverse]

/-- A mark is a token of its own, and white space is none. -/
theorem reads_start {c : Char} {tokens : List Token} (starts : start? c = some (tokens, .between)) :
    Reads [c] tokens := by
  intro found rest
  rw [List.singleton_append, scanFrom?_cons, step?, starts]

theorem reads_spaces (n : Nat) : Reads (List.replicate n ' ') [] := by
  induction n with
  | zero =>
      exact reads_nil
  | succ n ih =>
      have space : Reads [' '] [] := reads_start rfl
      exact space.append ih

/-- The characters of a string, up to the closing quote. -/
theorem reads_characters (cs : List Char) :
    ∃ glyphs, List.Forall₂ Glyph.Denotes glyphs cs ∧ ∀ before found rest,
      scanFrom? (.quoted before) found (cs.flatMap (fun c => (Json.stringChar c).toList) ++ rest) =
        scanFrom? (.quoted (glyphs.reverse ++ before)) found rest := by
  induction cs with
  | nil =>
      exact ⟨[], .nil, fun _ _ _ => rfl⟩
  | cons c cs ih =>
      obtain ⟨glyphs, denote, reads⟩ := ih
      obtain ⟨g, denotes, adds⟩ := adds_stringChar c
      refine ⟨g :: glyphs, .cons denotes denote, fun before found rest => ?_⟩
      rw [List.flatMap_cons, List.append_assoc, adds, reads, List.reverse_cons, List.append_assoc]
      rfl

/-- A printed string is read as the token of that string. -/
theorem reads_stringText (s : String) : Reads (Json.stringText s).toList [.string (some s)] := by
  intro found rest
  obtain ⟨glyphs, denote, reads⟩ := reads_characters s.toList
  have text : (Json.stringText s).toList =
      '"' :: (s.toList.flatMap (fun c => (Json.stringChar c).toList) ++ ['"']) := by
    simp [Json.stringText, String.toList_join, List.flatMap_map]
  rw [text, List.cons_append, List.append_assoc]
  change scanFrom? (.quoted []) found _ = _
  rw [reads, List.append_nil, List.singleton_append, scanFrom?_cons, step?, if_pos rfl,
    List.reverse_reverse, Glyph.characters?_eq_some denote, Option.map_some, String.ofList_toList]

/-- Texts with a separator between them. -/
theorem reads_intercalate {separator : List Char} {between : List Token}
    (separates : Reads separator between) {texts : List (List Char)} {tokens : List (List Token)}
    (reads : List.Forall₂ Reads texts tokens) :
    Reads (separator.intercalate texts) (between.intercalate tokens) := by
  induction reads with
  | nil =>
      exact reads_nil
  | @cons text first texts tokens head tail ih =>
      cases tail with
      | nil =>
          rw [List.intercalate_singleton, List.intercalate_singleton]
          exact head
      | cons =>
          rw [List.intercalate_cons_cons, List.intercalate_cons_cons]
          exact (head.append separates).append ih

/-- Lines between brackets are read as what stands on them, with commas in between. -/
theorem reads_block {opening closing : String} {first last : Token}
    (opens : Reads opening.toList [first]) (closes : Reads closing.toList [last]) (depth : Nat)
    {lines : List String} {tokens : List (List Token)}
    (reads : List.Forall₂ (fun line => Reads line.toList) lines tokens) :
    Reads (Json.block opening closing depth lines).toList
      ([first] ++ [Token.comma].intercalate tokens ++ [last]) := by
  have newline : Reads ['\n'] [] := reads_start rfl
  have comma : Reads [','] [.comma] := reads_start rfl
  unfold Json.block
  split
  · rename_i none
    obtain rfl := List.isEmpty_iff.mp none
    cases reads
    rw [String.toList_append]
    exact opens.append closes
  · have indented : List.Forall₂ Reads
        ((lines.map ((String.ofList (List.replicate (2 * depth) ' ') ++ "  ") ++ ·)).map
          String.toList) tokens := by
      rw [List.map_map, List.forall₂_map_left_iff]
      refine reads.imp fun line ts read => ?_
      have indent : Reads (List.replicate (2 * depth) ' ' ++ List.replicate 2 ' ') [] :=
        (reads_spaces _).append (reads_spaces 2)
      simpa [String.toList_append] using indent.append read
    have inner := reads_intercalate (comma.append newline) indented
    have all := (opens.append newline).append ((inner.append newline).append
      ((reads_spaces (2 * depth)).append closes))
    simpa [String.toList_append, String.toList_intercalate] using all

/-- What a member of an object of strings is read as. -/
def ofMember (member : String × String) : List Token :=
  [.string (some member.1), .colon, .string (some member.2)]

end Token

/-! ### Objects of strings -/

/-- An object all of whose members are strings. -/
def Json.ofStrings (members : List (String × String)) : Json :=
  .object (members.map fun member => (member.1, .string member.2))

namespace Token

theorem reads_members (depth : Nat) (members : List (String × String)) :
    List.Forall₂ (fun line => Reads line.toList)
      (Json.prettyMembers depth (members.map fun member => (member.1, .string member.2)))
      (members.map ofMember) := by
  induction members with
  | nil =>
      exact .nil
  | cons member members ih =>
      refine .cons ?_ ih
      have colon : Reads [':'] [.colon] := reads_start rfl
      have line := (reads_stringText member.1).append
        ((colon.append (reads_spaces 1)).append (reads_stringText member.2))
      simpa [String.toList_append, ofMember, Json.prettyAt] using line

theorem reads_pretty_strings (members : List (String × String)) :
    Reads (Json.ofStrings members).pretty.toList
      ([objectStart] ++ [comma].intercalate (members.map ofMember) ++ [objectEnd]) := by
  have opens : Reads "\x7b".toList [objectStart] := reads_start rfl
  have closes : Reads "\x7d".toList [objectEnd] := reads_start rfl
  exact reads_block opens closes 0 (reads_members 1 members)

end Token

namespace Written

/-- What is written where an object of strings is printed. -/
def ofStrings (members : List (String × String)) : Written :=
  .object (members.map fun member => (some member.1, .string (some member.2)))

/-- The members of an object of strings, up to the closing brace. -/
theorem build?_members (before : List (Option String × Written)) (member : String × String)
    (members : List (String × String)) :
    build? [] (.key before)
      ([Token.comma].intercalate ((member :: members).map Token.ofMember) ++ [.objectEnd]) =
        some (.object (before.reverse ++
          (member :: members).map fun member => (some member.1, .string (some member.2)))) := by
  induction members generalizing before member with
  | nil =>
      simp [Token.ofMember, build?, step?, startValue?, place]
  | cons next members ih =>
      rw [List.map_cons, List.map_cons, List.intercalate_cons_cons, ← List.map_cons,
        List.append_assoc, List.append_assoc]
      have read := ih ((some member.1, .string (some member.2)) :: before) next
      rw [List.reverse_cons, List.append_assoc] at read
      exact read

/-- A printed object of strings is read as what was printed, each member at its place. -/
theorem ofText?_pretty_strings (members : List (String × String)) :
    ofText? (Json.ofStrings members).pretty = some (ofStrings members) := by
  rw [ofText?, (Token.reads_pretty_strings members).scan?, Option.bind_some]
  cases members with
  | nil =>
      rfl
  | cons member members =>
      have read := build?_members [] member members
      -- The first key is in sight only when it is known whether a comma follows its member.
      cases members with
      | nil =>
          exact read
      | cons =>
          exact read

end Written

end ServerDriven
