/-
Module: ServerDriven.Proofs.Url.OneSegment
Purpose: What a text comes to when it is added to a path as a segment, and what begins the paths of
  the URLs that are read.
Main exports:
  Url.ends_not_mem_encode, UrlPath.Settled, UrlPath.dropEmpty_of_settled,
  UrlPath.isDoubleDot_encode, UrlPath.isSingleDot_encode, UrlPath.significant, UrlPath.add_below,
  Url.settled_of_parse
-/
import ServerDriven.Proofs.Url.PercentCoding
import ServerDriven.Url.Parser

namespace ServerDriven

/-! ### Encoded segments -/

namespace Url

section SegmentSet

open Percent

variable (kind : SchemeKind)

theorem segmentSet_percent : segmentSet kind '%' = true := by
  unfold segmentSet
  cases kind.isSpecial <;> rfl

theorem segmentSet_dot : segmentSet kind '.' = false := by
  unfold segmentSet
  cases kind.isSpecial <;> rfl

theorem segmentSet_inSegment {c : Char} (h : inSegment c = true) : segmentSet kind c = true := by
  unfold segmentSet
  cases kind.isSpecial with
  | true => simp [inSpecialSegment, h]
  | false => simp [h]

theorem segmentSet_backslash (special : kind.isSpecial = true) :
    segmentSet kind '\\' = true := by
  rw [segmentSet, if_pos special]
  rfl

/-- A segment that is encoded holds no sign that ends a segment or a path. -/
theorem ends_not_mem_encode (s : String) :
    ∀ c ∈ (encode (segmentSet kind) s).toList,
      kind.isSeparator c = false ∧ c ≠ '?' ∧ c ≠ '#' := by
  have slash := not_mem_encode (segmentSet_inSegment kind (c := '/') rfl) (by decide) (by decide) s
  have mark := not_mem_encode (segmentSet_inSegment kind (c := '?') rfl) (by decide) (by decide) s
  have hash := not_mem_encode (segmentSet_inSegment kind (c := '#') rfl) (by decide) (by decide) s
  intro c mem
  refine ⟨?_, ?_, ?_⟩
  · cases separates : kind.isSeparator c with
    | false => rfl
    | true =>
        unfold SchemeKind.isSeparator at separates
        rcases (Bool.or_eq_true _ _).mp separates with same | backslash
        · rw [beq_iff_eq.mp same] at mem
          exact absurd mem slash
        · obtain ⟨special, same⟩ := (Bool.and_eq_true _ _).mp backslash
          rw [beq_iff_eq.mp same] at mem
          exact absurd mem
            (not_mem_encode (segmentSet_backslash kind special) (by decide) (by decide) s)
  · rintro rfl
    exact mark mem
  · rintro rfl
    exact hash mem

end SegmentSet

end Url

/-! ### Paths of files -/

namespace UrlPath

/-- The path of a file begins with an empty segment only if it has no other. -/
def Settled (kind : SchemeKind) (parts : List String) : Prop :=
  kind = .file → parts.head? = some "" → parts = [""]

section Settled

variable {kind : SchemeKind} {parts : List String}

theorem dropEmpty_cons_cons (kind : SchemeKind) (first second : String) (rest : List String) :
    dropEmpty kind (first :: second :: rest) =
      if first = "" ∧ kind = .file then dropEmpty kind (second :: rest)
      else first :: second :: rest := by
  by_cases empty : first = ""
  · subst empty
    simp [dropEmpty]
  · simp [dropEmpty, empty]

theorem dropEmpty_of_settled (settled : Settled kind parts) : dropEmpty kind parts = parts := by
  match parts with
  | [] => rfl
  | [only] => simp [dropEmpty]
  | first :: second :: rest =>
      rw [dropEmpty_cons_cons, if_neg]
      rintro ⟨rfl, file⟩
      cases settled file rfl

theorem settled_dropEmpty (kind : SchemeKind) (parts : List String) :
    Settled kind (dropEmpty kind parts) := by
  intro file
  induction parts with
  | nil => nofun
  | cons first rest ih =>
      cases rest with
      | nil =>
          have same : dropEmpty kind [first] = [first] := by simp [dropEmpty]
          rw [same]
          intro empty
          rw [Option.some.inj empty]
      | cons second rest =>
          rw [dropEmpty_cons_cons]
          split
          · exact ih
          · rename_i kept
            intro empty
            exact absurd ⟨Option.some.inj empty, file⟩ kept

end Settled

/-! ### Dots -/

section Dots

variable {set : Char → Bool}

/-- Where spellings of a text all stand for its bytes, only the text itself is encoded as one. -/
theorem contains_encode_iff (percent : set '%' = true) {spellings : List String} {t : String}
    (own : t ∈ spellings)
    (bytes : ∀ x ∈ spellings, Percent.decodeChars x.toList = Percent.decodeChars t.toList)
    (kept : ∀ c ∈ t.toList, set c = false) (s : String) :
    spellings.contains (Percent.encode set s) = true ↔ s = t := by
  rw [List.contains_iff_mem]
  constructor
  · intro spelled
    have decoded := Percent.decode_congr (bytes _ spelled)
    rw [Percent.decode_encode percent, ← Percent.encode_eq_self kept,
      Percent.decode_encode percent] at decoded
    exact Option.some.inj decoded
  · rintro rfl
    rw [Percent.encode_eq_self kept]
    exact own

/-- Encoding makes no dots. -/
theorem isDoubleDot_encode (percent : set '%' = true) (dot : set '.' = false) (s : String) :
    isDoubleDot (Percent.encode set s) = true ↔ s = ".." :=
  contains_encode_iff percent (by decide) (by decide) (by simpa using dot) s

theorem isSingleDot_encode (percent : set '%' = true) (dot : set '.' = false) (s : String) :
    isSingleDot (Percent.encode set s) = true ↔ s = "." :=
  contains_encode_iff percent (by decide) (by decide) (by simpa using dot) s

end Dots

/-! ### One segment more -/

/-- A text without the characters that count for nothing in a URL. -/
def significant (s : String) : String := String.ofList (s.toList.filter (!isIgnored ·))

theorem significant_eq_self_iff (s : String) :
    significant s = s ↔ ∀ c ∈ s.toList, isIgnored c = false := by
  have inj : significant s = s ↔
      s.toList.filter (!isIgnored ·) = s.toList := by
    rw [← String.toList_inj, significant, String.toList_ofList]
  rw [inj, List.filter_eq_self]
  simp

/-- A segment below others goes one level up, or it ends the path with a slash, or it is encoded. -/
theorem add_below {set : Char → Bool} (percent : set '%' = true) (dot : set '.' = false)
    (kind : SchemeKind) {parts : List String} (below : parts ≠ []) (s : String) :
    add kind set parts s.toList false =
      if significant s = ".." then shorten parts ++ [""]
      else if significant s = "." then parts ++ [""]
      else parts ++ [Percent.encode set (significant s)] := by
  have noDrive : entersDrive kind parts s.toList = false := by
    simp [entersDrive, below]
  have encoded : String.ofList (Percent.encodeChars set (s.toList.filter (!isIgnored ·))) =
      Percent.encode set (significant s) := by
    rw [Percent.encode, significant, String.toList_ofList]
  unfold add
  simp only [below, and_false, if_false, noDrive, encoded, isDoubleDot_encode percent dot,
    isSingleDot_encode percent dot, Bool.false_eq_true]

end UrlPath

/-! ### Paths that are read -/

namespace Url

/-- The path of a file is made of segments, and it is settled. -/
theorem settled_of_readFile {raw : List Char} {a : Authority} {path : UrlPath}
    (read : readFile raw = .ok (a, path)) :
    ∃ parts, path = .segments parts ∧ UrlPath.Settled .file parts := by
  have made : ∃ segments, path = .segments (UrlPath.ofSegments .file segments) := by
    unfold readFile at read
    dsimp only at read
    split at read
    · cases read
      exact ⟨_, rfl⟩
    split at read
    · cases read
      exact ⟨_, rfl⟩
    split at read
    · cases read
      exact ⟨_, rfl⟩
    dsimp only [bind, Except.bind] at read
    split at read
    · cases read
    split at read
    · cases read
      exact ⟨_, rfl⟩
    · cases read
      exact ⟨_, rfl⟩
  obtain ⟨segments, rfl⟩ := made
  exact ⟨_, rfl, UrlPath.settled_dropEmpty .file _⟩

theorem settled_of_readHierarchy {kind : SchemeKind} {raw : List Char} {more : Bool}
    {a : Option Authority} {path : UrlPath} (read : readHierarchy kind raw more = .ok (a, path))
    {parts : List String} (segments : path = .segments parts) : UrlPath.Settled kind parts := by
  cases kind with
  | web port => nofun
  | other => nofun
  | file =>
      unfold readHierarchy at read
      dsimp only [bind, Except.bind] at read
      split at read
      · cases read
      · rename_i made
        cases read
        obtain ⟨own, same, settled⟩ := settled_of_readFile made
        obtain rfl := UrlPath.segments.inj (same.symm.trans segments)
        exact settled

/-- The path of a URL that was read is settled. -/
theorem settled_of_parse {raw : String} {base : Url} (read : parse raw = .ok base)
    {parts : List String} (path : base.path = .segments parts) :
    UrlPath.Settled base.kind parts := by
  unfold parse at read
  dsimp only at read
  split at read
  · cases read
  · rename_i scheme rest _
    dsimp only [bind, Except.bind] at read
    split at read
    · cases read
    · rename_i hierarchy
      cases read
      exact settled_of_readHierarchy hierarchy path

end Url

end ServerDriven
