/-
Module: ServerDriven.Proofs.Screen.OwnAddress
Purpose: What the id of a screen comes to in its address, and which ids the address keeps apart.
Main exports:
  UrlPath.trimmed, UrlPath.stem, IdPlace, IdPlace.of, IsPlainId, IdPlace.of_eq_segment_iff,
  Url.screen?_eq, Url.text_screen?_eq_iff, Url.plain_ids_have_own_addresses
-/
import ServerDriven.Proofs.Url.OneSegment
import ServerDriven.Screen.Address

namespace ServerDriven

/-! ### Where screens lie -/

namespace UrlPath

/-- A path less an empty last segment. -/
def trimmed (parts : List String) : List String :=
  if parts.getLast? = some "" then parts.dropLast else parts

/-- The path below which screens lie.  Where only one empty segment would be left of a path, none
is. -/
def stem (parts : List String) : List String :=
  if Url.dropEmptyLast parts = [""] then [] else Url.dropEmptyLast parts

theorem stem_eq_trimmed_iff (parts : List String) :
    stem parts = trimmed parts ↔ parts ≠ ["", ""] := by
  match parts with
  | [] =>
      exact iff_of_true rfl nofun
  | [only] =>
      refine iff_of_true ?_ nofun
      by_cases empty : only = ""
      · subst empty
        rfl
      · simp [stem, trimmed, Url.dropEmptyLast, empty]
  | first :: second :: rest =>
      change (if trimmed (first :: second :: rest) = [""] then [] else _) = _ ↔ _
      by_cases one : trimmed (first :: second :: rest) = [""]
      · refine iff_of_false ?_ fun different => different ?_
        · rw [one]
          nofun
        · unfold trimmed at one
          split at one
          · rename_i last
            rw [← List.dropLast_append_getLast? "" last, one]
            rfl
          · cases one
      · rw [if_neg one]
        refine iff_of_true rfl fun same => one ?_
        rw [same]
        rfl

section Settled

variable {kind : SchemeKind} {parts : List String}

/-- The path below which the screens of a file URL lie begins with no empty segment at all. -/
theorem Settled.head?_stem (settled : Settled kind parts) (file : kind = .file) :
    (stem parts).head? ≠ some "" := by
  unfold stem
  split
  · nofun
  · rename_i notRoot
    match parts with
    | [] => nofun
    | [only] =>
        intro empty
        exact notRoot (settled file empty)
    | first :: second :: rest =>
        intro empty
        have same : first = "" := by
          unfold Url.dropEmptyLast at empty
          dsimp only at empty
          split at empty
          · exact Option.some.inj empty
          · exact Option.some.inj empty
        subst same
        cases settled file rfl

theorem Settled.stem_append (settled : Settled kind parts) {more : List String}
    (own : Settled kind more) : Settled kind (stem parts ++ more) := by
  intro file empty
  have notEmpty := settled.head?_stem file
  cases below : stem parts with
  | nil =>
      rw [below] at empty
      exact own file empty
  | cons first rest =>
      rw [below] at empty notEmpty
      exact absurd empty notEmpty

end Settled

/-- The segment of all screens goes below any path. -/
theorem add_screens (kind : SchemeKind) (parts : List String) :
    add kind (Url.segmentSet kind) parts screensSegment.toList false =
      parts ++ [screensSegment] := by
  have noDrive : entersDrive kind parts screensSegment.toList = false := by
    unfold entersDrive
    rw [show isDrive (screensSegment.toList.filter (!isIgnored ·)) = false from rfl,
      Bool.and_false]
  have kept : Percent.encodeChars (Url.segmentSet kind)
      (screensSegment.toList.filter (!isIgnored ·)) = screensSegment.toList := by
    unfold Url.segmentSet
    cases kind.isSpecial <;> rfl
  have ordinary : driveBefore? screensSegment.toList = none := rfl
  unfold add
  simp only [ordinary, ite_self, kept, String.ofList_toList, noDrive]
  rfl

end UrlPath

/-! ### What ids come to -/

/-- What the id of a screen comes to in its address. -/
inductive IdPlace where
  /-- Nothing: the address is that of all screens. -/
  | none
  /-- Two dots among characters that count for nothing lead up again. -/
  | up
  /-- One segment, which is the encoding of a text. -/
  | segment (text : String)
deriving Repr, DecidableEq

namespace IdPlace

/-- What an id comes to. -/
def of (id : String) : IdPlace :=
  if id = "." ∨ id = ".." then .none
  else if UrlPath.significant id = ".." then .up
  else if UrlPath.significant id = "." then .segment ""
  else .segment (UrlPath.significant id)

/-- What stands below the stem of a base. -/
def segments (kind : SchemeKind) : IdPlace → List String
  | .none => [screensSegment]
  | .up => [""]
  | .segment text => [screensSegment, Percent.encode (Url.segmentSet kind) text]

end IdPlace

/-- An id that is not read as a path, and of which no character is dropped. -/
structure IsPlainId (id : String) : Prop where
  notHere : id ≠ "."
  notUp : id ≠ ".."
  allCount : ∀ c ∈ id.toList, UrlPath.isIgnored c = false

namespace IdPlace

/-- The plain ids are those that come to a segment of their own. -/
theorem of_eq_segment_iff (id : String) : of id = .segment id ↔ IsPlainId id := by
  constructor
  · intro same
    unfold of at same
    split at same
    · cases same
    rename_i notDots
    obtain ⟨notHere, notUp⟩ := not_or.mp notDots
    split at same
    · cases same
    split at same
    · rename_i here
      obtain rfl : "" = id := IdPlace.segment.inj same
      exact absurd here (by decide)
    · exact ⟨notHere, notUp, (UrlPath.significant_eq_self_iff id).mp (IdPlace.segment.inj same)⟩
  · intro plain
    have own := (UrlPath.significant_eq_self_iff id).mpr plain.allCount
    rw [of, if_neg (not_or.mpr ⟨plain.notHere, plain.notUp⟩), own, if_neg plain.notUp,
      if_neg plain.notHere]

theorem settled_segments (kind : SchemeKind) (place : IdPlace) :
    UrlPath.Settled kind (place.segments kind) := by
  intro file empty
  cases place with
  | none => exact absurd (Option.some.inj empty) (by decide)
  | up => rfl
  | segment text => exact absurd (Option.some.inj empty) (by decide)

end IdPlace

/-! ### Addresses -/

namespace Url

variable {base : Url} {parts : List String}

theorem pushSegment_screens {kind : SchemeKind} (settled : UrlPath.Settled kind parts) :
    pushSegment kind (dropEmptyLast parts) screensSegment =
      UrlPath.stem parts ++ [screensSegment] := by
  have own : UrlPath.Settled kind [screensSegment] := IdPlace.settled_segments kind .none
  rw [pushSegment, if_neg (by decide)]
  change UrlPath.dropEmpty kind (UrlPath.add kind _ (UrlPath.stem parts) _ false) = _
  rw [UrlPath.add_screens, UrlPath.dropEmpty_of_settled (settled.stem_append own)]

/-- No drive is left by going up from the segment of all screens. -/
theorem shorten_screens (parts : List String) :
    UrlPath.shorten (parts ++ [screensSegment]) = parts := by
  have noDrive : UrlPath.startsWithDrive screensSegment.toList = false := rfl
  unfold UrlPath.shorten
  simp [noDrive]

theorem pushSegment_id {kind : SchemeKind} (settled : UrlPath.Settled kind parts) (id : String) :
    pushSegment kind (UrlPath.stem parts ++ [screensSegment]) id =
      UrlPath.stem parts ++ (IdPlace.of id).segments kind := by
  have own := settled.stem_append (IdPlace.settled_segments kind (IdPlace.of id))
  have notRoot : UrlPath.stem parts ++ [screensSegment] ≠ [""] := by
    intro root
    have last := congrArg List.getLast? root
    rw [List.getLast?_concat] at last
    exact absurd (Option.some.inj last) (by decide)
  by_cases dots : id = "." ∨ id = ".."
  · rw [pushSegment, if_pos dots, IdPlace.of, if_pos dots]
    rfl
  · have added : UrlPath.add kind (segmentSet kind) (UrlPath.stem parts ++ [screensSegment])
        id.toList false = UrlPath.stem parts ++ (IdPlace.of id).segments kind := by
      rw [UrlPath.add_below (Url.segmentSet_percent kind) (Url.segmentSet_dot kind) kind
        (by simp), shorten_screens, IdPlace.of, if_neg dots]
      split
      · rfl
      split
      · exact List.append_assoc _ _ _
      · exact List.append_assoc _ _ _
    rw [pushSegment, if_neg dots]
    dsimp only
    rw [if_neg notRoot, added, UrlPath.dropEmpty_of_settled own]

/-- The address of a screen is the base with another path. -/
theorem screen?_eq (path : base.path = .segments parts)
    (settled : UrlPath.Settled base.kind parts) (id : String) :
    base.screen? id =
      some { base with
        path := .segments (UrlPath.stem parts ++ (IdPlace.of id).segments base.kind) } := by
  unfold screen? push?
  rw [path]
  dsimp only [List.foldl]
  rw [pushSegment_screens settled, pushSegment_id settled]

/-- URLs that differ in their paths at most have the same text just when their paths do. -/
theorem text_path_eq_iff (base : Url) (p q : UrlPath) :
    text { base with path := p } = text { base with path := q } ↔ p.text = q.text := by
  unfold text
  dsimp only
  rw [String.append_left_inj, String.append_left_inj, String.append_right_inj]

end Url

namespace IdPlace

/-- Only a segment of its own is the encoding of an id below the screens. -/
theorem segments_eq_iff (kind : SchemeKind) (place : IdPlace) (id : String) :
    place.segments kind = [screensSegment, Percent.encode (Url.segmentSet kind) id] ↔
      place = .segment id := by
  constructor
  · intro same
    cases place with
    | none => cases congrArg List.length same
    | up => cases congrArg List.length same
    | segment text =>
        obtain ⟨encoded, -⟩ := List.cons.inj (List.cons.inj same).2
        rw [Percent.encode_injective (Url.segmentSet_percent kind) encoded]
  · rintro rfl
    rfl

/-- The text of what stands below the stem. -/
def text (kind : SchemeKind) (place : IdPlace) : String :=
  (UrlPath.segments (place.segments kind)).text

theorem text_segment (kind : SchemeKind) (s : String) :
    text kind (.segment s) = "/screens/" ++ Percent.encode (Url.segmentSet kind) s := by
  unfold text segments UrlPath.text
  simp only [List.map_cons, List.map_nil, String.join_cons, String.join_nil, String.append_empty,
    ← String.append_assoc]
  rfl

/-- What stands below the stem tells what the id has come to. -/
theorem text_injective (kind : SchemeKind) {p q : IdPlace} (same : text kind p = text kind q) :
    p = q := by
  have lengths := congrArg String.length same
  have screens : (text kind .none).length = 8 :=
    congrArg String.length (show text kind .none = "/screens" from rfl)
  have slash : (text kind .up).length = 1 :=
    congrArg String.length (show text kind .up = "/" from rfl)
  have below (s : String) : 9 ≤ (text kind (.segment s)).length := by
    have prefixed : "/screens/".length = 9 := rfl
    rw [text_segment, String.length_append, prefixed]
    exact Nat.le_add_right 9 _
  cases p with
  | none =>
      cases q with
      | none => rfl
      | up => omega
      | segment s =>
          have long := below s
          omega
  | up =>
      cases q with
      | none => omega
      | up => rfl
      | segment s =>
          have long := below s
          omega
  | segment s =>
      cases q with
      | none =>
          have long := below s
          omega
      | up =>
          have long := below s
          omega
      | segment t =>
          rw [text_segment, text_segment, String.append_right_inj] at same
          rw [Percent.encode_injective (Url.segmentSet_percent kind) same]

end IdPlace

namespace Url

variable {base : Url} {parts : List String}

/-- The addresses of two ids are the same just when the ids come to the same. -/
theorem text_screen?_eq_iff (path : base.path = .segments parts)
    (settled : UrlPath.Settled base.kind parts) (a b : String) :
    (base.screen? a).map text = (base.screen? b).map text ↔ IdPlace.of a = IdPlace.of b := by
  rw [screen?_eq path settled, screen?_eq path settled, Option.map_some, Option.map_some,
    Option.some_inj, text_path_eq_iff]
  constructor
  · intro same
    unfold UrlPath.text at same
    simp only [List.map_append, String.join_append, String.append_right_inj] at same
    exact IdPlace.text_injective base.kind same
  · intro same
    rw [same]

/-- An id is one segment of its own, below the path of the base, just when it is plain and that path
is not two slashes. -/
theorem segments_eq_iff (kind : SchemeKind) (parts : List String) (id : String) :
    UrlPath.stem parts ++ (IdPlace.of id).segments kind =
        UrlPath.trimmed parts ++ [screensSegment, Percent.encode (segmentSet kind) id] ↔
      IsPlainId id ∧ parts ≠ ["", ""] := by
  by_cases slashes : parts = ["", ""]
  · subst slashes
    refine iff_of_false (fun same => ?_) fun plain => plain.2 rfl
    -- Nothing is left of the two slashes, where one empty segment should be.
    have lengths := congrArg List.length same
    cases place : IdPlace.of id <;> rw [place] at lengths <;> cases lengths
  · rw [(UrlPath.stem_eq_trimmed_iff parts).mpr slashes, List.append_cancel_left_eq,
      IdPlace.segments_eq_iff, IdPlace.of_eq_segment_iff, and_iff_left slashes]

/-- The address of a screen tells plain ids apart.

Below any base that has a path, the address of a screen is the base with another path.  This is the
path of the base, less an empty last segment, then the segment of all screens and then the encoded
id, just when the id is plain and the path of the base is not two slashes.  An encoded id is decoded
to the id, and stays within its segment.  Two ids share an address just when they come to the same,
which two plain ids never do. -/
theorem plain_ids_have_own_addresses {raw : String} (read : parse raw = .ok base)
    (path : base.path = .segments parts) :
    (∀ id,
      let path' := UrlPath.stem parts ++ (IdPlace.of id).segments base.kind
      base.screen? id = some { base with path := .segments path' } ∧
        (path' = UrlPath.trimmed parts ++
            [screensSegment, Percent.encode (segmentSet base.kind) id] ↔
          IsPlainId id ∧ parts ≠ ["", ""])) ∧
    (∀ id, Percent.decode (Percent.encode (segmentSet base.kind) id) = some id ∧
      ∀ c ∈ (Percent.encode (segmentSet base.kind) id).toList,
        base.kind.isSeparator c = false ∧ c ≠ '?' ∧ c ≠ '#') ∧
    (∀ a b, (base.screen? a).map text = (base.screen? b).map text ↔
      IdPlace.of a = IdPlace.of b) ∧
    ∀ a b, IsPlainId a → IsPlainId b → (base.screen? a).map text = (base.screen? b).map text →
      a = b := by
  have settled := settled_of_parse read path
  have apart := text_screen?_eq_iff path settled
  refine ⟨fun id => ⟨screen?_eq path settled id, segments_eq_iff base.kind parts id⟩,
    fun id => ⟨?_, ?_⟩, apart, ?_⟩
  · exact Percent.decode_encode (Url.segmentSet_percent base.kind) id
  · exact ends_not_mem_encode base.kind id
  · intro a b plain plain' same
    have places := (apart a b).mp same
    rw [(IdPlace.of_eq_segment_iff a).mpr plain, (IdPlace.of_eq_segment_iff b).mpr plain'] at places
    exact IdPlace.segment.inj places

/-- A base with a path that ends with a slash, and with a query. -/
def loopback : Url where
  scheme := "http"
  authority := some { host := .address6 [0, 0, 0, 0, 0, 0, 0, 1], port := some 8000 }
  path := .segments ["ui", ""]
  query := some "v=2"
  fragment := none

/-- The encoded id stands below the screens of the base. -/
theorem loopback_addresses :
    parse "http://[::1]:8000/ui/?v=2" = .ok loopback ∧
      (loopback.screen? "a/b").map text = some "http://[::1]:8000/ui/screens/a%2Fb?v=2" ∧
      (loopback.screen? "a/b").map text ≠ (loopback.screen? "a").map text := by
  have read : parse "http://[::1]:8000/ui/?v=2" = .ok loopback := by rfl
  obtain ⟨-, -, apart, -⟩ := plain_ids_have_own_addresses read rfl
  refine ⟨read, by rfl, fun same => ?_⟩
  exact absurd ((apart "a/b" "a").mp same) (by decide)

/-- A tab in an id is lost, and neither one dot nor two lead anywhere. -/
theorem distinct_ids_share_address :
    ∃ base, parse "http://[::1]:8000" = .ok base ∧
      "a\tb" ≠ "ab" ∧ (base.screen? "a\tb").map text = some "http://[::1]:8000/screens/ab" ∧
      (base.screen? "ab").map text = some "http://[::1]:8000/screens/ab" ∧
      "." ≠ ".." ∧ (base.screen? ".").map text = some "http://[::1]:8000/screens" ∧
      (base.screen? "..").map text = some "http://[::1]:8000/screens" := by
  refine ⟨_, rfl, by decide, ?_, ?_, by decide, ?_, ?_⟩
  · rfl
  · rfl
  · rfl
  · rfl

end Url

end ServerDriven
