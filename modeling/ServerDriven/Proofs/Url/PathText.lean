/-
Module: ServerDriven.Proofs.Url.PathText
Purpose: Which segments of a path stay when more is written behind its text, and the slashes at the
  end of a text.
Main exports:
  withoutSlashes, slashesAtEnd, UrlPath.IsPlainSegment, UrlPath.held, Url.pathAfter_append_segments,
  Url.text_pathAfter
-/
import ServerDriven.Proofs.Url.Continued

namespace ServerDriven

/-! ### The slashes at the end of a text -/

/-- A text without the slashes at its end. -/
def withoutSlashes (s : String) : String := String.ofList (s.toList.rdropWhile (· == '/'))

/-- How many slashes stand at the end of a text. -/
def slashesAtEnd (s : String) : Nat := (s.toList.rtakeWhile (· == '/')).length

theorem toList_withoutSlashes (s : String) :
    (withoutSlashes s).toList = s.toList.rdropWhile (· == '/') :=
  String.toList_ofList

theorem toList_eq_append_slashes (s : String) :
    s.toList = (withoutSlashes s).toList ++ List.replicate (slashesAtEnd s) '/' := by
  have run : s.toList.rtakeWhile (· == '/') = List.replicate (slashesAtEnd s) '/' :=
    List.eq_replicate_of_mem fun c mem => by simpa using List.mem_rtakeWhile_imp mem
  rw [toList_withoutSlashes, ← run, List.rdropWhile_append_rtakeWhile]

theorem withoutSlashes_eq_self_iff (s : String) : withoutSlashes s = s ↔ slashesAtEnd s = 0 := by
  rw [← String.toList_inj, toList_withoutSlashes, List.rdropWhile_eq_self_iff, slashesAtEnd,
    List.length_eq_zero_iff, List.rtakeWhile_eq_nil_iff]

theorem slashesAtEnd_eq_zero_iff (s : String) :
    slashesAtEnd s = 0 ↔ ∀ c ∈ s.toList.getLast?, c ≠ '/' := by
  rw [slashesAtEnd, List.length_eq_zero_iff, List.rtakeWhile_eq_nil_iff]
  constructor
  · intro last c mem
    obtain ⟨some, rfl⟩ := List.mem_getLast?_eq_getLast mem
    simpa using last some
  · intro last some
    simpa using last _ (List.getLast_mem_getLast? some)

theorem append_slashes_succ (s : String) (n : Nat) :
    (s ++ String.ofList (List.replicate (n + 1) '/')).toList =
      (s ++ String.ofList (List.replicate n '/')).toList ++ ['/'] := by
  simp [List.replicate_succ', String.toList_append]

/-- Slashes that are written at the end of a text are added to those that are there. -/
theorem slashesAtEnd_append (s : String) (n : Nat) :
    slashesAtEnd (s ++ String.ofList (List.replicate n '/')) = slashesAtEnd s + n := by
  induction n with
  | zero => simp
  | succ n ih =>
      rw [slashesAtEnd, append_slashes_succ, List.rtakeWhile_concat_pos _ _ _ rfl,
        List.length_append, ← slashesAtEnd, ih, List.length_singleton, Nat.add_assoc]

theorem withoutSlashes_append (s : String) (n : Nat) :
    withoutSlashes (s ++ String.ofList (List.replicate n '/')) = withoutSlashes s := by
  induction n with
  | zero => simp
  | succ n ih =>
      rw [withoutSlashes, append_slashes_succ, List.rdropWhile_concat_pos _ _ _ rfl,
        ← withoutSlashes, ih]

/-! ### Encoded texts -/

namespace Percent

/-- An encoded text holds a slash only if the text does. -/
theorem slash_not_mem_encodeChars (set : Char → Bool) {cs : List Char} (absent : '/' ∉ cs) :
    '/' ∉ encodeChars set cs := by
  have noDigit : ∀ n < 16, hexDigit n ≠ '/' := by decide
  intro mem
  obtain ⟨c, inside, mem⟩ := List.mem_flatMap.mp mem
  unfold encodeChar at mem
  split at mem
  · obtain ⟨b, -, mem⟩ := List.mem_flatMap.mp mem
    have bound := b.toNat_lt
    simp only [encodeByte, List.mem_cons, List.not_mem_nil, or_false] at mem
    rcases mem with percent | high | low
    · exact absurd percent (by decide)
    · exact noDigit _ (by omega) high.symm
    · exact noDigit _ (by omega) low.symm
  · rw [← List.mem_singleton.mp mem] at inside
    exact absent inside

theorem encodeChars_eq_nil_iff (set : Char → Bool) (cs : List Char) :
    encodeChars set cs = [] ↔ cs = [] := by
  cases cs with
  | nil => simp [encodeChars]
  | cons c cs =>
      have some : encodeChar set c ≠ [] := by
        unfold encodeChar
        split
        · obtain ⟨b, bytes, some⟩ := List.exists_cons_of_ne_nil (List.ne_nil_of_length_pos
            (String.length_utf8EncodeChar c ▸ Char.utf8Size_pos c))
          simp [some, encodeByte]
        · simp
      simp [encodeChars, some]

end Percent

/-! ### Plain segments -/

theorem plain_of_isAlphanum {c : Char} (plain : c.isAlphanum = true) :
    Percent.inPath c = false ∧ UrlPath.isIgnored c = false ∧ Url.isEdge c = false ∧
      c ∉ ['/', '\\', '#', '?', '.', '%'] := by
  have all : ∀ n < 123, (Char.ofNat n).isAlphanum = true →
      Percent.inPath (Char.ofNat n) = false ∧ UrlPath.isIgnored (Char.ofNat n) = false ∧
        Url.isEdge (Char.ofNat n) = false ∧ Char.ofNat n ∉ ['/', '\\', '#', '?', '.', '%'] := by
    decide
  -- the last letters and the last digit bound the number of a character
  have bound : c.toNat ≤ 122 := by
    rcases (Bool.or_eq_true _ _).mp plain with letter | digit
    · rcases (Bool.or_eq_true _ _).mp letter with upper | lower
      · have most := (of_decide_eq_true upper).2
        exact (UInt32.le_iff_toNat_le.mp most).trans (by decide)
      · have most := of_decide_eq_true ((Bool.and_eq_true _ _).mp lower).2
        exact UInt32.le_iff_toNat_le.mp most
    · have most := of_decide_eq_true ((Bool.and_eq_true _ _).mp digit).2
      exact (UInt32.le_iff_toNat_le.mp most).trans (by decide)
  have same : Char.ofNat c.toNat = c := Char.ofNat_toNat c
  simpa only [same] using all c.toNat (by omega) (by rwa [same])

namespace UrlPath

/-- A segment that URLs keep as it is; it may be empty. -/
def IsPlainSegment (segment : String) : Prop := ∀ c ∈ segment.toList, c.isAlphanum = true

instance : DecidablePred IsPlainSegment := fun segment =>
  decidable_of_iff (segment.toList.all Char.isAlphanum = true) List.all_eq_true

section PlainSegments

variable {port : Nat} {segment : String} {segments : List String}

theorem encodeChars_plain (plain : IsPlainSegment segment) :
    String.ofList (Percent.encodeChars Percent.inPath
      (segment.toList.filter (!isIgnored ·))) = segment := by
  have all : segment.toList.filter (!isIgnored ·) = segment.toList :=
    List.filter_eq_self.mpr fun c mem => by simp [plain_of_isAlphanum (plain c mem)]
  rw [all]
  exact Percent.encode_eq_self fun c mem => (plain_of_isAlphanum (plain c mem)).1

theorem not_contains_of_plain (plain : IsPlainSegment segment) {spellings : List String}
    (signs : ∀ s ∈ spellings, ¬IsPlainSegment s) : spellings.contains segment = false := by
  rw [← Bool.not_eq_true, List.contains_iff_mem]
  exact fun mem => signs segment mem plain

/-- Every spelling of "here" and of "one level up" has a sign in it. -/
theorem not_dots_of_plain (plain : IsPlainSegment segment) :
    isDoubleDot segment = false ∧ isSingleDot segment = false :=
  ⟨not_contains_of_plain plain (by decide), not_contains_of_plain plain (by decide)⟩

theorem add_plain (port : Nat) (plain : IsPlainSegment segment) (parts : List String)
    (more : Bool) :
    add (.web port) Percent.inPath parts segment.toList more = parts ++ [segment] := by
  unfold add
  simp only [encodeChars_plain plain, not_dots_of_plain plain]
  simp [entersDrive]

theorem addAll_plain (plain : ∀ segment ∈ segments, IsPlainSegment segment)
    (parts : List String) :
    addAll (.web port) Percent.inPath parts (segments.map String.toList) = parts ++ segments := by
  induction segments generalizing parts with
  | nil => simp [addAll]
  | cons segment rest ih =>
      have own := add_plain port (plain segment List.mem_cons_self) parts
      cases rest with
      | nil =>
          exact own false
      | cons next rest =>
          have later := ih (fun s mem => plain s (List.mem_cons_of_mem _ mem)) (parts ++ [segment])
          rw [List.map_cons, List.map_cons, addAll, own true, ← List.map_cons, later]
          · simp
          · simp

end PlainSegments

/-! ### Paths that go on -/

theorem addAll_append (kind : SchemeKind) (set : Char → Bool) (parts : List String)
    (raws : List (List Char)) {later : List (List Char)} (some : later ≠ []) :
    addAll kind set parts (raws ++ later) =
      addAll kind set (raws.foldl (fun parts raw => add kind set parts raw true) parts) later := by
  induction raws generalizing parts with
  | nil => rfl
  | cons raw raws ih =>
      rw [List.cons_append, addAll, ih, List.foldl_cons]
      simp [some]

/-- The segments of a path that stay when more of the path is written behind its text. -/
def held (kind : SchemeKind) : List Char → List String
  | [] => []
  | _ :: rest => (Url.splitSegments kind rest).foldl
      (fun parts raw => add kind Percent.inPath parts raw true) []

theorem text_segments_append (parts more : List String) :
    (segments (parts ++ more)).text = (segments parts).text ++ (segments more).text := by
  simp only [text, List.map_append, String.join_append]

theorem text_segments_cons (part : String) (rest : List String) :
    (segments (part :: rest)).text = "/" ++ part ++ (segments rest).text := by
  simp only [text, List.map_cons, String.join_cons]

theorem dropEmpty_web (port : Nat) (parts : List String) :
    dropEmpty (.web port) parts = parts :=
  dropEmpty_of_settled fun file => by cases file

end UrlPath

namespace Url

section Continued

variable {port : Nat} {tail : List Char}

theorem not_isSeparator_of_plain {segment : String} (plain : UrlPath.IsPlainSegment segment)
    (kind : SchemeKind) : ∀ c ∈ segment.toList, kind.isSeparator c = false := by
  intro c mem
  have signs := (plain_of_isAlphanum (plain c mem)).2.2.2
  simp only [List.mem_cons, not_or] at signs
  simp [SchemeKind.isSeparator, signs]

/-- Plain segments, each after a slash, are the segments between the slashes. -/
theorem splitSegments_text {first : String} {rest : List String}
    (plain : ∀ segment ∈ first :: rest, UrlPath.IsPlainSegment segment) (kind : SchemeKind) :
    ∃ cs, (UrlPath.segments (first :: rest)).text.toList = '/' :: cs ∧
      splitSegments kind cs = (first :: rest).map String.toList := by
  induction rest generalizing first with
  | nil =>
      refine ⟨first.toList, ?_, ?_⟩
      · simp [UrlPath.text]
      · exact List.splitOnP_eq_singleton (not_isSeparator_of_plain (plain first (by simp)) kind)
  | cons next rest ih =>
      obtain ⟨cs, text, parts⟩ := ih fun segment mem => plain segment (List.mem_cons_of_mem _ mem)
      have whole := not_isSeparator_of_plain (plain first (by simp)) kind
      refine ⟨first.toList ++ '/' :: cs, ?_, ?_⟩
      · rw [UrlPath.text_segments_cons, String.toList_append, text]
        simp
      · rw [splitSegments, List.splitOnP_append_cons_of_forall_mem whole _ rfl, List.map_cons,
          ← parts]
        rfl

theorem pathAfter_cons {c : Char} (separates : (SchemeKind.web port).isSeparator c = true)
    (cs : List Char) :
    pathAfter (.web port) (c :: cs) =
      .segments (UrlPath.addAll (.web port) Percent.inPath [] (splitSegments (.web port) cs)) := by
  rw [pathAfter, UrlPath.ofSegments, UrlPath.dropEmpty_web, if_pos separates]

/-- Plain segments that are written behind the text of a path follow the segments that stay. -/
theorem pathAfter_append_segments (opens : Opens (.web port) tail) {segments : List String}
    (some : segments ≠ []) (plain : ∀ segment ∈ segments, UrlPath.IsPlainSegment segment) :
    pathAfter (.web port) (tail ++ (UrlPath.segments segments).text.toList) =
      .segments (UrlPath.held (.web port) tail ++ segments) := by
  obtain ⟨first, rest, rfl⟩ := List.exists_cons_of_ne_nil some
  obtain ⟨cs, text, parts⟩ := splitSegments_text plain (.web port)
  have slash : (SchemeKind.web port).isSeparator '/' = true := rfl
  rw [text]
  cases tail with
  | nil =>
      rw [List.nil_append, pathAfter_cons slash, parts, UrlPath.addAll_plain plain]
      rfl
  | cons c tail =>
      have split : splitSegments (.web port) (tail ++ '/' :: cs) =
          splitSegments (.web port) tail ++ splitSegments (.web port) cs :=
        List.splitOnP_append_cons _ _ slash
      rw [List.cons_append, pathAfter_cons (opens c rfl), split, parts,
        UrlPath.addAll_append _ _ _ _ (by simp), UrlPath.addAll_plain plain]
      rfl

/-- What stands behind the last separator of a path. -/
theorem exists_last (opens : Opens (.web port) tail) (some : tail ≠ []) :
    ∃ raws last, splitSegments (.web port) tail.tail = raws ++ [last] ∧ last <:+ tail ∧
      (∀ c ∈ last, (SchemeKind.web port).isSeparator c = false) ∧
      ((∀ c ∈ tail.getLast?, (SchemeKind.web port).isSeparator c = false) ↔ last ≠ []) := by
  let inSegment := fun c => !(SchemeKind.web port).isSeparator c
  have closed : ∀ c ∈ tail.rtakeWhile inSegment, (SchemeKind.web port).isSeparator c = false :=
    fun c mem => by simpa [inSegment] using List.mem_rtakeWhile_imp mem
  have parts := List.rdropWhile_append_rtakeWhile (p := inSegment) (l := tail)
  have begun : tail.rdropWhile inSegment ≠ [] := by
    rw [ne_eq, List.rdropWhile_eq_nil_iff]
    intro all
    have first := opens _ (List.head?_eq_some_head some)
    have inside := all _ (List.head_mem some)
    simp [inSegment, first] at inside
  have separates := List.rdropWhile_last_not inSegment tail begun
  obtain ⟨front, s, split⟩ := (List.eq_nil_or_concat _).resolve_left begun
  rw [List.concat_eq_append] at split
  simp only [split, List.getLast_append_singleton, inSegment, Bool.not_eq_true',
    Bool.not_eq_false] at separates
  generalize tail.rtakeWhile inSegment = last at closed parts
  rw [split, List.append_assoc, List.singleton_append] at parts
  have whole : splitSegments (.web port) last = [last] := List.splitOnP_eq_singleton closed
  subst parts
  refine ⟨if front = [] then [] else splitSegments (.web port) front.tail, last, ?_, ?_, closed, ?_⟩
  · cases front with
    | nil => exact whole
    | cons c front =>
        rw [if_neg (by simp), ← whole]
        exact List.splitOnP_append_cons front last separates
  · exact (List.suffix_cons s last).trans (List.suffix_append front _)
  · rw [List.getLast?_append_of_ne_nil _ (by simp)]
    cases last with
    | nil => simp [separates]
    | cons c last =>
        simp only [List.getLast?_cons_cons, ne_eq, reduceCtorEq, not_false_eq_true, iff_true]
        exact fun d mem => closed d (List.mem_of_getLast? mem)

/-- Whether a slash follows the last segment matters only for "here" and "one level up". -/
theorem add_last (port : Nat) (parts : List String) (raw : List Char) :
    (raw ≠ [] ∧ UrlPath.add (.web port) Percent.inPath parts raw false =
      UrlPath.add (.web port) Percent.inPath parts raw true ++ [""]) ∨
    ∀ more, UrlPath.add (.web port) Percent.inPath parts raw more =
      parts ++ [String.ofList (Percent.encodeChars Percent.inPath
        (raw.filter (!UrlPath.isIgnored ·)))] := by
  generalize encoded : String.ofList (Percent.encodeChars Percent.inPath
    (raw.filter (!UrlPath.isIgnored ·))) = segment
  have some : segment ≠ "" → raw ≠ [] := by
    rintro named rfl
    exact named encoded.symm
  have noDrive : UrlPath.entersDrive (.web port) parts raw = false := rfl
  unfold UrlPath.add
  simp only [encoded, reduceCtorEq, false_and, if_false, noDrive, Bool.false_eq_true]
  by_cases up : UrlPath.isDoubleDot segment = true
  · refine .inl ⟨some ?_, by simp [up]⟩
    rintro rfl
    exact absurd up (by decide)
  by_cases here : UrlPath.isSingleDot segment = true
  · refine .inl ⟨some ?_, by simp [up, here]⟩
    rintro rfl
    exact absurd here (by decide)
  · exact .inr fun more => by simp [up, here]

/-- A path ends in a slash exactly if its last segment is empty, where segments hold no slashes. -/
theorem slashesAtEnd_segments (parts : List String) {last : List Char} (whole : '/' ∉ last) :
    slashesAtEnd (UrlPath.segments (parts ++ [String.ofList last])).text = 0 ↔ last ≠ [] := by
  have text : (UrlPath.segments (parts ++ [String.ofList last])).text.toList =
      (UrlPath.segments parts).text.toList ++ ('/' :: last) := by
    rw [UrlPath.text_segments_append]
    simp [UrlPath.text]
  rw [slashesAtEnd_eq_zero_iff, text, List.getLast?_append_of_ne_nil _ (by simp)]
  cases last with
  | nil => simp
  | cons c last =>
      simp only [List.getLast?_cons_cons, ne_eq, reduceCtorEq, not_false_eq_true, iff_true]
      rintro d mem rfl
      exact whole (List.mem_of_getLast? mem)

/-- Without more behind it, a path ends in what stays, with a slash behind "here" and "one level
up" and where there is no path. -/
theorem text_pathAfter (opens : Opens (.web port) tail)
    (counts : ∀ c ∈ tail, UrlPath.isIgnored c = false) :
    let text := (UrlPath.segments (UrlPath.held (.web port) tail)).text
    let closed := ∀ c ∈ tail.getLast?, (SchemeKind.web port).isSeparator c = false
    (pathAfter (.web port) tail).text = text ++ "/" ∧ closed ∨
      (pathAfter (.web port) tail).text = text ∧ (slashesAtEnd text = 0 ↔ closed) := by
  cases tail with
  | nil =>
      exact .inl ⟨rfl, nofun⟩
  | cons c rest =>
      obtain ⟨raws, last, split, ending, whole, closed_iff⟩ := exists_last opens (by simp)
      rw [List.tail_cons] at split
      dsimp only
      rw [pathAfter_cons (opens c rfl), UrlPath.held, split, closed_iff,
        UrlPath.addAll_append _ _ _ _ (by simp), List.foldl_append]
      generalize raws.foldl (fun parts raw =>
        UrlPath.add (.web port) Percent.inPath parts raw true) [] = parts
      rcases add_last port parts last with ⟨some, dots⟩ | plain
      · refine .inl ⟨?_, some⟩
        rw [UrlPath.addAll, dots, UrlPath.text_segments_append]
        rfl
      · have kept : last.filter (!UrlPath.isIgnored ·) = last :=
          List.filter_eq_self.mpr fun d mem => by simp [counts d (ending.subset mem)]
        have slashless : '/' ∉ last := fun mem => Bool.false_ne_true (whole _ mem).symm
        refine .inr ⟨?_, ?_⟩
        · rw [UrlPath.addAll, plain, List.foldl_cons, List.foldl_nil, plain]
        · rw [List.foldl_cons, List.foldl_nil, plain, kept, slashesAtEnd_segments parts
            (Percent.slash_not_mem_encodeChars _ slashless), ne_eq,
            Percent.encodeChars_eq_nil_iff]

end Continued

end Url

end ServerDriven
