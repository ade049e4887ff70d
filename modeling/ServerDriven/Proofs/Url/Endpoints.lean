/-
Module: ServerDriven.Proofs.Url.Endpoints
Purpose: Where the endpoints of a workflow server are, for the base URLs that a configuration may
  hold.
Main exports:
  EndsVisibly, EndsPlainly, AddressedUnder, IsPlainBase, IsPathOf, addressed_iff_plain,
  Config.exists_base, Config.addresses_endpoints_of_plain_base
-/
import ServerDriven.Config
import ServerDriven.Http.Workflow
import ServerDriven.Proofs.Url.PathText

namespace ServerDriven

/-! ### The text of a base URL -/

/-- The last character of a text that counts for something in a URL. -/
def lastSignificant? (s : String) : Option Char := (Url.significant s.toList).getLast?

/-- A text whose end is neither a blank nor a control; tabs and line ends count for nothing. -/
def EndsVisibly (s : String) : Prop := ∀ c ∈ lastSignificant? s, Url.isEdge c = false

/-- A text that ends visibly, and in a separator only if that is a slash at its very end. -/
def EndsPlainly (s : String) : Prop :=
  ∀ c ∈ lastSignificant? s, Url.isEdge c = false ∧ c ≠ '\\' ∧ (c = '/' → slashesAtEnd s ≠ 0)

theorem endpoint_eq (base path : String) : endpoint base path = withoutSlashes base ++ path := rfl

section Stem

variable {raw scheme : String} {rest : List Char}

theorem significant_append (cs more : List Char) :
    Url.significant (cs ++ more) = Url.significant cs ++ Url.significant more :=
  List.filter_append ..

theorem significant_slashes (n : Nat) :
    Url.significant (List.replicate n '/') = List.replicate n '/' :=
  List.filter_eq_self.mpr fun c mem => by rw [List.eq_of_mem_replicate mem]; rfl

/-- Nothing that counts is trimmed from the end of a text that ends visibly. -/
theorem significant_eq_nil_of_visible (visible : EndsVisibly raw) {cs ending : List Char}
    (parts : raw.toList = cs ++ ending) (edges : ∀ c ∈ ending, Url.isEdge c = true) :
    Url.significant ending = [] := by
  by_contra some
  have last := List.getLast?_eq_some_getLast some
  have inside := List.mem_of_mem_filter (List.getLast_mem some)
  refine Bool.false_ne_true ((visible _ ?_).symm.trans (edges _ inside))
  rw [lastSignificant?, parts, significant_append, List.getLast?_append_of_ne_nil _ some, last]
  rfl

/-- Trimming a text that goes on. -/
theorem exists_edges {cs : List Char} (some : cs.dropWhile Url.isEdge ≠ []) (more : List Char) :
    ∃ edges, (∀ c ∈ edges, Url.isEdge c = true) ∧
      Url.trimmed (cs ++ more) ++ edges = cs.dropWhile Url.isEdge ++ more ∧
      ((∃ c ∈ more.getLast?, Url.isEdge c = false) → edges = []) := by
  have dropped : (cs ++ more).dropWhile Url.isEdge = cs.dropWhile Url.isEdge ++ more := by
    rw [List.dropWhile_append, if_neg (by simpa using some)]
  refine ⟨((cs ++ more).dropWhile Url.isEdge).rtakeWhile Url.isEdge,
    fun c mem => List.mem_rtakeWhile_imp mem, ?_, ?_⟩
  · rw [Url.trimmed, List.rdropWhile_append_rtakeWhile, dropped]
  · rintro ⟨c, last, visible⟩
    rw [dropped, List.rtakeWhile_eq_nil_iff]
    intro some' edge
    have same : (cs.dropWhile Url.isEdge ++ more).getLast? = Option.some c := by
      rw [List.getLast?_append, Option.mem_def.mp last, Option.some_or]
    rw [List.getLast?_eq_some_getLast some'] at same
    rw [Option.some.inj same, visible] at edge
    cases edge

/-- The scheme stands before the slashes at the end of a text, and what follows it goes on with
them. -/
theorem exists_stem_of_scheme {cs : List Char} {n : Nat}
    (named : Url.scheme? (Url.trimmed (cs ++ List.replicate n '/')) = some (scheme, rest)) :
    ∃ stem edges, stem <:+ cs ∧ cs.dropWhile Url.isEdge ≠ [] ∧
      Url.scheme? (cs.dropWhile Url.isEdge) = some (scheme, stem) ∧
      (∀ c ∈ edges, Url.isEdge c = true) ∧ stem ++ List.replicate n '/' = rest ++ edges := by
  have colon := Url.mem_of_scheme? named
  have noColon : ':' ∉ List.replicate n '/' := fun mem =>
    absurd (List.eq_of_mem_replicate mem) (by decide)
  -- the colon stands before the slashes, so that trimming stops there
  have some : cs.dropWhile Url.isEdge ≠ [] := by
    intro none
    rw [Url.trimmed, List.dropWhile_append, none] at colon
    exact noColon ((List.dropWhile_sublist _).subset ((List.rdropWhile_prefix _ _).subset colon))
  obtain ⟨edges, all, ended, -⟩ := exists_edges some (List.replicate n '/')
  have longer : Url.scheme? (cs.dropWhile Url.isEdge ++ List.replicate n '/') =
      Option.some (scheme, rest ++ edges) := by
    rw [← ended, Url.scheme?_append_of_mem colon, named]
    rfl
  have before : ':' ∈ cs.dropWhile Url.isEdge :=
    (List.mem_append.mp (Url.mem_of_scheme? longer)).resolve_right noColon
  rw [Url.scheme?_append_of_mem before] at longer
  obtain ⟨⟨_, stem⟩, own, same⟩ := Option.map_eq_some_iff.mp longer
  simp only [Prod.mk.injEq] at same
  obtain ⟨rfl, same⟩ := same
  exact ⟨stem, edges, (Url.suffix_of_scheme? own).trans (List.dropWhile_suffix _), some, own, all,
    same⟩

/-- The text of an endpoint goes on where the base without its slashes ends, and so does the text
of the base. -/
theorem exists_stem (named : Url.scheme? (Url.trimmed raw.toList) = some (scheme, rest))
    (visible : EndsVisibly raw) :
    ∃ front stem, Url.significant raw.toList =
        front ++ (Url.significant stem ++ List.replicate (slashesAtEnd raw) '/') ∧
      Url.significant rest = Url.significant stem ++ List.replicate (slashesAtEnd raw) '/' ∧
      ∀ path : String, (∃ c ∈ path.toList.getLast?, Url.isEdge c = false) →
        Url.scheme? (Url.trimmed (endpoint raw path).toList) =
          some (scheme, stem ++ path.toList) := by
  have parts := toList_eq_append_slashes raw
  rw [parts] at named
  obtain ⟨stem, edges, ⟨front, split⟩, some, own, all, same⟩ := exists_stem_of_scheme named
  have whole : raw.toList = front ++ (stem ++ List.replicate (slashesAtEnd raw) '/') := by
    rw [← List.append_assoc, split, ← parts]
  have ending : raw.toList = front ++ rest ++ edges := by
    rw [whole, same, List.append_assoc]
  have gone : Url.significant edges = [] := significant_eq_nil_of_visible visible ending all
  refine ⟨Url.significant front, stem, ?_, ?_, ?_⟩
  · rw [whole, significant_append, significant_append stem, significant_slashes]
  · rw [← List.append_nil (Url.significant rest), ← gone, ← significant_append, ← same,
      significant_append, significant_slashes]
  · intro path visible
    obtain ⟨_, -, ended, none⟩ := exists_edges some path.toList
    rw [none visible, List.append_nil] at ended
    rw [endpoint_eq, String.toList_append, ended,
      Url.scheme?_append_of_mem (Url.mem_of_scheme? own), own]
    rfl

end Stem

/-! ### Base URLs and their endpoints -/

/-- The server that a URL names: its host, and its port unless that is the scheme's own. -/
def Url.server? (url : Url) : Option (Host × Option Nat) :=
  url.authority.map fun a => (a.host, a.port)

/-- Whether requests for an endpoint go to a place under a base URL: what they are sent to is a URL
with the scheme and the server of the base, and its path is the base's path without slashes at the
end, and then the path of the endpoint. -/
def AddressedUnder (raw : String) (base : Url) (path : String) : Prop :=
  ∃ url, Url.parse (endpoint raw path) = .ok url ∧ url.scheme = base.scheme ∧
    url.server? = base.server? ∧ url.path.text = withoutSlashes base.path.text ++ path

/-- A base URL, with its text, that ends where its path ends, but for slashes that the text ends
in. -/
structure IsPlainBase (raw : String) (base : Url) : Prop where
  noQuery : base.query = none
  noFragment : base.fragment = none
  ending : EndsPlainly raw
  /-- The path ends in no more slashes than the text, or in one for a path that is empty or ends in
  dots. -/
  slashes : slashesAtEnd base.path.text ≤ max (slashesAtEnd raw) 1

/-- The text of the path of a base URL, less its slashes, as far as it tells what endpoints come
to. -/
structure IsPathOf (raw : String) (base : Url) (port : Nat) (tail : List Char) : Prop where
  opens : Url.Opens (.web port) tail
  counts : ∀ c ∈ tail, UrlPath.isIgnored c = false
  path : base.path = Url.pathAfter (.web port) (tail ++ List.replicate (slashesAtEnd raw) '/')
  ending : slashesAtEnd raw = 0 →
    ((∀ c ∈ tail.getLast?, (SchemeKind.web port).isSeparator c = false) ↔
      ∀ c ∈ lastSignificant? raw, (SchemeKind.web port).isSeparator c = false)
  endpoint : ∀ segments : List String, segments ≠ [] →
    (∀ segment ∈ segments, UrlPath.IsPlainSegment segment) →
    Url.parse (endpoint raw (UrlPath.segments segments).text) =
      .ok { base with path := .segments (UrlPath.held (.web port) tail ++ segments) }

section Base

variable {raw : String} {base : Url} {port : Nat} {tail : List Char} {segments : List String}

theorem slash_or_plain (plain : ∀ segment ∈ segments, UrlPath.IsPlainSegment segment) :
    ∀ c ∈ (UrlPath.segments segments).text.toList, c = '/' ∨ c.isAlphanum = true := by
  induction segments with
  | nil => nofun
  | cons first rest ih =>
      intro c mem
      rw [UrlPath.text_segments_cons, String.toList_append, String.toList_append,
        List.mem_append, List.mem_append] at mem
      rcases mem with (slash | own) | later
      · exact .inl (List.mem_singleton.mp slash)
      · exact .inr (plain first List.mem_cons_self c own)
      · exact ih (fun s mem => plain s (List.mem_cons_of_mem _ mem)) c later

/-- Every character of plain segments and the slashes before them counts, wherever they stand. -/
theorem visible_of_plain (plain : ∀ segment ∈ segments, UrlPath.IsPlainSegment segment) :
    ∀ c ∈ (UrlPath.segments segments).text.toList,
      UrlPath.isIgnored c = false ∧ Url.isEdge c = false := by
  intro c mem
  rcases slash_or_plain plain c mem with rfl | plain
  · decide
  · exact ⟨(plain_of_isAlphanum plain).2.1, (plain_of_isAlphanum plain).2.2.1⟩

theorem isPathText_of_plain (port : Nat)
    (plain : ∀ segment ∈ segments, UrlPath.IsPlainSegment segment) :
    Url.IsPathText (.web port) (UrlPath.segments segments).text.toList := by
  refine ⟨fun c first => ?_, fun mem => ?_, fun mem => ?_⟩
  · cases segments with
    | nil => cases first
    | cons name rest =>
        rw [UrlPath.text_segments_cons, String.toList_append, String.toList_append] at first
        cases first
        rfl
  · exact absurd (slash_or_plain plain _ mem) (by decide)
  · exact absurd (slash_or_plain plain _ mem) (by decide)

/-- Empty segments are written as slashes. -/
theorem text_empty_segments (n : Nat) :
    (UrlPath.segments (List.replicate n "")).text = String.ofList (List.replicate n '/') := by
  induction n with
  | zero => rfl
  | succ n ih =>
      rw [List.replicate_succ, UrlPath.text_segments_cons, ih, List.replicate_succ,
        ← String.toList_inj]
      simp

theorem plain_of_mem_replicate {n : Nat} :
    ∀ segment ∈ List.replicate n "", UrlPath.IsPlainSegment segment := by
  intro segment mem
  rw [List.eq_of_mem_replicate mem]
  nofun

/-- The text of the base and the texts of the endpoints are read from one stem. -/
theorem exists_web_stem (read : Url.parse raw = .ok base)
    (web : SchemeKind.ofScheme base.scheme = .web port) (visible : EndsVisibly raw) :
    ∃ front stem, Url.significant raw.toList =
        front ++ (stem ++ List.replicate (slashesAtEnd raw) '/') ∧
      Url.ofWeb base.scheme (stem ++ List.replicate (slashesAtEnd raw) '/') = .ok base ∧
      (∀ c ∈ stem, UrlPath.isIgnored c = false) ∧
      ∀ segments : List String, segments ≠ [] →
        (∀ segment ∈ segments, UrlPath.IsPlainSegment segment) →
        Url.parse (endpoint raw (UrlPath.segments segments).text) =
          Url.ofWeb base.scheme (stem ++ (UrlPath.segments segments).text.toList) := by
  obtain ⟨rest, named⟩ := Url.exists_scheme read
  obtain ⟨front, stem, whole, own, other⟩ := exists_stem named visible
  refine ⟨front, Url.significant stem, whole, ?_, ?_, ?_⟩
  · rw [← own, ← Url.parse_eq_ofWeb web named, read]
  · intro c mem
    simpa using List.of_mem_filter mem
  · intro segments some plain
    have kept : Url.significant (UrlPath.segments segments).text.toList =
        (UrlPath.segments segments).text.toList :=
      List.filter_eq_self.mpr fun c mem => by simp [(visible_of_plain plain c mem).1]
    have text : (UrlPath.segments segments).text.toList ≠ [] := by
      obtain ⟨first, rest, rfl⟩ := List.exists_cons_of_ne_nil some
      simp [UrlPath.text_segments_cons]
    rw [Url.parse_eq_ofWeb web (other _ ⟨_, List.getLast?_eq_some_getLast text,
      (visible_of_plain plain _ (List.getLast_mem text)).2⟩), significant_append, kept]

/-- Without a query and a fragment, the path of the base goes on at every endpoint. -/
theorem exists_path (read : Url.parse raw = .ok base)
    (web : SchemeKind.ofScheme base.scheme = .web port) (visible : EndsVisibly raw)
    (noQuery : base.query = none) (noFragment : base.fragment = none) :
    ∃ tail, IsPathOf raw base port tail := by
  obtain ⟨front, stem, whole, own, counts, other⟩ := exists_web_stem read web visible
  have unmarked := (Url.unmarked_iff own).mp ⟨noQuery, noFragment⟩
  simp only [List.mem_append, not_or] at unmarked
  have slashes : ∀ c ∈ List.replicate (slashesAtEnd raw) '/',
      (SchemeKind.web port).isSeparator c = true := fun c mem => by
    rw [List.eq_of_mem_replicate mem]
    rfl
  have text : Url.IsPathText (.web port) (List.replicate (slashesAtEnd raw) '/') := by
    have empty := isPathText_of_plain port (plain_of_mem_replicate (n := slashesAtEnd raw))
    rwa [text_empty_segments, String.toList_ofList] at empty
  obtain ⟨tail, suffix, opens, closed, goesOn⟩ :=
    Url.ofWeb_append web own slashes unmarked.1.1 unmarked.2.1
  refine ⟨tail, opens, fun c mem => counts c (suffix.subset mem), ?_, ?_, ?_⟩
  · exact congrArg Url.path (Except.ok.inj (own.symm.trans (goesOn _ text)))
  · intro none
    rw [lastSignificant?, whole, none, List.replicate_zero, List.append_nil]
    cases tail with
    | nil =>
        obtain ⟨c, last, named⟩ := closed rfl
        have some : stem ≠ [] := by
          rintro rfl
          cases last
        rw [List.getLast?_append_of_ne_nil _ some, Option.mem_def.mp last]
        simp [named]
    | cons c tail =>
        obtain ⟨before, rfl⟩ := suffix
        rw [← List.append_assoc, List.getLast?_append_of_ne_nil _ (by simp)]
  · intro segments some plain
    rw [other segments some plain, goesOn _ (isPathText_of_plain port plain),
      Url.pathAfter_append_segments opens some plain]

/-- A text that ends in slashes ends in what counts. -/
theorem lastSignificant?_of_slashes (some : slashesAtEnd raw ≠ 0) :
    lastSignificant? raw = Option.some '/' := by
  rw [lastSignificant?, toList_eq_append_slashes raw, significant_append, significant_slashes,
    List.getLast?_append_of_ne_nil _ (by simpa using some), List.getLast?_replicate, if_neg some]

theorem eq_withoutSlashes_iff (s : String) (n : Nat) :
    s = withoutSlashes (s ++ String.ofList (List.replicate n '/')) ↔ slashesAtEnd s = 0 := by
  rw [withoutSlashes_append, eq_comm, withoutSlashes_eq_self_iff]

namespace IsPathOf

/-- If the text of the base ends in no slash, its path ends in what endpoints go on from, or in one
slash more. -/
theorem eq_iff_of_no_slash (path : IsPathOf raw base port tail) (visible : EndsVisibly raw)
    (none : slashesAtEnd raw = 0) :
    (UrlPath.segments (UrlPath.held (.web port) tail)).text = withoutSlashes base.path.text ↔
      EndsPlainly raw ∧ slashesAtEnd base.path.text ≤ 1 := by
  have own := path.path
  rw [none, List.replicate_zero, List.append_nil] at own
  have open_iff : EndsPlainly raw ↔
      ∀ c ∈ tail.getLast?, (SchemeKind.web port).isSeparator c = false := by
    rw [path.ending none]
    refine forall₂_congr fun c last => ?_
    have special : (SchemeKind.web port).isSpecial = true := rfl
    simp [visible c last, none, SchemeKind.isSeparator, special, and_comm]
  rw [open_iff, own]
  rcases Url.text_pathAfter path.opens path.counts with ⟨text, closed⟩ | ⟨text, closed⟩
  · have slash : "/" = String.ofList (List.replicate 1 '/') := rfl
    rw [text, slash, eq_withoutSlashes_iff, slashesAtEnd_append]
    constructor
    · intro ended
      exact ⟨closed, by omega⟩
    · rintro ⟨-, bound⟩
      omega
  · rw [text, eq_comm, withoutSlashes_eq_self_iff, closed]
    constructor
    · intro open'
      exact ⟨open', by rw [closed.mpr open']; omega⟩
    · exact And.left

/-- If the text of the base ends in slashes, its path ends in what endpoints go on from and in these
slashes. -/
theorem eq_iff_of_slashes (path : IsPathOf raw base port tail) (some : slashesAtEnd raw ≠ 0) :
    (UrlPath.segments (UrlPath.held (.web port) tail)).text = withoutSlashes base.path.text ↔
      slashesAtEnd base.path.text ≤ slashesAtEnd raw := by
  have text : base.path.text = (UrlPath.segments (UrlPath.held (.web port) tail)).text ++
      String.ofList (List.replicate (slashesAtEnd raw) '/') := by
    have slashes := Url.pathAfter_append_segments path.opens (by simpa using some)
      (plain_of_mem_replicate (n := slashesAtEnd raw))
    rw [text_empty_segments, String.toList_ofList] at slashes
    rw [path.path, slashes, UrlPath.text_segments_append, text_empty_segments]
  rw [text, eq_withoutSlashes_iff, slashesAtEnd_append]
  omega

/-- The path of a base ends in what its endpoints go on from, exactly if the base is plain. -/
theorem eq_iff (path : IsPathOf raw base port tail) (visible : EndsVisibly raw) :
    (UrlPath.segments (UrlPath.held (.web port) tail)).text = withoutSlashes base.path.text ↔
      EndsPlainly raw ∧ slashesAtEnd base.path.text ≤ max (slashesAtEnd raw) 1 := by
  by_cases none : slashesAtEnd raw = 0
  · rw [path.eq_iff_of_no_slash visible none, none, Nat.zero_max]
  · have ending : EndsPlainly raw := by
      intro c last
      cases (lastSignificant?_of_slashes none).symm.trans last
      exact ⟨rfl, by decide, fun _ => none⟩
    rw [path.eq_iff_of_slashes none, max_eq_left (by omega), and_iff_right ending]

end IsPathOf

/-- Endpoints are found under a base exactly if its path ends in what they go on from. -/
theorem addressed_iff_eq (path : IsPathOf raw base port tail) (some : segments ≠ [])
    (plain : ∀ segment ∈ segments, UrlPath.IsPlainSegment segment) :
    AddressedUnder raw base (UrlPath.segments segments).text ↔
      (UrlPath.segments (UrlPath.held (.web port) tail)).text = withoutSlashes base.path.text := by
  have read := path.endpoint segments some plain
  constructor
  · rintro ⟨url, read', -, -, text⟩
    cases read.symm.trans read'
    rw [UrlPath.text_segments_append] at text
    exact (String.append_left_inj _).mp text
  · intro text
    refine ⟨_, read, rfl, rfl, ?_⟩
    rw [UrlPath.text_segments_append, text]

theorem text_ne_slashes (some : segments ≠ [])
    (plain : ∀ segment ∈ segments, UrlPath.IsPlainSegment segment) (named : "" ∉ segments)
    (n : Nat) : (UrlPath.segments segments).text.toList ≠ List.replicate n '/' := by
  intro slashes
  obtain ⟨first, rest, rfl⟩ := List.exists_cons_of_ne_nil some
  obtain ⟨c, cs, first_eq⟩ : ∃ c cs, first.toList = c :: cs :=
    List.exists_cons_of_ne_nil fun none => named (by simp [String.toList_eq_nil_iff.mp none])
  have inside : c ∈ List.replicate n '/' := by
    rw [← slashes, UrlPath.text_segments_cons, String.toList_append, String.toList_append, first_eq]
    simp
  have alone := plain first List.mem_cons_self c (by simp [first_eq])
  rw [List.eq_of_mem_replicate inside] at alone
  exact absurd alone (by decide)

/-- Below a query or a fragment there are no endpoints. -/
theorem not_addressed_of_marked (read : Url.parse raw = .ok base)
    (web : SchemeKind.ofScheme base.scheme = .web port) (visible : EndsVisibly raw)
    (marked : ¬(base.query = none ∧ base.fragment = none)) (some : segments ≠ [])
    (plain : ∀ segment ∈ segments, UrlPath.IsPlainSegment segment) (named : "" ∉ segments) :
    ¬AddressedUnder raw base (UrlPath.segments segments).text := by
  obtain ⟨front, stem, -, own, -, other⟩ := exists_web_stem read web visible
  have noHash : '#' ∉ List.replicate (slashesAtEnd raw) '/' := fun mem =>
    absurd (List.eq_of_mem_replicate mem) (by decide)
  have noMark : '?' ∉ List.replicate (slashesAtEnd raw) '/' := fun mem =>
    absurd (List.eq_of_mem_replicate mem) (by decide)
  have marked' : '#' ∈ stem ∨ '?' ∈ stem := by
    by_contra unmarked
    rw [not_or] at unmarked
    exact marked ((Url.unmarked_iff own).mpr
      ⟨by simp [unmarked, noHash], by simp [unmarked, noMark]⟩)
  obtain ⟨url, read', same⟩ := Url.path_of_marked web own noHash marked'
    (isPathText_of_plain port plain).unmarked.1
  rintro ⟨url', read'', -, -, text⟩
  rw [other segments some plain, read'] at read''
  cases read''
  -- the path of the base would have to end in the path of the endpoint instead of slashes
  have twice := congrArg String.toList text
  rw [same, String.toList_append, toList_eq_append_slashes base.path.text,
    List.append_cancel_left_eq] at twice
  exact text_ne_slashes some plain named _ twice.symm

/-- An endpoint is found under a plain base.  Under other bases that end visibly it is not. -/
theorem addressed_iff_plain (read : Url.parse raw = .ok base)
    (web : SchemeKind.ofScheme base.scheme = .web port) (visible : EndsVisibly raw)
    (some : segments ≠ []) (plain : ∀ segment ∈ segments, UrlPath.IsPlainSegment segment)
    (named : "" ∉ segments) :
    AddressedUnder raw base (UrlPath.segments segments).text ↔ IsPlainBase raw base := by
  by_cases unmarked : base.query = none ∧ base.fragment = none
  · obtain ⟨tail, path⟩ := exists_path read web visible unmarked.1 unmarked.2
    rw [addressed_iff_eq path some plain, path.eq_iff visible]
    constructor
    · rintro ⟨ending, slashes⟩
      exact ⟨unmarked.1, unmarked.2, ending, slashes⟩
    · intro plain
      exact ⟨plain.ending, plain.slashes⟩
  · refine iff_of_false (not_addressed_of_marked read web visible unmarked some plain named) ?_
    intro plain
    exact unmarked ⟨plain.noQuery, plain.noFragment⟩

end Base

/-! ### The endpoints of a configuration -/

/-- The paths of the endpoints are made of plain segments. -/
theorem exists_segments {path : String} (known : path ∈ [savePath, executePath, healthPath]) :
    ∃ segments : List String, path = (UrlPath.segments segments).text ∧ segments ≠ [] ∧
      (∀ segment ∈ segments, UrlPath.IsPlainSegment segment) ∧ "" ∉ segments := by
  simp only [List.mem_cons, List.not_mem_nil, or_false] at known
  rcases known with rfl | rfl | rfl
  · exact ⟨["workflow", "save"], by decide⟩
  · exact ⟨["client", "workflow"], by decide⟩
  · exact ⟨["healthcheck"], by decide⟩

namespace Config

variable {lookup : String → Option String} {config : Config}

theorem exists_url_of_checked {raw : String} (checked : checkServerUrl raw = .ok ()) :
    ∃ url, Url.parse raw = .ok url ∧ (url.scheme = "http" ∨ url.scheme = "https") := by
  unfold checkServerUrl at checked
  cases read : Url.parse raw with
  | error cause =>
      rw [read] at checked
      cases checked
  | ok url =>
      rw [read] at checked
      refine ⟨url, rfl, ?_⟩
      by_contra other
      dsimp only at checked
      rw [if_neg other] at checked
      cases checked

theorem checked_of_serverUrl {setting default raw : String}
    (found : serverUrl lookup setting default = .ok raw) : checkServerUrl raw = .ok () := by
  unfold serverUrl at found
  dsimp only at found
  split at found
  · rename_i checked
    cases found
    exact checked
  · cases found

/-- The base URL of a configuration is the URL of a server that speaks HTTP. -/
theorem exists_base (loaded : load lookup = .ok config) :
    ∃ base, Url.parse config.baseUrl = .ok base ∧
      (base.scheme = "http" ∨ base.scheme = "https") := by
  have found : serverUrl lookup baseUrlSetting defaultBaseUrl = .ok config.baseUrl := by
    unfold load at loaded
    dsimp only [bind, Except.bind] at loaded
    split at loaded
    · cases loaded
    split at loaded
    · cases loaded
    · rename_i found _ _ _
      cases loaded
      exact found
  exact exists_url_of_checked (checked_of_serverUrl found)

/-- The endpoints of the workflow server are found under every base URL of a configuration that is
plain.  If the text of the base URL ends neither in a blank nor in a control, they are found under
it only then. -/
theorem addresses_endpoints_of_plain_base (loaded : load lookup = .ok config) :
    ∃ base, Url.parse config.baseUrl = .ok base ∧
      (base.scheme = "http" ∨ base.scheme = "https") ∧
      ∀ path ∈ [savePath, executePath, healthPath],
        (IsPlainBase config.baseUrl base → AddressedUnder config.baseUrl base path) ∧
        (EndsVisibly config.baseUrl → AddressedUnder config.baseUrl base path →
          IsPlainBase config.baseUrl base) := by
  obtain ⟨base, read, served⟩ := exists_base loaded
  obtain ⟨port, web⟩ : ∃ port, SchemeKind.ofScheme base.scheme = .web port := by
    rcases served with same | same
    · exact ⟨80, by rw [same]; rfl⟩
    · exact ⟨443, by rw [same]; rfl⟩
  refine ⟨base, read, served, fun path known => ?_⟩
  obtain ⟨segments, rfl, some, plain, named⟩ := exists_segments known
  have iff := fun visible => addressed_iff_plain read web visible some plain named
  exact ⟨fun plain => (iff fun c last => (plain.ending c last).1).mpr plain,
    fun visible => (iff visible).mp⟩

/-- The settings in which only the base URL is given. -/
def onlyBaseUrl (raw : String) (setting : String) : Option String :=
  if setting = baseUrlSetting then some raw else none

/-- A base URL with a path of its own and a slash behind it. -/
theorem loopback_base_addresses_endpoints :
    ∃ config base, load (onlyBaseUrl "http://[::1]:9/api/") = .ok config ∧
      Url.parse config.baseUrl = .ok base ∧
      ∀ path ∈ [savePath, executePath, healthPath], AddressedUnder config.baseUrl base path := by
  have loaded : load (onlyBaseUrl "http://[::1]:9/api/") = .ok _ := rfl
  obtain ⟨base, read, -, each⟩ := addresses_endpoints_of_plain_base loaded
  refine ⟨_, base, loaded, read, fun path known => (each path known).1 ?_⟩
  have own : Url.parse "http://[::1]:9/api/" = .ok _ := rfl
  cases own.symm.trans read
  refine ⟨rfl, rfl, ?_, by decide⟩
  intro c last
  have slash : lastSignificant? "http://[::1]:9/api/" = some '/' := rfl
  cases slash.symm.trans last
  decide

/-- Behind a query, the path of an endpoint becomes a part of the query; behind a port and a blank,
it leaves no URL at all. -/
theorem accepted_bases_hide_endpoints :
    (∃ config base, load (onlyBaseUrl "http://[::1]:9/?v=2") = .ok config ∧
      Url.parse config.baseUrl = .ok base ∧
      Url.parse (endpoint config.baseUrl healthPath) =
        .ok { base with query := some "v=2/healthcheck" } ∧
      ¬AddressedUnder config.baseUrl base healthPath) ∧
    ∃ config, load (onlyBaseUrl "http://[::1]:9 ") = .ok config ∧
      Url.parse (endpoint config.baseUrl healthPath) = .error .invalidPort := by
  refine ⟨⟨_, _, rfl, rfl, rfl, ?_⟩, _, rfl, rfl⟩
  rintro ⟨url, read, -, -, text⟩
  have own : Url.parse (endpoint "http://[::1]:9/?v=2" healthPath) = .ok _ := rfl
  cases own.symm.trans read
  exact absurd text (by decide)

end Config

end ServerDriven
