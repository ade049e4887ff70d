/-
Module: ServerDriven.Proofs.Url.Continued
Purpose: What the text of a URL of the web comes to when more of a path is written after it.
Main exports:
  Url.ofWeb, Url.parse_eq_ofWeb, UrlPath.Opens, Url.ofWeb_append, UrlPath.held,
  Url.pathAfter_slash, UrlPath.text_pathAfter
-/
import Mathlib.Data.List.DropRight
import Mathlib.Data.List.TakeDrop
import ServerDriven.Proofs.Url.OneSegment

namespace ServerDriven

namespace Url

/-! ### Splitting a text that goes on -/

section Splitting

variable {c : Char} {cs before after : List Char}

theorem splitAtFirst_of_not_mem (absent : c ∉ cs) : splitAtFirst c cs = (cs, none) := by
  have all : ∀ d ∈ cs, (d != c) = true := fun d mem =>
    bne_iff_ne.mpr fun same => absent (same ▸ mem)
  rw [splitAtFirst, List.span_eq_takeWhile_dropWhile, List.takeWhile_eq_self_iff.mpr all,
    List.dropWhile_eq_nil_iff.mpr all]

theorem splitAtFirst_of_append (absent : c ∉ before) :
    splitAtFirst c (before ++ c :: after) = (before, some after) := by
  have all : ∀ d ∈ before, (d != c) = true := fun d mem =>
    bne_iff_ne.mpr fun same => absent (same ▸ mem)
  rw [splitAtFirst, List.span_eq_takeWhile_dropWhile, List.takeWhile_append_of_pos all,
    List.dropWhile_append_of_pos all]
  simp

/-- Where a text is split does not change when it goes on behind the place. -/
theorem splitAtFirst_append_of_mem (present : c ∈ cs) (more : List Char) :
    splitAtFirst c (cs ++ more) =
      ((splitAtFirst c cs).1, (splitAtFirst c cs).2.map (· ++ more)) := by
  obtain ⟨before, after, rfl, absent⟩ := List.eq_append_cons_of_mem present
  rw [List.append_assoc, List.cons_append, splitAtFirst_of_append absent,
    splitAtFirst_of_append absent]
  rfl

theorem splitAtFirst_isSome_iff : (splitAtFirst c cs).2.isSome = true ↔ c ∈ cs := by
  by_cases present : c ∈ cs
  · obtain ⟨before, after, rfl, absent⟩ := List.eq_append_cons_of_mem present
    simp [splitAtFirst_of_append absent]
  · simp [splitAtFirst_of_not_mem present, present]

/-- A text can be split before or after characters are left out. -/
theorem splitAtFirst_filter {p : Char → Bool} (kept : p c = true) (cs : List Char) :
    splitAtFirst c (cs.filter p) =
      ((splitAtFirst c cs).1.filter p, (splitAtFirst c cs).2.map (·.filter p)) := by
  by_cases present : c ∈ cs
  · obtain ⟨before, after, rfl, absent⟩ := List.eq_append_cons_of_mem present
    have absent' : c ∉ before.filter p := fun mem => absent (List.mem_of_mem_filter mem)
    rw [List.filter_append, List.filter_cons_of_pos kept, splitAtFirst_of_append absent',
      splitAtFirst_of_append absent]
    rfl
  · have absent' : c ∉ cs.filter p := fun mem => present (List.mem_of_mem_filter mem)
    rw [splitAtFirst_of_not_mem absent', splitAtFirst_of_not_mem present]
    rfl

theorem mem_of_mem_splitAtFirst {d : Char} (mem : d ∈ (splitAtFirst c cs).1) : d ∈ cs := by
  by_cases present : c ∈ cs
  · obtain ⟨before, after, rfl, absent⟩ := List.eq_append_cons_of_mem present
    rw [splitAtFirst_of_append absent] at mem
    exact List.mem_append_left _ mem
  · rwa [splitAtFirst_of_not_mem present] at mem

theorem mem_of_mem_splitAtLast {d : Char} (mem : d ∈ (splitAtLast c cs).2) : d ∈ cs := by
  unfold splitAtLast at mem
  split at mem
  · rename_i after before split
    have inside : d ∈ (splitAtFirst c cs.reverse).1 := by
      rw [split]
      exact List.mem_reverse.mp mem
    exact List.mem_reverse.mp (mem_of_mem_splitAtFirst inside)
  · exact mem

theorem scheme?_of_not_mem (absent : ':' ∉ cs) : scheme? cs = none := by
  rw [scheme?, splitAtFirst_of_not_mem absent]

/-- The scheme is found before what follows it goes on. -/
theorem scheme?_append_of_mem (present : ':' ∈ cs) (more : List Char) :
    scheme? (cs ++ more) = (scheme? cs).map fun (scheme, rest) => (scheme, rest ++ more) := by
  obtain ⟨before, after, rfl, absent⟩ := List.eq_append_cons_of_mem present
  rw [List.append_assoc, List.cons_append, scheme?, scheme?, splitAtFirst_of_append absent,
    splitAtFirst_of_append absent]
  dsimp only
  split
  · split <;> rfl
  · rfl

theorem mem_of_scheme? {scheme : String} {rest : List Char}
    (named : scheme? cs = some (scheme, rest)) : ':' ∈ cs := by
  by_contra absent
  rw [scheme?_of_not_mem absent] at named
  cases named

/-- What follows the scheme is the end of the text. -/
theorem suffix_of_scheme? {scheme : String} {rest : List Char}
    (named : scheme? cs = some (scheme, rest)) : rest <:+ cs := by
  obtain ⟨before, after, rfl, absent⟩ := List.eq_append_cons_of_mem (mem_of_scheme? named)
  rw [scheme?, splitAtFirst_of_append absent] at named
  dsimp only at named
  split at named
  · split at named
    · cases named
      exact (List.suffix_cons ':' rest).trans (List.suffix_append before _)
    · cases named
  · cases named

end Splitting

/-! ### URLs of the web -/

/-- Controls and blanks count for nothing at the ends of a URL. -/
def isEdge (c : Char) : Bool := c.toNat ≤ 0x20

/-- A text without controls and blanks at its ends. -/
def trimmed (cs : List Char) : List Char := (cs.dropWhile isEdge).rdropWhile isEdge

/-- The characters that count anywhere in a URL. -/
def significant (cs : List Char) : List Char := cs.filter (!UrlPath.isIgnored ·)

/-- The scheme of a URL is read at its front. -/
theorem exists_scheme {text : String} {url : Url} (read : parse text = .ok url) :
    ∃ rest, scheme? (trimmed text.toList) = some (url.scheme, rest) := by
  unfold parse at read
  dsimp only at read
  split at read
  · cases read
  · rename_i scheme rest named
    dsimp only [bind, Except.bind] at read
    split at read
    · cases read
    · cases read
      exact ⟨rest, named⟩

/-- A URL of the web, from what follows its scheme, if every character of it counts. -/
def ofWeb (scheme : String) (cs : List Char) : Except UrlError Url := do
  let kind := SchemeKind.ofScheme scheme
  let (rest, fragment?) := splitAtFirst '#' cs
  let (rest, query?) := splitAtFirst '?' rest
  let (a, path) ← readAuthority kind (rest.dropWhile kind.isSeparator)
    (query?.isSome || fragment?.isSome)
  let encode := fun set (part : List Char) => String.ofList (Percent.encodeChars set part)
  return {
    scheme
    authority := some a
    path := pathAfter kind path
    query := query?.map (encode (querySet kind))
    fragment := fragment?.map (encode Percent.inFragment) }

section Web

variable {scheme : String} {port : Nat}

/-- Reading a URL of the web, what counts for nothing can be left out first. -/
theorem parse_eq_ofWeb (web : SchemeKind.ofScheme scheme = .web port) {text : String}
    {rest : List Char} (named : scheme? (trimmed text.toList) = some (scheme, rest)) :
    parse text = ofWeb scheme (significant rest) := by
  have named' : scheme? ((text.toList.dropWhile fun c => decide (c.toNat ≤ 0x20)).reverse.dropWhile
      fun c => decide (c.toNat ≤ 0x20)).reverse = some (scheme, rest) := named
  unfold parse ofWeb significant
  dsimp only
  rw [named', splitAtFirst_filter (by decide)]
  dsimp only
  rw [splitAtFirst_filter (by decide), web, Option.isSome_map, Option.isSome_map]
  dsimp only [readHierarchy, bind, Except.bind]
  generalize readAuthority _ _ _ = read
  cases read with
  | error e =>
      rfl
  | ok made =>
      simp only [Option.map_map]
      rfl

end Web

/-! ### Authorities -/

/-- Whether the text of a path can stand behind an authority: it is empty or begins with a
separator. -/
def Opens (kind : SchemeKind) (path : List Char) : Prop :=
  ∀ c ∈ path.head?, kind.isSeparator c = true

theorem Opens.append {kind : SchemeKind} {path more : List Char} (opens : Opens kind path)
    (opensMore : Opens kind more) : Opens kind (path ++ more) := by
  cases path with
  | nil => exact opensMore
  | cons c path => exact opens

/-- A text is what stands before its first separator, and what stands from there on. -/
theorem exists_place (kind : SchemeKind) (cs : List Char) :
    ∃ place path, cs = place ++ path ∧ (∀ c ∈ place, kind.isSeparator c = false) ∧
      Opens kind path := by
  refine ⟨cs.takeWhile (!kind.isSeparator ·), cs.dropWhile (!kind.isSeparator ·),
    (List.takeWhile_append_dropWhile).symm, fun c mem => ?_, fun c first => ?_⟩
  · simpa using List.mem_takeWhile_imp mem
  · have stopped := List.head?_dropWhile_not (!kind.isSeparator ·) cs
    rw [Option.mem_def.mp first] at stopped
    simpa using stopped

theorem splitHost_append (inside : Bool) (cs : List Char) :
    (splitHost inside cs).1 ++ (splitHost inside cs).2 = cs := by
  induction cs generalizing inside with
  | nil => rfl
  | cons c cs ih =>
      rw [splitHost]
      split
      · rfl
      · exact congrArg (c :: ·) (ih _)

/-- Only a backslash ends a port before the place of the server does. -/
theorem rest_of_readHostAndPort {kind : SchemeKind} (special : kind.isSpecial = true)
    {place rest : List Char} {server : Host × Option Nat}
    (read : readHostAndPort kind place = .ok (server, rest)) (whole : '\\' ∉ place) : rest = [] := by
  have parts := splitHost_append false place
  unfold readHostAndPort at read
  generalize splitHost false place = split at read parts
  obtain ⟨host, after⟩ := split
  dsimp only [bind, Except.bind] at read
  rw [if_pos special] at read
  split at read
  · cases read
  cases named : Host.ofChars host with
  | error e =>
      rw [named] at read
      cases read
  | ok host' =>
      rw [named] at read
      cases after with
      | nil =>
          cases read
          rfl
      | cons colon after =>
          dsimp only at read
          split at read
          · cases read
          · cases read
            rw [List.span_eq_takeWhile_dropWhile, List.dropWhile_eq_nil_iff]
            intro c mem
            refine bne_iff_ne.mpr fun same => whole ?_
            rw [← parts, ← same]
            exact List.mem_append_right _ (List.mem_cons_of_mem _ mem)

/-- A server on the web has a name. -/
theorem place_ne_nil {kind : SchemeKind} (special : kind.isSpecial = true) {place : List Char}
    {answer : (Host × Option Nat) × List Char}
    (read : readHostAndPort kind place = .ok answer) : place ≠ [] := by
  rintro rfl
  rw [readHostAndPort] at read
  simp [splitHost, special, bind, Except.bind] at read

/-- What is read in front of a path does not depend on the path. -/
theorem readAuthority_append {kind : SchemeKind} (special : kind.isSpecial = true)
    {place path path' : List Char} {more : Bool} {a : Authority} {rest : List Char}
    (closed : ∀ c ∈ place, kind.isSeparator c = false) (opens : Opens kind path)
    (opens' : Opens kind path')
    (read : readAuthority kind (place ++ path) more = .ok (a, rest)) :
    rest = path ∧ readAuthority kind (place ++ path') more = .ok (a, path') := by
  have parted : ∀ path, Opens kind path →
      (place ++ path).span (!kind.isSeparator ·) = (place, path) := by
    intro path opens
    have all : ∀ c ∈ place, (!kind.isSeparator c) = true := fun c mem => by rw [closed c mem]; rfl
    rw [List.span_eq_takeWhile_dropWhile, List.takeWhile_append_of_pos all,
      List.dropWhile_append_of_pos all]
    cases path with
    | nil => simp
    | cons c path => simp [opens c rfl]
  have whole : '\\' ∉ place := fun mem => by
    have separates := closed _ mem
    rw [SchemeKind.isSeparator, special] at separates
    exact absurd separates (by decide)
  unfold readAuthority at read ⊢
  rw [parted path opens] at read
  rw [parted path' opens']
  dsimp only at read ⊢
  have inside : ∀ c ∈ (splitAtLast '@' place).2, c ∈ place := fun c => mem_of_mem_splitAtLast
  generalize splitAtLast '@' place = split at read inside
  obtain ⟨user?, server⟩ := split
  have whole' : '\\' ∉ server := fun mem => whole (inside _ mem)
  cases user? with
  | none =>
      dsimp only [bind, Except.bind] at read ⊢
      cases served : readHostAndPort kind server with
      | error e =>
          rw [served] at read
          cases read
      | ok answer =>
          obtain ⟨⟨host, port⟩, rest'⟩ := answer
          obtain rfl := rest_of_readHostAndPort special served whole'
          rw [served] at read
          cases read
          exact ⟨rfl, rfl⟩
  | some user =>
      dsimp only [bind, Except.bind] at read ⊢
      cases served : readHostAndPort kind server with
      | error e =>
          rw [served] at read
          split at read <;> cases read
      | ok answer =>
          obtain ⟨⟨host, port⟩, rest'⟩ := answer
          obtain rfl := rest_of_readHostAndPort special served whole'
          have named : server.isEmpty = false := by
            simpa using place_ne_nil special served
          simp only [served, named, Bool.false_eq_true, false_and, and_false, if_false, pure,
            Except.pure] at read ⊢
          split at read
          · cases read
          · rename_i fit
            cases read
            rw [if_neg fit]
            exact ⟨rfl, rfl⟩

/-! ### URLs that go on -/

/-- The text of a path, with nothing that would end the path. -/
structure IsPathText (kind : SchemeKind) (cs : List Char) : Prop where
  opens : Opens kind cs
  unmarked : '#' ∉ cs ∧ '?' ∉ cs

section Continued

variable {scheme : String} {port : Nat} {cs more : List Char} {base : Url}

/-- Without a query and a fragment, what stands behind the scheme is a server and a path. -/
theorem ofWeb_of_unmarked (web : SchemeKind.ofScheme scheme = .web port) (noHash : '#' ∉ cs)
    (noMark : '?' ∉ cs) :
    ofWeb scheme cs = (do
      let (a, path) ← readAuthority (.web port)
        (cs.dropWhile (SchemeKind.web port).isSeparator) false
      return {
        scheme
        authority := some a
        path := pathAfter (.web port) path
        query := none
        fragment := none }) := by
  rw [ofWeb, splitAtFirst_of_not_mem noHash]
  dsimp only
  rw [splitAtFirst_of_not_mem noMark, web]
  rfl

/-- A URL has neither a query nor a fragment exactly if nothing marks one. -/
theorem unmarked_iff (read : ofWeb scheme cs = .ok base) :
    base.query = none ∧ base.fragment = none ↔ '#' ∉ cs ∧ '?' ∉ cs := by
  have parts : base.query.isSome = (splitAtFirst '?' (splitAtFirst '#' cs).1).2.isSome ∧
      base.fragment.isSome = (splitAtFirst '#' cs).2.isSome := by
    unfold ofWeb at read
    dsimp only [bind, Except.bind] at read
    split at read
    · cases read
    · cases read
      exact ⟨Option.isSome_map, Option.isSome_map⟩
  rw [← Option.not_isSome_iff_eq_none, ← Option.not_isSome_iff_eq_none, parts.1, parts.2,
    splitAtFirst_isSome_iff, splitAtFirst_isSome_iff, and_comm]
  refine and_congr_right fun noHash => ?_
  rw [splitAtFirst_of_not_mem noHash]

/-- With a query or a fragment, what stands before it does not depend on the end of the text. -/
theorem ofWeb_of_marked (web : SchemeKind.ofScheme scheme = .web port)
    (marked : '#' ∈ cs ∨ '?' ∈ cs) :
    ∃ before : List Char, ∀ more, '#' ∉ more → ∃ query? fragment?,
      ofWeb scheme (cs ++ more) = (do
        let (a, path) ← readAuthority (.web port)
          (before.dropWhile (SchemeKind.web port).isSeparator) true
        return {
          scheme
          authority := some a
          path := pathAfter (.web port) path
          query := query?
          fragment := fragment? }) := by
  by_cases hash : '#' ∈ cs
  · refine ⟨(splitAtFirst '?' (splitAtFirst '#' cs).1).1, fun more _ => ?_⟩
    rw [ofWeb, splitAtFirst_append_of_mem hash]
    dsimp only
    rw [Option.isSome_map, splitAtFirst_isSome_iff.mpr hash, Bool.or_true, web]
    exact ⟨_, _, rfl⟩
  · have mark : '?' ∈ cs := marked.resolve_left hash
    refine ⟨(splitAtFirst '?' cs).1, fun more noHash => ?_⟩
    have noHash' : '#' ∉ cs ++ more := by simp [hash, noHash]
    rw [ofWeb, splitAtFirst_of_not_mem noHash']
    dsimp only
    rw [splitAtFirst_append_of_mem mark, Option.isSome_map, splitAtFirst_isSome_iff.mpr mark,
      Bool.true_or, web]
    exact ⟨_, _, rfl⟩

/-- A query or a fragment takes up all that is written behind it. -/
theorem path_of_marked (web : SchemeKind.ofScheme scheme = .web port)
    (read : ofWeb scheme (cs ++ more) = .ok base) (noHash : '#' ∉ more)
    (marked : '#' ∈ cs ∨ '?' ∈ cs) {more' : List Char} (noHash' : '#' ∉ more') :
    ∃ url, ofWeb scheme (cs ++ more') = .ok url ∧ url.path = base.path := by
  obtain ⟨before, same⟩ := ofWeb_of_marked web marked
  obtain ⟨_, _, own⟩ := same more noHash
  obtain ⟨_, _, other⟩ := same more' noHash'
  rw [own] at read
  rw [other]
  dsimp only [bind, Except.bind] at read ⊢
  generalize readAuthority _ _ _ = answer at read ⊢
  cases answer with
  | error e => cases read
  | ok answer =>
      cases read
      exact ⟨_, rfl, rfl⟩

/-- Without a query and a fragment, more of a path that is written at the end goes on from the text
of the path, and all else stays as it is. -/
theorem ofWeb_append (web : SchemeKind.ofScheme scheme = .web port)
    (read : ofWeb scheme (cs ++ more) = .ok base)
    (slashes : ∀ c ∈ more, (SchemeKind.web port).isSeparator c = true)
    (noHash : '#' ∉ cs) (noMark : '?' ∉ cs) :
    ∃ tail, tail <:+ cs ∧ Opens (.web port) tail ∧
      (tail = [] → ∃ c ∈ cs.getLast?, (SchemeKind.web port).isSeparator c = false) ∧
      ∀ more', IsPathText (.web port) more' →
        ofWeb scheme (cs ++ more') =
          .ok { base with path := pathAfter (.web port) (tail ++ more') } := by
  let isSeparator := (SchemeKind.web port).isSeparator
  have unmarked : ∀ more, IsPathText (.web port) more → '#' ∉ cs ++ more ∧ '?' ∉ cs ++ more :=
    fun more text => by simp [noHash, noMark, text.unmarked]
  have own : IsPathText (.web port) more := by
    refine ⟨fun c first => slashes c (List.mem_of_mem_head? first), fun hash => ?_, fun mark => ?_⟩
    · exact absurd (slashes _ hash) Bool.false_ne_true
    · exact absurd (slashes _ mark) Bool.false_ne_true
  have reading : ∀ more, IsPathText (.web port) more → _ := fun more text =>
    ofWeb_of_unmarked web (unmarked more text).1 (unmarked more text).2
  -- the server stands behind the separators at the front, before anything that is added
  have named : cs.dropWhile isSeparator ≠ [] := by
    intro none
    have gone : (cs ++ more).dropWhile isSeparator = [] := by
      rw [List.dropWhile_append, none]
      exact List.dropWhile_eq_nil_iff.mpr slashes
    rw [reading more own, gone] at read
    cases read
  have dropped : ∀ more, (cs ++ more).dropWhile isSeparator = cs.dropWhile isSeparator ++ more := by
    intro more
    rw [List.dropWhile_append, if_neg (by simpa using named)]
  obtain ⟨place, tail, parts, closed, opens⟩ := exists_place (.web port) (cs.dropWhile isSeparator)
  have ending : place ++ tail <:+ cs := parts ▸ List.dropWhile_suffix _
  refine ⟨tail, (List.suffix_append place tail).trans ending, opens, ?_, ?_⟩
  · -- the last character then is one of the server's name
    rintro rfl
    rw [List.append_nil] at parts ending
    obtain ⟨front, rfl⟩ := ending
    have some : place ≠ [] := parts ▸ named
    refine ⟨place.getLast some, ?_, closed _ (List.getLast_mem some)⟩
    rw [List.getLast?_append_of_ne_nil _ some]
    exact List.getLast?_eq_some_getLast some
  · intro more' text
    rw [reading more own, dropped, parts, List.append_assoc] at read
    rw [reading more' text, dropped, parts, List.append_assoc]
    dsimp only [bind, Except.bind] at read ⊢
    cases answered : readAuthority (.web port) (place ++ (tail ++ more)) false with
    | error e =>
        rw [answered] at read
        cases read
    | ok answer =>
        obtain ⟨a, path⟩ := answer
        obtain ⟨rfl, other⟩ := readAuthority_append rfl closed (opens.append own.opens)
          (opens.append text.opens) answered
        rw [answered] at read
        cases read
        rw [other]
        rfl

end Continued

end Url

end ServerDriven
