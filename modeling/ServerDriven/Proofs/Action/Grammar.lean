/-
Module: ServerDriven.Proofs.Action.Grammar
Purpose: Which values ask for an action, for which one they ask, and on what this depends.
Main exports:
  Text.Spells, Verb.ofText?_eq_some_iff, Action.Holds, Verb.keys, Verb.required, Verb.Gives,
  Verb.leaf?_eq_some_iff, Action.ofJson?_object_eq_some_iff, Action.induction, Json.Asks,
  Json.Yields, Json.Agrees, Action.parsed_by_grammar
-/
import Mathlib.Data.List.Forall2
import ServerDriven.Action.Parser

namespace ServerDriven

/-! ### Keywords -/

namespace Text

/-- A character is written for a letter of a keyword. -/
inductive StandsFor : Char → Char → Prop where
  | letter (c : Char) : StandsFor c c
  | capital (c : Char) (upper : c.isUpper = true) : StandsFor c c.toLower
  /-- The Kelvin sign is another capital K. -/
  | kelvin : StandsFor '\u212a' 'k'

/-- A text is a keyword in any case. -/
def Spells (text token : String) : Prop := List.Forall₂ StandsFor text.toList token.toList

/-- The characters of keywords. -/
def letters : List Char := "abcdefghijklmnopqrstuvwxyz_".toList

theorem keywordChar_letter {letter : Char} (mem : letter ∈ letters) :
    keywordChar letter = letter := by
  have fixed : letters.all (fun letter => keywordChar letter = letter) = true := by decide
  exact of_decide_eq_true (List.all_eq_true.mp fixed letter mem)

theorem keywordChar_eq_iff {c letter : Char} (mem : letter ∈ letters) :
    keywordChar c = letter ↔ StandsFor c letter := by
  constructor
  · intro same
    unfold keywordChar at same
    split at same
    · rename_i sign
      rw [sign, ← same]
      exact .kelvin
    · subst same
      by_cases upper : c.isUpper = true
      · exact .capital c upper
      · have same : c.toLower = c := dif_neg fun inside => upper (decide_eq_true inside)
        rw [same]
        exact .letter c
  · intro stands
    cases stands with
    | letter =>
        exact keywordChar_letter mem
    | capital _ upper =>
        rw [keywordChar, if_neg]
        rintro rfl
        exact absurd upper (by decide)
    | kelvin =>
        rfl

/-- But for the letter `k`, it is enough to look at ASCII. -/
theorem toLower_eq_iff {c letter : Char} (mem : letter ∈ letters ∧ letter ≠ 'k') :
    c.toLower = letter ↔ StandsFor c letter := by
  rw [← keywordChar_eq_iff mem.1, keywordChar]
  split
  · rename_i sign
    rw [sign]
    refine iff_of_false (fun same => ?_) mem.2.symm
    rw [← same] at mem
    exact absurd mem.1 (by decide)
  · rfl

/-- Letter by letter. -/
theorem map_eq_iff {f : Char → Char} {matching : Char → Char → Prop} {cs word : List Char}
    (each : ∀ letter ∈ word, ∀ c, f c = letter ↔ matching c letter) :
    cs.map f = word ↔ List.Forall₂ matching cs word := by
  induction word generalizing cs with
  | nil =>
      rw [List.map_eq_nil_iff, List.forall₂_nil_right_iff]
  | cons letter rest ih =>
      obtain ⟨first, others⟩ := List.forall_mem_cons.mp each
      cases cs with
      | nil =>
          exact iff_of_false nofun nofun
      | cons c cs =>
          rw [List.map_cons, List.cons.injEq, List.forall₂_cons, first, ih others]

theorem keyword_eq_iff {text token : String} (written : ∀ letter ∈ token.toList, letter ∈ letters) :
    keyword text = token ↔ Spells text token := by
  have spelled : text.toList.map keywordChar = token.toList ↔ Spells text token :=
    map_eq_iff fun letter mem c => keywordChar_eq_iff (written letter mem)
  rw [← spelled, keyword]
  constructor
  · rintro rfl
    exact String.toList_ofList.symm
  · intro same
    rw [same, String.ofList_toList]

end Text

namespace Verb

variable {text token : String} {verb : Verb}

theorem written (mem : token ∈ verb.tokens) : ∀ letter ∈ token.toList, letter ∈ Text.letters := by
  have tokens :
      verb.tokens.all (fun token => token.toList.all (Text.letters.contains ·)) = true := by
    cases verb <;> decide
  intro letter used
  have letters := List.all_eq_true.mp (List.all_eq_true.mp tokens token mem)
  exact List.contains_iff_mem.mp (letters letter used)

/-- No spelling belongs to two verbs. -/
theorem ofText?_token (mem : token ∈ verb.tokens) :
    all.find? (fun verb => verb.tokens.contains token) = some verb := by
  revert token
  cases verb <;> decide

/-- A text names the verb that it spells. -/
theorem ofText?_eq_some_iff :
    ofText? text = some verb ↔ ∃ token ∈ verb.tokens, Text.Spells text token := by
  constructor
  · intro found
    have spelling := List.find?_some found
    have mem := List.contains_iff_mem.mp spelling
    exact ⟨_, mem, (Text.keyword_eq_iff (written mem)).mp rfl⟩
  · rintro ⟨token, mem, spells⟩
    rw [ofText?, (Text.keyword_eq_iff (written mem)).mpr spells]
    exact ofText?_token mem

end Verb

/-! ### Members -/

/-- A scalar and its text. -/
inductive Json.HasText : Json → String → Prop where
  | string (s : String) : HasText (.string s) s
  | number (n : Number) : HasText (.number n) n.text
  | bool (b : Bool) : HasText (.bool b) (toString b)

theorem Json.scalarText?_eq_some_iff {v : Json} {text : String} :
    v.scalarText? = some text ↔ v.HasText text := by
  constructor
  · intro read
    cases v with
    | string s =>
        cases read
        exact .string _
    | number n =>
        cases read
        exact .number n
    | bool b =>
        cases read
        exact .bool b
    | _ =>
        cases read
  · intro has
    cases has with
    | string => rfl
    | number => rfl
    | bool => rfl

theorem Json.asObject?_eq_some_iff (v : Json) (members : Action.Members) :
    v.asObject? = some members ↔ v = .object members := by
  cases v with
  | _ => simp [asObject?]

theorem Json.asArray?_eq_some_iff (v : Json) (items : List Json) :
    v.asArray? = some items ↔ v = .array items := by
  cases v with
  | _ => simp [asArray?]

namespace Action

variable {members : Members} {key key' text : String}

/-- A member is a scalar with a given text. -/
def Holds (members : Members) (key text : String) : Prop :=
  ∃ v, Entries.get? members key = some v ∧ v.HasText text

/-- There is no such member, or it is no scalar. -/
def Lacks (members : Members) (key : String) : Prop := ¬∃ text, Holds members key text

/-- The text of the first of two members, or else of the second. -/
inductive HoldsEither (members : Members) (key key' text : String) : Prop where
  | first (holds : Holds members key text)
  | second (lacks : Lacks members key) (holds : Holds members key' text)

/-- A text that may be missing. -/
def MayHold (members : Members) (key : String) (text? : Option String) : Prop :=
  ∀ text, text? = some text ↔ Holds members key text

/-- A text with a default. -/
inductive HoldsOr (members : Members) (key default : String) : String → Prop where
  | given {text : String} (holds : Holds members key text) : HoldsOr members key default text
  | default (lacks : Lacks members key) : HoldsOr members key default default

/-- The members that can set a flag. -/
inductive Sets (members : Members) (key : String) : Prop where
  | bool (holds : Entries.get? members key = some (.bool true)) : Sets members key
  | text {s : String} (holds : Entries.get? members key = some (.string s))
      (spells : Text.Spells s "true") : Sets members key

/-- The text to be stored for a value. -/
inductive Stores : Option Json → String → Prop where
  | missing : Stores none ""
  | null : Stores (some .null) ""
  | string (s : String) : Stores (some (.string s)) s
  | other {v : Json} (value : v ≠ .null) (noText : v.asString? = none) : Stores (some v) v.compact

/-- A duration: a natural number, or a text that is one but for white space around it. -/
inductive Lasts : Option Json → Nat → Prop where
  | number {n : Nat} {least greatest} : Lasts (some (.number (.integer n least greatest))) n
  | text {s : String} {n : Nat} (reads : Text.readNat UInt64.size (Text.trim s) = some n) :
      Lasts (some (.string s)) n

theorem text?_eq_some_iff : text? members key = some text ↔ Holds members key text := by
  rw [text?, Option.bind_eq_some_iff]
  constructor
  · rintro ⟨v, found, read⟩
    exact ⟨v, found, Json.scalarText?_eq_some_iff.mp read⟩
  · rintro ⟨v, found, has⟩
    exact ⟨v, found, Json.scalarText?_eq_some_iff.mpr has⟩

theorem text?_eq_none_iff : text? members key = none ↔ Lacks members key := by
  rw [Lacks, Option.eq_none_iff_forall_ne_some, not_exists]
  exact forall_congr' fun text => not_congr text?_eq_some_iff

theorem isSome_text?_iff : (text? members key).isSome = true ↔ ∃ text, Holds members key text := by
  rw [Option.isSome_iff_exists]
  exact exists_congr fun text => text?_eq_some_iff

theorem mayHold_iff {text?' : Option String} :
    MayHold members key text?' ↔ text?' = text? members key := by
  constructor
  · intro may
    ext text
    exact (may text).trans text?_eq_some_iff.symm
  · rintro rfl text
    exact text?_eq_some_iff

theorem or_text?_eq_some_iff :
    (text? members key).or (text? members key') = some text ↔
      HoldsEither members key key' text := by
  rw [Option.or_eq_some_iff, text?_eq_some_iff, text?_eq_none_iff, text?_eq_some_iff]
  constructor
  · rintro (holds | ⟨lacks, holds⟩)
    · exact .first holds
    · exact .second lacks holds
  · rintro (holds | ⟨lacks, holds⟩)
    · exact .inl holds
    · exact .inr ⟨lacks, holds⟩

theorem holdsOr_iff {default : String} :
    HoldsOr members key default text ↔ text = (text? members key).getD default := by
  constructor
  · rintro (holds | lacks)
    · rw [text?_eq_some_iff.mpr holds]
      rfl
    · rw [text?_eq_none_iff.mpr lacks]
      rfl
  · rintro rfl
    cases read : text? members key with
    | none =>
        exact .default (text?_eq_none_iff.mp read)
    | some text =>
        exact .given (text?_eq_some_iff.mp read)

theorem flag_iff : flag members key = true ↔ Sets members key := by
  have word : ∀ s : String, (s.toList.map Char.toLower == ['t', 'r', 'u', 'e']) = true ↔
      Text.Spells s "true" := by
    intro s
    rw [beq_iff_eq]
    apply Text.map_eq_iff
    intro letter mem c
    have plain : ['t', 'r', 'u', 'e'].all
        (fun letter => letter ∈ Text.letters ∧ letter ≠ 'k') = true := by
      decide
    exact Text.toLower_eq_iff (of_decide_eq_true (List.all_eq_true.mp plain letter mem))
  unfold flag
  constructor
  · intro set
    split at set
    · rename_i b found
      rw [set] at found
      exact .bool found
    · rename_i s found
      exact .text found ((word s).mp set)
    · cases set
  · rintro (found | ⟨found, spells⟩)
    · rw [found]
    · rw [found]
      exact (word _).mpr spells

theorem stores_iff {v? : Option Json} : Stores v? text ↔ text = storedText v? := by
  constructor
  · rintro (_ | _ | s | ⟨value, noText⟩)
    · rfl
    · rfl
    · rfl
    · rename_i v
      cases v with
      | null => exact absurd rfl value
      | string s => cases noText
      | _ => rfl
  · rintro rfl
    cases v? with
    | none =>
        exact .missing
    | some v =>
        cases v with
        | null => exact .null
        | string s => exact .string s
        | _ => exact .other nofun rfl

theorem lasts_of_asNat? {v : Json} {n : Nat} (read : v.asNat? = some n) : Lasts (some v) n := by
  cases v with
  | number number =>
      cases number with
      | integer i least greatest =>
          cases i with
          | ofNat m =>
              obtain rfl : m = n := Option.some.inj read
              exact .number
          | negSucc m =>
              cases read
      | float x =>
          cases read
  | _ =>
      cases read

theorem duration?_eq_some_iff {n : Nat} :
    duration? members = some n ↔ Lasts (Entries.get? members "duration") n := by
  unfold duration?
  constructor
  · intro read
    split at read
    · rename_i s found
      rw [found]
      exact .text read
    · rename_i v _ found
      rw [found]
      exact lasts_of_asNat? read
    · cases read
  · intro lasts
    generalize Entries.get? members "duration" = v? at lasts
    cases lasts with
    | number =>
        rfl
    | text reads =>
        exact reads

/-- A member of a kind whose values are known by what is in them. -/
theorem bind_get?_eq_some_iff {β : Type} {read : Json → Option β} {write : β → Json}
    (known : ∀ v b, read v = some b ↔ v = write b) {b : β} :
    (Entries.get? members key).bind read = some b ↔
      Entries.get? members key = some (write b) := by
  rw [Option.bind_eq_some_iff]
  constructor
  · rintro ⟨v, found, value⟩
    rw [found, (known v b).mp value]
  · intro found
    exact ⟨write b, found, (known _ b).mpr rfl⟩

theorem body_eq_some_iff {object : Members} :
    (Entries.get? members "body").bind Json.asObject? = some object ↔
      Entries.get? members "body" = some (.object object) :=
  bind_get?_eq_some_iff Json.asObject?_eq_some_iff

/-- The default method is in upper case itself. -/
theorem upper_getD (method? : Option String) :
    (method?.map Text.upper).getD "GET" = Text.upper (method?.getD "GET") := by
  cases method? with
  | none =>
      decide
  | some method =>
      rfl

end Action

namespace Verb

open ServerDriven.Action

/-- The members that a verb looks at. -/
def keys : Verb → List String
  | .navigate => ["screenId", "target", "clearStack"]
  | .navigateBack | .refresh => []
  | .navigateExternal => ["url"]
  | .apiCall => ["endpoint", "method", "body", "onSuccess", "onError"]
  | .setState => ["key", "value"]
  | .toggleState => ["key"]
  | .showSnackbar => ["message", "duration", "actionLabel"]
  | .showDialog => ["message", "title", "confirmLabel", "cancelLabel", "onConfirm", "onCancel"]
  | .share => ["text", "url"]
  | .batch => ["actions"]

/-- The members of which a leaf must have one that is a scalar; none if it needs no member. -/
def required : Verb → List String
  | .navigate => ["screenId", "target"]
  | .navigateExternal => ["url"]
  | .apiCall => ["endpoint"]
  | .setState | .toggleState => ["key"]
  | .showSnackbar | .showDialog => ["message"]
  | .share => ["text"]
  | .navigateBack | .refresh | .batch => []

/-- The leaf that a verb asks for with some members. -/
inductive Gives (members : Members) : Verb → Leaf → Prop where
  | navigate {screen : String} {clearStack : Bool}
      (goes : HoldsEither members "screenId" "target" screen)
      (clears : clearStack = true ↔ Sets members "clearStack") :
      Gives members .navigate (.navigate screen clearStack)
  | navigateBack : Gives members .navigateBack .navigateBack
  | navigateExternal {url : String} (goes : Holds members "url" url) :
      Gives members .navigateExternal (.navigateExternal url)
  | apiCall {call : ApiCall} {method : String}
      (endpoint : Holds members "endpoint" call.endpoint)
      (given : HoldsOr members "method" "GET" method) (upper : call.method = Text.upper method)
      (body : ∀ object, call.body = some object ↔
        Entries.get? members "body" = some (.object object))
      (onSuccess : MayHold members "onSuccess" call.onSuccess)
      (onError : MayHold members "onError" call.onError) : Gives members .apiCall (.apiCall call)
  | setState {key value : String} (named : Holds members "key" key)
      (stored : Stores (Entries.get? members "value") value) :
      Gives members .setState (.setState key value)
  | toggleState {key : String} (named : Holds members "key" key) :
      Gives members .toggleState (.toggleState key)
  | showSnackbar {snackbar : Snackbar} (message : Holds members "message" snackbar.message)
      (duration : ∀ n, snackbar.duration = some n ↔ Lasts (Entries.get? members "duration") n)
      (actionLabel : MayHold members "actionLabel" snackbar.actionLabel) :
      Gives members .showSnackbar (.showSnackbar snackbar)
  | showDialog {dialog : Dialog} (title : HoldsOr members "title" "" dialog.title)
      (message : Holds members "message" dialog.message)
      (confirmLabel : HoldsOr members "confirmLabel" "OK" dialog.confirmLabel)
      (cancelLabel : MayHold members "cancelLabel" dialog.cancelLabel)
      (onConfirm : MayHold members "onConfirm" dialog.onConfirm)
      (onCancel : MayHold members "onCancel" dialog.onCancel) :
      Gives members .showDialog (.showDialog dialog)
  | refresh : Gives members .refresh .refresh
  | share {share : Share} (text : Holds members "text" share.text)
      (url : MayHold members "url" share.url) : Gives members .share (.share share)

variable {members members' : Members} {verb : Verb} {leaf : Leaf}

/-- What a verb asks for, if it is asked for with what it needs. -/
theorem gives_of_leaf? (asked : verb.leaf? members = some leaf) : verb.Gives members leaf := by
  cases verb with
  | navigate =>
      obtain ⟨screen, read, given⟩ := Option.bind_eq_some_iff.mp asked
      cases given
      exact .navigate (or_text?_eq_some_iff.mp read) flag_iff
  | navigateBack =>
      cases asked
      exact .navigateBack
  | navigateExternal =>
      obtain ⟨url, read, given⟩ := Option.bind_eq_some_iff.mp asked
      cases given
      exact .navigateExternal (text?_eq_some_iff.mp read)
  | apiCall =>
      obtain ⟨endpoint, read, given⟩ := Option.bind_eq_some_iff.mp asked
      cases given
      refine .apiCall (text?_eq_some_iff.mp read) (holdsOr_iff.mpr rfl) ?_ ?_ (mayHold_iff.mpr rfl)
        (mayHold_iff.mpr rfl)
      · exact upper_getD _
      · intro object
        exact body_eq_some_iff
  | setState =>
      obtain ⟨key, read, given⟩ := Option.bind_eq_some_iff.mp asked
      cases given
      exact .setState (text?_eq_some_iff.mp read) (stores_iff.mpr rfl)
  | toggleState =>
      obtain ⟨key, read, given⟩ := Option.bind_eq_some_iff.mp asked
      cases given
      exact .toggleState (text?_eq_some_iff.mp read)
  | showSnackbar =>
      obtain ⟨message, read, given⟩ := Option.bind_eq_some_iff.mp asked
      cases given
      exact .showSnackbar (text?_eq_some_iff.mp read) (fun n => duration?_eq_some_iff)
        (mayHold_iff.mpr rfl)
  | showDialog =>
      obtain ⟨message, read, given⟩ := Option.bind_eq_some_iff.mp asked
      cases given
      exact .showDialog (holdsOr_iff.mpr rfl) (text?_eq_some_iff.mp read) (holdsOr_iff.mpr rfl)
        (mayHold_iff.mpr rfl) (mayHold_iff.mpr rfl) (mayHold_iff.mpr rfl)
  | refresh =>
      cases asked
      exact .refresh
  | share =>
      obtain ⟨text, read, given⟩ := Option.bind_eq_some_iff.mp asked
      cases given
      exact .share (text?_eq_some_iff.mp read) (mayHold_iff.mpr rfl)
  | batch =>
      cases asked

theorem leaf?_of_gives (gives : verb.Gives members leaf) : verb.leaf? members = some leaf := by
  cases gives with
  | navigate goes clears =>
      rw [Bool.eq_iff_iff.mpr (clears.trans flag_iff.symm), leaf?, or_text?_eq_some_iff.mpr goes]
      rfl
  | navigateBack =>
      rfl
  | navigateExternal goes =>
      rw [leaf?, text?_eq_some_iff.mpr goes]
      rfl
  | @apiCall call method holds given upper body onSuccess onError =>
      obtain ⟨endpoint, method', body', onSuccess', onError'⟩ := call
      obtain rfl : method' = Text.upper method := upper
      obtain rfl := mayHold_iff.mp onSuccess
      obtain rfl := mayHold_iff.mp onError
      obtain rfl : body' = (Entries.get? members "body").bind Json.asObject? :=
        Option.ext fun object => (body object).trans body_eq_some_iff.symm
      rw [leaf?, text?_eq_some_iff.mpr holds, holdsOr_iff.mp given, ← upper_getD]
      rfl
  | setState named stored =>
      rw [leaf?, text?_eq_some_iff.mpr named, stores_iff.mp stored]
      rfl
  | toggleState named =>
      rw [leaf?, text?_eq_some_iff.mpr named]
      rfl
  | @showSnackbar snackbar holds lasts label =>
      obtain ⟨message, duration, actionLabel⟩ := snackbar
      obtain rfl := mayHold_iff.mp label
      obtain rfl : duration = duration? members :=
        Option.ext fun n => (lasts n).trans duration?_eq_some_iff.symm
      rw [leaf?, text?_eq_some_iff.mpr holds]
      rfl
  | @showDialog dialog title holds confirmLabel cancelLabel onConfirm onCancel =>
      obtain ⟨title', message, confirmLabel', cancelLabel', onConfirm', onCancel'⟩ := dialog
      obtain rfl := holdsOr_iff.mp title
      obtain rfl := holdsOr_iff.mp confirmLabel
      obtain rfl := mayHold_iff.mp cancelLabel
      obtain rfl := mayHold_iff.mp onConfirm
      obtain rfl := mayHold_iff.mp onCancel
      rw [leaf?, text?_eq_some_iff.mpr holds]
      rfl
  | refresh =>
      rfl
  | @share share holds url =>
      obtain ⟨text, url'⟩ := share
      obtain rfl := mayHold_iff.mp url
      rw [leaf?, text?_eq_some_iff.mpr holds]
      rfl

theorem leaf?_eq_some_iff : verb.leaf? members = some leaf ↔ verb.Gives members leaf :=
  ⟨gives_of_leaf?, leaf?_of_gives⟩

/-- There is what a verb needs: one of the members is a scalar, if it needs any. -/
def Supplied (members : Members) (verb : Verb) : Prop :=
  verb.required = [] ∨ ∃ key ∈ verb.required, ∃ text, Holds members key text

/-- A verb other than a batch asks for a leaf just if it has what it needs. -/
theorem isSome_leaf?_iff (single : verb ≠ .batch) :
    (verb.leaf? members).isSome = true ↔ verb.Supplied members := by
  cases verb with
  | batch =>
      exact absurd rfl single
  | _ =>
      simp [leaf?, Supplied, required, ← isSome_text?_iff, Option.isSome_bind]

/-- A verb looks at no other members than its own. -/
theorem leaf?_congr
    (own : ∀ key ∈ verb.keys, Entries.get? members key = Entries.get? members' key) :
    verb.leaf? members = verb.leaf? members' := by
  cases verb with
  | _ =>
      simp only [keys, List.forall_mem_cons] at own
      simp [leaf?, text?, flag, duration?, own]

end Verb

/-! ### Actions -/

namespace Action

variable {members : Members} {verb : Verb} {v : Json}

/-- The type of an action spells a verb. -/
def Names (members : Members) (verb : Verb) : Prop :=
  ∃ text, Holds members "type" text ∧ ∃ token ∈ verb.tokens, Text.Spells text token

theorem verb?_eq_some_iff :
    (text? members "type").bind Verb.ofText? = some verb ↔ Names members verb := by
  rw [Option.bind_eq_some_iff]
  exact exists_congr fun text => and_congr text?_eq_some_iff Verb.ofText?_eq_some_iff

theorem Names.unique {verb' : Verb} (names : Names members verb) (names' : Names members verb') :
    verb = verb' := by
  have first := verb?_eq_some_iff.mpr names
  rw [verb?_eq_some_iff.mpr names'] at first
  exact (Option.some.inj first).symm

/-- Every value is an object that asks for a leaf, for a batch or for nothing, or no object. -/
theorem ofJson?_leaf (names : Names members verb) (single : verb ≠ .batch) :
    ofJson? (.object members) = (verb.leaf? members).map .leaf := by
  rw [ofJson?, verb?_eq_some_iff.mpr names]
  cases verb with
  | batch =>
      exact absurd rfl single
  | _ =>
      rfl

theorem ofJson?_batch (names : Names members .batch) :
    ofJson? (.object members) =
      ((Entries.get? members "actions").bind Json.asArray?).bind fun items =>
        batch? (items.filterMap ofJson?) := by
  rw [ofJson?, verb?_eq_some_iff.mpr names]
  dsimp only
  split
  · rename_i items listed
    rw [listed, List.filterMap_subtype (g := ofJson?) fun _ _ => rfl, List.unattach_attach]
    rfl
  · rename_i noItems
    cases found : Entries.get? members "actions" with
    | none =>
        rfl
    | some v =>
        cases v with
        | array items =>
            exact absurd found (noItems items)
        | _ =>
            rfl

theorem ofJson?_unnamed (unnamed : ∀ verb, ¬Names members verb) :
    ofJson? (.object members) = none := by
  have missing : (text? members "type").bind Verb.ofText? = none := by
    rw [Option.eq_none_iff_forall_ne_some]
    exact fun verb named => unnamed verb (verb?_eq_some_iff.mp named)
  rw [ofJson?, missing]

theorem ofJson?_of_asObject?_eq_none (noObject : v.asObject? = none) : ofJson? v = none := by
  cases v with
  | object members =>
      cases noObject
  | _ =>
      rw [ofJson?]
      intro members same
      cases same

theorem batch?_eq_some_iff {actions : List Action} {action : Action} :
    batch? actions = some action ↔ actions ≠ [] ∧ .batch actions = action := by
  cases actions with
  | nil =>
      simp [batch?]
  | cons first rest =>
      simp [batch?]

theorem items_eq_some_iff {items : List Json} :
    (Entries.get? members "actions").bind Json.asArray? = some items ↔
      Entries.get? members "actions" = some (.array items) :=
  bind_get?_eq_some_iff Json.asArray?_eq_some_iff

/-- An object asks for the leaf that its verb gives, or for the batch of what its actions ask
for. -/
theorem ofJson?_object_eq_some_iff {action : Action} :
    ofJson? (.object members) = some action ↔
      (∃ verb leaf, Names members verb ∧ verb.Gives members leaf ∧ .leaf leaf = action) ∨
        ∃ items, Names members .batch ∧ Entries.get? members "actions" = some (.array items) ∧
          items.filterMap ofJson? ≠ [] ∧ .batch (items.filterMap ofJson?) = action := by
  by_cases named : ∃ verb, Names members verb
  · obtain ⟨verb, names⟩ := named
    by_cases single : verb = .batch
    · subst single
      rw [ofJson?_batch names, Option.bind_eq_some_iff]
      constructor
      · rintro ⟨items, listed, made⟩
        exact .inr ⟨items, names, items_eq_some_iff.mp listed, batch?_eq_some_iff.mp made⟩
      · rintro (⟨verb, leaf, names', gives, -⟩ | ⟨items, -, listed, made⟩)
        · obtain rfl := names.unique names'
          cases gives
        · exact ⟨items, items_eq_some_iff.mpr listed, batch?_eq_some_iff.mpr made⟩
    · rw [ofJson?_leaf names single, Option.map_eq_some_iff]
      constructor
      · rintro ⟨leaf, asked, made⟩
        exact .inl ⟨verb, leaf, names, Verb.leaf?_eq_some_iff.mp asked, made⟩
      · rintro (⟨verb', leaf, names', gives, made⟩ | ⟨items, names', -⟩)
        · obtain rfl := names.unique names'
          exact ⟨leaf, Verb.leaf?_eq_some_iff.mpr gives, made⟩
        · exact absurd (names.unique names') single
  · rw [ofJson?_unnamed (not_exists.mp named)]
    refine iff_of_false nofun ?_
    rintro (⟨verb, -, names, -⟩ | ⟨-, names, -⟩)
    · exact named ⟨verb, names⟩
    · exact named ⟨_, names⟩

/-- Something is left of a list if something is made of an element. -/
theorem filterMap_ne_nil_iff {items : List Json} :
    items.filterMap ofJson? ≠ [] ↔ ∃ item ∈ items, (ofJson? item).isSome = true := by
  simp [List.filterMap_eq_nil_iff, Option.ne_none_iff_isSome]

/-- To prove something of every value, prove it of objects for whose actions it holds, and of what
is no object. -/
theorem induction {motive : Json → Prop}
    (object : ∀ members, (∀ items, Entries.get? members "actions" = some (.array items) →
      ∀ item ∈ items, motive item) → motive (.object members))
    (other : ∀ v, v.asObject? = none → motive v) (v : Json) : motive v := by
  match v with
  | .object members =>
    refine object members fun items listed item mem => ?_
    have smaller : sizeOf item < sizeOf (Json.object members) := by
      have inItems := List.sizeOf_lt_of_mem mem
      have inMembers := Json.sizeOf_lt_of_get? listed
      rw [Json.array.sizeOf_spec] at inMembers
      omega
    exact induction object other item
  | .null | .bool _ | .number _ | .string _ | .array _ => exact other _ rfl
termination_by sizeOf v
decreasing_by exact smaller

end Action

namespace Json

open ServerDriven.Action

/-- The grammar of actions.  What else an object has in it does not matter. -/
inductive Asks : Json → Prop where
  | leaf {members : Members} {verb : Verb} (names : Names members verb) (single : verb ≠ .batch)
      (supplied : verb.Supplied members) : Asks (.object members)
  | batch {members : Members} {items : List Json} {item : Json} (names : Names members .batch)
      (listed : Entries.get? members "actions" = some (.array items)) (mem : item ∈ items)
      (asks : Asks item) : Asks (.object members)

mutual

/-- A value asks for an action. -/
inductive Yields : Json → Action → Prop where
  | leaf {members : Members} {verb : Verb} {leaf : Leaf} (names : Names members verb)
      (gives : verb.Gives members leaf) : Yields (.object members) (.leaf leaf)
  | batch {members : Members} {items : List Json} {actions : List Action}
      (names : Names members .batch)
      (listed : Entries.get? members "actions" = some (.array items))
      (each : YieldsAll items actions) (some : actions ≠ []) :
      Yields (.object members) (.batch actions)

/-- The actions that some values ask for in turn, without the values that ask for nothing. -/
inductive YieldsAll : List Json → List Action → Prop where
  | nil : YieldsAll [] []
  | kept {item : Json} {items : List Json} {action : Action} {actions : List Action}
      (yields : Yields item action) (rest : YieldsAll items actions) :
      YieldsAll (item :: items) (action :: actions)
  | dropped {item : Json} {items : List Json} {actions : List Action} (nothing : ¬Asks item)
      (rest : YieldsAll items actions) : YieldsAll (item :: items) actions

end

/-- Objects agree on their types and on the members that matter with it. -/
inductive Agrees : Json → Json → Prop where
  | same (v : Json) : Agrees v v
  | own {members members' : Members}
      (type : Entries.get? members "type" = Entries.get? members' "type")
      (own : ∀ verb, Names members verb → ∀ key ∈ verb.keys,
        Entries.get? members key = Entries.get? members' key) :
      Agrees (.object members) (.object members')
  | batch {members members' : Members} {items items' : List Json} (names : Names members .batch)
      (type : Entries.get? members "type" = Entries.get? members' "type")
      (listed : Entries.get? members "actions" = some (.array items))
      (listed' : Entries.get? members' "actions" = some (.array items'))
      (each : List.Forall₂ Agrees items items') : Agrees (.object members) (.object members')

theorem isSome_ofJson?_iff (v : Json) : (ofJson? v).isSome = true ↔ Asks v := by
  induction v using Action.induction with
  | object members ih =>
      rw [Option.isSome_iff_exists]
      constructor
      · rintro ⟨action, found⟩
        rcases ofJson?_object_eq_some_iff.mp found with
          ⟨verb, leaf, names, gives, -⟩ | ⟨items, names, listed, some, -⟩
        · have single : verb ≠ .batch := by
            rintro rfl
            cases gives
          have given := Verb.leaf?_eq_some_iff.mpr gives
          exact .leaf names single
            ((Verb.isSome_leaf?_iff single).mp (Option.isSome_of_eq_some given))
        · obtain ⟨item, mem, asked⟩ := filterMap_ne_nil_iff.mp some
          exact .batch names listed mem ((ih items listed item mem).mp asked)
      · intro asks
        cases asks with
        | leaf names single supplied =>
            have given := (Verb.isSome_leaf?_iff single).mpr supplied
            obtain ⟨leaf, given⟩ := Option.isSome_iff_exists.mp given
            exact ⟨_, ofJson?_object_eq_some_iff.mpr
              (.inl ⟨_, leaf, names, Verb.leaf?_eq_some_iff.mp given, rfl⟩)⟩
        | @batch _ items item names listed mem asks =>
            have some := filterMap_ne_nil_iff.mpr ⟨item, mem, (ih items listed item mem).mpr asks⟩
            exact ⟨_, ofJson?_object_eq_some_iff.mpr (.inr ⟨items, names, listed, some, rfl⟩)⟩
  | other v noObject =>
      rw [ofJson?_of_asObject?_eq_none noObject]
      refine iff_of_false nofun fun asks => ?_
      cases asks with
      | leaf => cases noObject
      | batch => cases noObject

theorem yieldsAll_iff {items : List Json} {actions : List Action}
    (each : ∀ item ∈ items, ∀ action, ofJson? item = some action ↔ Yields item action) :
    items.filterMap ofJson? = actions ↔ YieldsAll items actions := by
  induction items generalizing actions with
  | nil =>
      constructor
      · rintro rfl
        exact .nil
      · intro yields
        cases yields
        rfl
  | cons item items ih =>
      obtain ⟨first, others⟩ := List.forall_mem_cons.mp each
      constructor
      · rintro rfl
        cases found : ofJson? item with
        | none =>
            rw [List.filterMap_cons_none found]
            refine .dropped (fun asks => ?_) ((ih others).mp rfl)
            have asked := (isSome_ofJson?_iff item).mpr asks
            rw [found] at asked
            cases asked
        | some action =>
            rw [List.filterMap_cons_some found]
            exact .kept ((first action).mp found) ((ih others).mp rfl)
      · intro yields
        cases yields with
        | kept yields rest =>
            rw [List.filterMap_cons_some ((first _).mpr yields), (ih others).mpr rest]
        | dropped nothing rest =>
            have missing : ofJson? item = none := by
              rw [← Option.not_isSome_iff_eq_none, isSome_ofJson?_iff]
              exact nothing
            rw [List.filterMap_cons_none missing, (ih others).mpr rest]

theorem ofJson?_eq_some_iff (v : Json) (action : Action) :
    ofJson? v = some action ↔ Yields v action := by
  induction v using Action.induction generalizing action with
  | object members ih =>
      rw [ofJson?_object_eq_some_iff]
      constructor
      · rintro (⟨verb, leaf, names, gives, rfl⟩ | ⟨items, names, listed, some, rfl⟩)
        · exact .leaf names gives
        · exact .batch names listed ((yieldsAll_iff (ih items listed)).mp rfl) some
      · intro yields
        cases yields with
        | leaf names gives =>
            exact .inl ⟨_, _, names, gives, rfl⟩
        | @batch _ items actions names listed each some =>
            obtain rfl := (yieldsAll_iff (ih items listed)).mpr each
            exact .inr ⟨items, names, listed, some, rfl⟩
  | other v noObject =>
      rw [ofJson?_of_asObject?_eq_none noObject]
      refine iff_of_false nofun fun yields => ?_
      cases yields with
      | leaf => cases noObject
      | batch => cases noObject

theorem names_congr {members members' : Members} {verb : Verb}
    (type : Entries.get? members "type" = Entries.get? members' "type") :
    Names members verb ↔ Names members' verb := by
  unfold Names Holds
  rw [type]

theorem filterMap_congr {items items' : List Json}
    (same : ∀ item ∈ items, ∀ w, Agrees item w → ofJson? item = ofJson? w)
    (each : List.Forall₂ Agrees items items') :
    items.filterMap ofJson? = items'.filterMap ofJson? := by
  induction each with
  | nil =>
      rfl
  | cons agrees rest ih =>
      obtain ⟨first, others⟩ := List.forall_mem_cons.mp same
      rw [List.filterMap_cons, List.filterMap_cons, first _ agrees, ih others]

theorem ofJson?_congr {v w : Json} (agrees : Agrees v w) : ofJson? v = ofJson? w := by
  induction v using Action.induction generalizing w with
  | object members ih =>
      cases agrees with
      | same =>
          rfl
      | own type own =>
          by_cases named : ∃ verb, Names members verb
          · obtain ⟨verb, names⟩ := named
            have keys := own verb names
            have names' := (names_congr type).mp names
            by_cases single : verb = .batch
            · subst single
              rw [ofJson?_batch names, ofJson?_batch names', keys "actions" List.mem_cons_self]
            · rw [ofJson?_leaf names single, ofJson?_leaf names' single, Verb.leaf?_congr keys]
          · have named' : ∀ verb, ¬Names _ verb :=
              fun verb names => named ⟨verb, (names_congr type).mpr names⟩
            rw [ofJson?_unnamed (not_exists.mp named), ofJson?_unnamed named']
      | batch names type listed listed' each =>
          have names' := (names_congr type).mp names
          rw [ofJson?_batch names, ofJson?_batch names', listed, listed']
          exact congrArg batch? (filterMap_congr (fun item mem w => ih _ listed item mem) each)
  | other v noObject =>
      cases agrees with
      | same => rfl
      | own => cases noObject
      | batch => cases noObject

end Json

namespace Action

open Json

/-- The grammar of actions.

A value asks for an action just if it is an object whose type spells a verb and that has what the
verb needs: a scalar under one of its required keys, or a list of actions with one that asks for
something.  The action is then the leaf that the verb gives, with each text as it is written but for
the method of a call, or the batch of the actions that the listed ones ask for.  Nothing depends on
members that the verb does not look at, on the order of members, or on how far inside batches these
differ. -/
theorem parsed_by_grammar :
    (∀ v, (ofJson? v).isSome = true ↔ Asks v) ∧
      (∀ v action, ofJson? v = some action ↔ Yields v action) ∧
      ∀ v w, Agrees v w → ofJson? v = ofJson? w := by
  refine ⟨isSome_ofJson?_iff, ofJson?_eq_some_iff, ?_⟩
  intro v w agrees
  exact ofJson?_congr agrees

/-- The members of an action that goes home, and the same in another order with one more. -/
def goHome : Members :=
  [("type", .string "navigate"), ("screenId", .null), ("target", .string "home")]

def goHomeNoted : Members :=
  [("note", .null), ("target", .string "home"), ("screenId", .null), ("type", .string "navigate")]

/-- Inside a batch, beside something that is no action. -/
def batchOf (members : Members) : Members :=
  [("type", .string "Batch"), ("actions", .array [.object members, .string "home"])]

/-- The two batches ask for the same. -/
theorem goHome_parsed_alike :
    (ofJson? (.object (batchOf goHome))).isSome = true ∧
      ofJson? (.object (batchOf goHome)) = ofJson? (.object (batchOf goHomeNoted)) := by
  obtain ⟨accepted, -, alike⟩ := parsed_by_grammar
  have names : Names goHome .navigate := verb?_eq_some_iff.mp (by decide)
  have batch : Names (batchOf goHome) .batch := verb?_eq_some_iff.mp (by decide)
  constructor
  · have target : Holds goHome "target" "home" := text?_eq_some_iff.mp rfl
    have asks : Asks (.object goHome) :=
      .leaf names nofun (.inr ⟨"target", by decide, "home", target⟩)
    exact (accepted _).mpr (.batch batch rfl List.mem_cons_self asks)
  · have inner : Agrees (.object goHome) (.object goHomeNoted) := by
      refine .own rfl fun verb names' => ?_
      obtain rfl := names.unique names'
      decide
    exact alike _ _ (.batch batch rfl rfl rfl (.cons inner (.cons (.same _) .nil)))

/-- A call of an interface, in lower case, with a body. -/
def posted : Members :=
  [("type", .string "fetch"), ("endpoint", .string "/x"), ("method", .string "post"),
    ("body", .object [])]

/-- An assignment of a list. -/
def assigned : Members :=
  [("type", .string "update"), ("key", .string "k"), ("value", .array [])]

theorem posted_names : Names posted .apiCall :=
  verb?_eq_some_iff.mp (by decide)

theorem assigned_names : Names assigned .setState :=
  verb?_eq_some_iff.mp (by decide)

/-- The method of a call is not kept as it is written, and what is no scalar is not always left
out. -/
theorem posted_not_verbatim :
    (¬∀ call text, ofJson? (.object posted) = some (.leaf (.apiCall call)) →
        Holds posted "method" text → call.method = text) ∧
      (¬∀ call, ofJson? (.object posted) = some (.leaf (.apiCall call)) →
        Lacks posted "body" → call.body = none) ∧
      ¬∀ key value, ofJson? (.object assigned) = some (.leaf (.setState key value)) →
        Lacks assigned "value" → value = "" := by
  have call : ofJson? (.object posted) =
      some (.leaf (.apiCall ⟨"/x", "POST", some [], none, none⟩)) := by
    rw [ofJson?_leaf posted_names nofun]
    rfl
  have assignment : ofJson? (.object assigned) = some (.leaf (.setState "k" "[]")) := by
    rw [ofJson?_leaf assigned_names nofun]
    rfl
  refine ⟨fun kept => ?_, fun missing => ?_, fun missing => ?_⟩
  · have same := kept _ "post" call (text?_eq_some_iff.mp rfl)
    exact absurd same (by decide)
  · have none := missing _ call (text?_eq_none_iff.mp rfl)
    cases none
  · have empty := missing _ _ assignment (text?_eq_none_iff.mp rfl)
    exact absurd empty (by decide)

end Action

end ServerDriven
