/-
Module: ServerDriven.Proofs.Context.Conversion
Purpose: What becomes of context values that are sent as JSON and read again, and of JSON values
  that are read as context values and sent again.
Main exports:
  ContextValue.Within, Json.Within, ContextValue.replaceFloats, Json.replaceNumbers,
  ContextValue.ofJson_toJson, ContextValue.toJson_ofJson, conversion_keeps_what_json_holds
-/
import ServerDriven.Context.Basic
import ServerDriven.Proofs.Number.Nearest

namespace ServerDriven

/-! ### Parts of a value -/

/-- A value is part of another, at any depth. -/
inductive ContextValue.Within (part : ContextValue) : ContextValue → Prop
  | here : Within part part
  | item {items : List ContextValue} {item : ContextValue} (mem : item ∈ items)
      (within : Within part item) : Within part (.list items)
  | entry {entries : Context} {entry : String × ContextValue} (mem : entry ∈ entries)
      (within : Within part entry.2) : Within part (.map entries)

/-- A JSON value is part of another, at any depth. -/
inductive Json.Within (part : Json) : Json → Prop
  | here : Within part part
  | item {items : List Json} {item : Json} (mem : item ∈ items) (within : Within part item) :
      Within part (.array items)
  | member {members : List (String × Json)} {member : String × Json} (mem : member ∈ members)
      (within : Within part member.2) : Within part (.object members)

/-! ### Replacing numbers -/

namespace ContextValue

mutual

/-- The same value with something else in the place of each binary number. -/
def replaceFloats (f : Binary64 → ContextValue) : ContextValue → ContextValue
  | .float x => f x
  | .list items => .list (replaceItems f items)
  | .map entries => .map (replaceEntries f entries)
  | .null => .null
  | .bool b => .bool b
  | .integer n least greatest => .integer n least greatest
  | .string s => .string s

def replaceItems (f : Binary64 → ContextValue) : List ContextValue → List ContextValue
  | [] => []
  | item :: rest => replaceFloats f item :: replaceItems f rest

def replaceEntries (f : Binary64 → ContextValue) : Context → Context
  | [] => []
  | (key, value) :: rest => (key, replaceFloats f value) :: replaceEntries f rest

end

/-- A binary number as it is read again after it was sent. -/
def ofSent : Binary64 → ContextValue
  | .finite x => .float (.finite x)
  | .infinite false => .string "inf"
  | .infinite true => .string "-inf"
  | .nan => .string "NaN"

/-- Every binary number in a value is finite. -/
def IsFinite (c : ContextValue) : Prop := ∀ x, Within (.float x) c → ∃ y, x = .finite y

end ContextValue

namespace Json

mutual

/-- The same value with another number in the place of each. -/
def replaceNumbers (f : Number → Number) : Json → Json
  | .number n => .number (f n)
  | .array items => .array (replaceItems f items)
  | .object members => .object (replaceMembers f members)
  | .null => .null
  | .bool b => .bool b
  | .string s => .string s

def replaceItems (f : Number → Number) : List Json → List Json
  | [] => []
  | item :: rest => replaceNumbers f item :: replaceItems f rest

def replaceMembers (f : Number → Number) : List (String × Json) → List (String × Json)
  | [] => []
  | (key, value) :: rest => (key, replaceNumbers f value) :: replaceMembers f rest

end

end Json

/-- A number that is an integer, and too great for 64 bits with a sign. -/
def Number.IsLarge : Number → Prop
  | .integer n _ _ => 9_223_372_036_854_775_808 ≤ n
  | .float _ => False

/-- A number as it is sent again after it was read. -/
def Number.resent : Number → Number
  | .integer n least greatest =>
    if n < 9_223_372_036_854_775_808 then .integer n least greatest
    else match Binary64.ofInt n with
      | .finite x => .float x
      | _ => .integer n least greatest
  | .float x => .float x

/-- No integer in a value is too great for 64 bits with a sign. -/
def Json.IsNarrow (v : Json) : Prop := ∀ n, Within (.number n) v → ¬ n.IsLarge

/-! ### Entry by entry -/

namespace ContextValue

theorem ofMembers_eq_map (members : List (String × Json)) :
    ofMembers members = members.map fun member => (member.1, ofJson member.2) := by
  induction members with
  | nil =>
      rfl
  | cons member rest ih =>
      simp [ofMembers, ih]

theorem toMembers_eq_map (entries : Context) :
    toMembers entries = entries.map fun entry => (entry.1, entry.2.toJson) := by
  induction entries with
  | nil =>
      rfl
  | cons entry rest ih =>
      simp [toMembers, ih]

end ContextValue

namespace Json

variable (f : Number → Number)

theorem replaceMembers_eq_map (members : List (String × Json)) :
    replaceMembers f members =
      members.map fun member => (member.1, member.2.replaceNumbers f) := by
  induction members with
  | nil =>
      rfl
  | cons member rest ih =>
      simp [replaceMembers, ih]

end Json

/-! ### What replacing leaves alone -/

namespace ContextValue

theorem within_list_iff {part : ContextValue} {items : List ContextValue} :
    Within part (.list items) ↔ part = .list items ∨ ∃ item ∈ items, Within part item := by
  constructor
  · intro within
    cases within with
    | here =>
        exact .inl rfl
    | item mem within =>
        exact .inr ⟨_, mem, within⟩
  · rintro (rfl | ⟨item, mem, within⟩)
    · exact .here
    · exact .item mem within

theorem within_map_iff {part : ContextValue} {entries : Context} :
    Within part (.map entries) ↔ part = .map entries ∨ ∃ entry ∈ entries, Within part entry.2 := by
  constructor
  · intro within
    cases within with
    | here =>
        exact .inl rfl
    | entry mem within =>
        exact .inr ⟨_, mem, within⟩
  · rintro (rfl | ⟨entry, mem, within⟩)
    · exact .here
    · exact .entry mem within

/-- A replacement leaves a number alone. -/
def Spares (f : Binary64 → ContextValue) (c : ContextValue) : Prop :=
  ∀ x, Within (.float x) c → f x = .float x

variable {f : Binary64 → ContextValue}

theorem spares_float {y : Binary64} : Spares f (.float y) ↔ f y = .float y := by
  constructor
  · intro spares
    exact spares y .here
  · intro same x within
    cases within
    exact same

theorem spares_list {items : List ContextValue} :
    Spares f (.list items) ↔ ∀ item ∈ items, Spares f item := by
  simp only [Spares, within_list_iff, reduceCtorEq, false_or]
  grind

theorem spares_map {entries : Context} :
    Spares f (.map entries) ↔ ∀ entry ∈ entries, Spares f entry.2 := by
  simp only [Spares, within_map_iff, reduceCtorEq, false_or]
  grind

mutual

/-- A value stays as it is if every number in it does. -/
theorem replaceFloats_eq_self_iff :
    ∀ c : ContextValue, c.replaceFloats f = c ↔ Spares f c
  | .null | .bool _ | .integer .. | .string _ => by
      constructor
      · intro _ x within
        cases within
      · intro _
        rfl
  | .float x => by
      rw [spares_float]
      rfl
  | .list items => by
      rw [spares_list, ← replaceItems_eq_self_iff items]
      simp [replaceFloats]
  | .map entries => by
      rw [spares_map, ← replaceEntries_eq_self_iff entries]
      simp [replaceFloats]

theorem replaceItems_eq_self_iff :
    ∀ items : List ContextValue, replaceItems f items = items ↔ ∀ item ∈ items, Spares f item
  | [] => by
      simp [replaceItems]
  | item :: rest => by
      simp [replaceItems, replaceFloats_eq_self_iff item, replaceItems_eq_self_iff rest]

theorem replaceEntries_eq_self_iff :
    ∀ entries : Context, replaceEntries f entries = entries ↔ ∀ entry ∈ entries, Spares f entry.2
  | [] => by
      simp [replaceEntries]
  | (key, value) :: rest => by
      simp [replaceEntries, replaceFloats_eq_self_iff value, replaceEntries_eq_self_iff rest]

end

end ContextValue

namespace Json

theorem within_array_iff {part : Json} {items : List Json} :
    Within part (.array items) ↔ part = .array items ∨ ∃ item ∈ items, Within part item := by
  constructor
  · intro within
    cases within with
    | here =>
        exact .inl rfl
    | item mem within =>
        exact .inr ⟨_, mem, within⟩
  · rintro (rfl | ⟨item, mem, within⟩)
    · exact .here
    · exact .item mem within

theorem within_object_iff {part : Json} {members : List (String × Json)} :
    Within part (.object members) ↔
      part = .object members ∨ ∃ member ∈ members, Within part member.2 := by
  constructor
  · intro within
    cases within with
    | here =>
        exact .inl rfl
    | member mem within =>
        exact .inr ⟨_, mem, within⟩
  · rintro (rfl | ⟨member, mem, within⟩)
    · exact .here
    · exact .member mem within

/-- A replacement leaves the numbers in a value alone. -/
def Spares (f : Number → Number) (v : Json) : Prop := ∀ n, Within (.number n) v → f n = n

variable {f g : Number → Number}

theorem spares_number {m : Number} : Spares f (.number m) ↔ f m = m := by
  constructor
  · intro spares
    exact spares m .here
  · intro same n within
    cases within
    exact same

theorem spares_array {items : List Json} :
    Spares f (.array items) ↔ ∀ item ∈ items, Spares f item := by
  simp only [Spares, within_array_iff, reduceCtorEq, false_or]
  grind

theorem spares_object {members : List (String × Json)} :
    Spares f (.object members) ↔ ∀ member ∈ members, Spares f member.2 := by
  simp only [Spares, within_object_iff, reduceCtorEq, false_or]
  grind

mutual

/-- A value stays as it is if every number in it does. -/
theorem replaceNumbers_eq_self_iff : ∀ v : Json, v.replaceNumbers f = v ↔ Spares f v
  | .null | .bool _ | .string _ => by
      constructor
      · intro _ n within
        cases within
      · intro _
        rfl
  | .number n => by
      rw [spares_number]
      simp [replaceNumbers]
  | .array items => by
      rw [spares_array, ← replaceItems_eq_self_iff items]
      simp [replaceNumbers]
  | .object members => by
      rw [spares_object, ← replaceMembers_eq_self_iff members]
      simp [replaceNumbers]

theorem replaceItems_eq_self_iff :
    ∀ items : List Json, replaceItems f items = items ↔ ∀ item ∈ items, Spares f item
  | [] => by
      simp [replaceItems]
  | item :: rest => by
      simp [replaceItems, replaceNumbers_eq_self_iff item, replaceItems_eq_self_iff rest]

theorem replaceMembers_eq_self_iff :
    ∀ members : List (String × Json),
      replaceMembers f members = members ↔ ∀ member ∈ members, Spares f member.2
  | [] => by
      simp [replaceMembers]
  | (key, value) :: rest => by
      simp [replaceMembers, replaceNumbers_eq_self_iff value, replaceMembers_eq_self_iff rest]

end

mutual

/-- Two replacements, one after the other. -/
theorem replaceNumbers_replaceNumbers :
    ∀ v : Json, (v.replaceNumbers g).replaceNumbers f = v.replaceNumbers (f ∘ g)
  | .null | .bool _ | .string _ | .number _ => rfl
  | .array items => by
      simp [replaceNumbers, replaceItems_replaceItems items]
  | .object members => by
      simp [replaceNumbers, replaceMembers_replaceMembers members]

theorem replaceItems_replaceItems :
    ∀ items : List Json, replaceItems f (replaceItems g items) = replaceItems (f ∘ g) items
  | [] => rfl
  | item :: rest => by
      simp [replaceItems, replaceNumbers_replaceNumbers item, replaceItems_replaceItems rest]

theorem replaceMembers_replaceMembers :
    ∀ members : List (String × Json),
      replaceMembers f (replaceMembers g members) = replaceMembers (f ∘ g) members
  | [] => rfl
  | (key, value) :: rest => by
      simp [replaceMembers, replaceNumbers_replaceNumbers value,
        replaceMembers_replaceMembers rest]

end

end Json

/-! ### Numbers -/

namespace Number

/-- An integer that is too great for 64 bits with a sign is sent again as the nearest binary number.
-/
theorem resent_large {n : Int} {least : -9_223_372_036_854_775_808 ≤ n}
    {greatest : n < 18_446_744_073_709_551_616} (large : IsLarge (.integer n least greatest)) :
    ∃ x, Binary64.ofInt n = .finite x ∧ resent (.integer n least greatest) = .float x ∧
      x.IsNearest n := by
  have above : 9_223_372_036_854_775_808 ≤ n := large
  obtain ⟨k, rfl⟩ := Int.eq_ofNat_of_zero_le (show 0 ≤ n by omega)
  have bounded : k < twoTo 1023 :=
    calc k < twoTo 64 := by
          change k < 18_446_744_073_709_551_616
          omega
      _ ≤ twoTo 1023 := twoTo_le_twoTo (by decide)
  obtain ⟨x, rounded, nearest⟩ := Binary64.ofNat_isNearest (show 0 < k by omega) bounded
  have rounds : Binary64.ofInt k = .finite x := rounded
  refine ⟨x, rounds, ?_, nearest⟩
  unfold resent
  dsimp only
  rw [if_neg (by omega), rounds]

theorem resent_of_not_isLarge {n : Number} (small : ¬ n.IsLarge) : n.resent = n := by
  cases n with
  | integer n least greatest =>
      unfold resent
      dsimp only
      rw [if_pos (by simpa [IsLarge] using small)]
  | float x =>
      rfl

theorem resent_eq_self_iff {n : Number} : n.resent = n ↔ ¬ n.IsLarge := by
  constructor
  · intro same large
    cases n with
    | integer n least greatest =>
        obtain ⟨x, -, sent, -⟩ := resent_large large
        cases same.symm.trans sent
    | float x =>
        exact large
  · exact resent_of_not_isLarge

/-- What has been sent again stays as it is. -/
theorem resent_resent (n : Number) : n.resent.resent = n.resent := by
  by_cases large : n.IsLarge
  · cases n with
    | integer n least greatest =>
        obtain ⟨x, -, sent, -⟩ := resent_large large
        rw [sent]
        rfl
    | float x =>
        rfl
  · rw [resent_of_not_isLarge large, resent_of_not_isLarge large]

end Number

/-! ### There and back -/

namespace ContextValue

theorem ofJson_floatJson (x : Binary64) : ofJson (floatJson x) = ofSent x := by
  cases x with
  | finite x =>
      rfl
  | infinite negative =>
      cases negative <;> rfl
  | nan =>
      rfl

theorem toJson_ofNumber (n : Number) : (ofNumber n).toJson = .number n.resent := by
  cases n with
  | integer n least greatest =>
      by_cases large : Number.IsLarge (.integer n least greatest)
      · obtain ⟨x, rounded, sent, -⟩ := Number.resent_large large
        have above : ¬ n < 9_223_372_036_854_775_808 := Int.not_lt.mpr large
        simp [ofNumber, above, rounded, sent, toJson, floatJson]
      · have below : n < 9_223_372_036_854_775_808 := by simpa [Number.IsLarge] using large
        simp [ofNumber, below, Number.resent, toJson]
  | float x =>
      rfl

mutual

/-- A context value that was sent is read as it was, but for numbers that are not finite. -/
theorem ofJson_toJson : ∀ c : ContextValue, ofJson c.toJson = c.replaceFloats ofSent
  | .null | .bool _ | .string _ => rfl
  | .integer n least greatest => by
      simp [toJson, ofJson, ofNumber, replaceFloats, greatest]
  | .float x => ofJson_floatJson x
  | .list items => by
      simp [toJson, ofJson, replaceFloats, ofItems_toItems items]
  | .map entries => by
      simp [toJson, ofJson, replaceFloats, ofMembers_toMembers entries]

theorem ofItems_toItems :
    ∀ items : List ContextValue, ofItems (toItems items) = replaceItems ofSent items
  | [] => rfl
  | item :: rest => by
      simp [toItems, ofItems, replaceItems, ofJson_toJson item, ofItems_toItems rest]

theorem ofMembers_toMembers :
    ∀ entries : Context, ofMembers (toMembers entries) = replaceEntries ofSent entries
  | [] => rfl
  | (key, value) :: rest => by
      simp [toMembers, ofMembers, replaceEntries, ofJson_toJson value, ofMembers_toMembers rest]

end

mutual

/-- A JSON value that was read is sent as it was, but for integers that are too great. -/
theorem toJson_ofJson : ∀ v : Json, (ofJson v).toJson = v.replaceNumbers Number.resent
  | .null | .bool _ | .string _ => rfl
  | .number n => toJson_ofNumber n
  | .array items => by
      simp [ofJson, toJson, Json.replaceNumbers, toItems_ofItems items]
  | .object members => by
      simp [ofJson, toJson, Json.replaceNumbers, toMembers_ofMembers members]

theorem toItems_ofItems :
    ∀ items : List Json, toItems (ofItems items) = Json.replaceItems Number.resent items
  | [] => rfl
  | item :: rest => by
      simp [ofItems, toItems, Json.replaceItems, toJson_ofJson item, toItems_ofItems rest]

theorem toMembers_ofMembers :
    ∀ members : List (String × Json),
      toMembers (ofMembers members) = Json.replaceMembers Number.resent members
  | [] => rfl
  | (key, value) :: rest => by
      simp [ofMembers, toMembers, Json.replaceMembers, toJson_ofJson value,
        toMembers_ofMembers rest]

end

theorem ofSent_eq_float_iff {x : Binary64} : ofSent x = .float x ↔ ∃ y, x = .finite y := by
  cases x with
  | finite y =>
      simp [ofSent]
  | infinite negative =>
      cases negative <;> simp [ofSent]
  | nan =>
      simp [ofSent]

theorem spares_ofSent_iff {c : ContextValue} : Spares ofSent c ↔ c.IsFinite := by
  simp only [Spares, IsFinite, ofSent_eq_float_iff]

end ContextValue

theorem Json.spares_resent_iff {v : Json} : Spares Number.resent v ↔ v.IsNarrow := by
  simp only [Spares, IsNarrow, Number.resent_eq_self_iff]

theorem Json.replaceNumbers_resent_resent (v : Json) :
    (v.replaceNumbers Number.resent).replaceNumbers Number.resent =
      v.replaceNumbers Number.resent := by
  rw [replaceNumbers_replaceNumbers]
  congr 1
  funext n
  exact n.resent_resent

/-! ### Contexts -/

namespace ContextValue

/-- A key is reserved on both sides or on neither. -/
theorem visible_ofMembers (members : List (String × Json)) :
    (ofMembers members).visible =
      ofMembers (members.filter fun member => !(['_', '_'].isPrefixOf member.1.toList)) := by
  simp only [Context.visible_eq, ofMembers_eq_map, List.filter_map]
  rfl

theorem toMembers_visible (context : Context) :
    toMembers context.visible =
      (toMembers context).filter fun member => !(['_', '_'].isPrefixOf member.1.toList) := by
  simp only [Context.visible_eq, toMembers_eq_map, List.filter_map]
  rfl

open Json in
/-- Converting between context values and JSON loses nothing but what the other side cannot hold, at
any depth and with all keys and items in their order.  A context value that is sent and read again is
the same, but for numbers that are not finite, which are texts then.  A JSON value that is read and
sent again is the same, but for integers that are too great for 64 bits with a sign, which are the
nearest binary numbers then; after that nothing changes any more.  Contexts are converted entry by
entry, and it does not matter whether the entries that the user may not see, whose keys begin with
two underscores, are left out before or after. -/
theorem conversion_keeps_what_json_holds :
    (∀ c : ContextValue,
      ofJson c.toJson = c.replaceFloats ofSent ∧ (ofJson c.toJson = c ↔ c.IsFinite)) ∧
    (∀ v : Json,
      (ofJson v).toJson = v.replaceNumbers Number.resent ∧
      ((ofJson v).toJson = v ↔ v.IsNarrow) ∧
      (ofJson (ofJson v).toJson).toJson = (ofJson v).toJson) ∧
    (∀ n : Number, ¬ n.IsLarge → n.resent = n) ∧
    (∀ k least greatest, Number.IsLarge (.integer k least greatest) →
      ∃ x, Number.resent (.integer k least greatest) = .float x ∧ x.IsNearest k) ∧
    (∀ context : Context,
      toMembers context = context.map (fun entry => (entry.1, entry.2.toJson)) ∧
      (ofMembers (toMembers context) = context ↔ ∀ entry ∈ context, entry.2.IsFinite) ∧
      (context.visible = context.filter fun entry => !(['_', '_'].isPrefixOf entry.1.toList)) ∧
      toMembers context.visible =
        (toMembers context).filter fun member => !(['_', '_'].isPrefixOf member.1.toList)) ∧
    ∀ members : List (String × Json),
      ofMembers members = members.map (fun member => (member.1, ofJson member.2)) ∧
      (toMembers (ofMembers members) = members ↔ ∀ member ∈ members, member.2.IsNarrow) ∧
      toMembers (ofMembers (toMembers (ofMembers members))) = toMembers (ofMembers members) ∧
      (ofMembers members).visible =
        ofMembers (members.filter fun member => !(['_', '_'].isPrefixOf member.1.toList)) := by
  refine ⟨fun c => ⟨ofJson_toJson c, ?_⟩, fun v => ⟨toJson_ofJson v, ?_, ?_⟩,
    fun n => Number.resent_of_not_isLarge, fun k least greatest large => ?_,
    fun context => ⟨toMembers_eq_map context, ?_, context.visible_eq, toMembers_visible context⟩,
    fun members => ⟨ofMembers_eq_map members, ?_, ?_, visible_ofMembers members⟩⟩
  · rw [ofJson_toJson, replaceFloats_eq_self_iff, spares_ofSent_iff]
  · rw [toJson_ofJson, replaceNumbers_eq_self_iff, spares_resent_iff]
  · rw [toJson_ofJson, toJson_ofJson, replaceNumbers_resent_resent]
  · obtain ⟨x, -, sent, nearest⟩ := Number.resent_large large
    exact ⟨x, sent, nearest⟩
  · rw [ofMembers_toMembers, replaceEntries_eq_self_iff]
    simp only [spares_ofSent_iff]
  · rw [toMembers_ofMembers, replaceMembers_eq_self_iff]
    simp only [spares_resent_iff]
  · simp only [toMembers_ofMembers, replaceMembers_eq_map, List.map_map, Function.comp_def,
      replaceNumbers_resent_resent]

/-- What is not a number comes back as a text, and integers stay integers. -/
example :
    ofJson (toJson (.map [("b", .list [.float .nan, .integer 7 (by decide) (by decide)]),
      ("a", .float (.infinite true))])) =
      .map [("b", .list [.string "NaN", .integer 7 (by decide) (by decide)]),
        ("a", .string "-inf")] := rfl

end ContextValue

end ServerDriven
