/-
Module: ServerDriven.Proofs.Codec.KeptObjects
Purpose: Objects of any form that are read as they are, with their members in the order in which they
  stand.
Main exports:
  KeptUnder, Record.Yields, StructType.forall_read, ExecutionResponse.keeps_context,
  Node.keeps_objects
-/
import ServerDriven.Proofs.Codec.Structures
import ServerDriven.Proofs.Schema.ContainedFaults

namespace ServerDriven

/-- The members that stand under a name, in their order, or none if nothing does. -/
def KeptUnder (members : List (String × Json)) (name : String) (kept : List (String × Json)) :
    Prop :=
  Entries.get? members name = some (.object kept) ∨ Entries.get? members name = none ∧ kept = []

section Kept

variable {whole : Json} {σ α β : Type} {v : Json} (h : sizeOf v ≤ sizeOf whole)

theorem keptUnder_of_value? {members : List (String × Json)}
    {h : sizeOf (Json.object members) ≤ sizeOf whole} {name : String} {place : Nat}
    {fromWritten : Nat → Written → Except DecodeError (List (String × Json))}
    {project : σ → List (String × Json)} {toJson? : List (String × Json) → Option Json}
    {kept : List (String × Json)}
    (read : (⟨name, some [], fun v _ => Codec.object.fromJson v, fromWritten, project, toJson?⟩ :
      Field whole σ (List (String × Json))).value? (.object members) h place = some kept) :
    KeptUnder members name kept := by
  rw [Field.value?_of_plain _ Codec.object.fromJson fun _ _ => rfl] at read
  change (Entries.get? members name).elim (some []) _ = some kept at read
  unfold KeptUnder
  cases found : Entries.get? members name with
  | none =>
      rw [found] at read
      exact .inr ⟨rfl, (Option.some.inj read).symm⟩
  | some w =>
      rw [found, Option.elim_some, Codec.toOption_object] at read
      cases w with
      | object members =>
          obtain rfl := Option.some.inj read
          exact .inl rfl
      | _ =>
          cases read

theorem kept_of_optional {members : List (String × Json)}
    {h : sizeOf (Json.object members) ≤ sizeOf whole} {name : String} {place : Nat}
    {fromWritten : Nat → Written → Except DecodeError (Option (List (String × Json)))}
    {project : σ → Option (List (String × Json))}
    {toJson? : Option (List (String × Json)) → Option Json} {kept? : Option (List (String × Json))}
    (read : (⟨name, some none, fun v _ => Codec.object.option.fromJson v, fromWritten, project,
      toJson?⟩ : Field whole σ (Option (List (String × Json)))).value? (.object members) h place =
        some kept?) :
    kept?.map Json.object = (Entries.get? members name).filter (· ≠ .null) := by
  rw [Field.value?_of_plain _ Codec.object.option.fromJson fun _ _ => rfl] at read
  change (Entries.get? members name).elim (some none) _ = some kept? at read
  rw [Codec.toOption_option] at read
  cases found : Entries.get? members name with
  | none =>
      rw [found] at read
      obtain rfl := Option.some.inj read
      rfl
  | some w =>
      rw [found] at read
      cases w with
      | null =>
          obtain rfl := Option.some.inj read
          rfl
      | object members =>
          obtain rfl := Option.some.inj read
          rfl
      | _ =>
          cases read

namespace Record

/-- Whatever is put together with a table has a property. -/
def Yields (v : Json) (h : sizeOf v ≤ sizeOf whole) (r : Record whole σ α) (good : α → Prop) :
    Prop :=
  ∀ x, r.gatherFrom v h = some x → good x

theorem yields_build {make : α} {good : α → Prop} (holds : good make) :
    (build make : Record whole σ α).Yields v h good := by
  rintro x ⟨⟩
  exact holds

/-- What is put together with one field more is made of what has been read from that field. -/
theorem yields_field {before : Record whole σ (β → α)} {f : Field whole σ β} {good : α → Prop}
    (earlier : before.Yields v h fun make =>
      ∀ y, f.value? v h before.size = some y → good (make y)) :
    (before.field f).Yields v h good := by
  intro x read
  obtain ⟨make, made, rest⟩ := Option.bind_eq_some_iff.mp read
  obtain ⟨y, value, rfl⟩ := Option.map_eq_some_iff.mp rest
  exact earlier make made y value

end Record

end Kept

namespace StructType

/-- What is read of a structure is put together with its table. -/
theorem forall_read (t : StructType) {v : Json} {good : t.Value → Prop}
    (yields : (t.table v).Yields v (Nat.le_refl _) good) :
    ∀ x, t.codec.fromJson v = .ok x → good x := by
  intro x done
  obtain ⟨name, read⟩ := t.fromJson_eq v
  have found := Record.toOption_fromJson name (t.table v) v (Nat.le_refl _)
  rw [← read, done] at found
  split at found
  · exact yields x found.symm
  · cases found

end StructType

section Kept

open Record (yields_build yields_field)

variable (members : List (String × Json))

theorem ExecutionRequest.keeps_context : ∀ request, codec.fromJson (.object members) = .ok request →
    KeptUnder members "context" request.context := by
  refine StructType.executionRequest.forall_read ?_
  iterate 4 refine yields_field _ ?_
  refine yields_build _ ?_
  rintro sessionId - workflowId - context kept event -
  exact keptUnder_of_value? kept

theorem ExecutionResponse.keeps_context : ∀ response,
    codec.fromJson (.object members) = .ok response →
      KeptUnder members "context" response.context := by
  refine StructType.executionResponse.forall_read ?_
  iterate 5 refine yields_field _ ?_
  refine yields_build _ ?_
  rintro sessionId - context kept currentState - stateType - screen -
  exact keptUnder_of_value? kept

theorem SaveRequest.keeps_context : ∀ request, codec.fromJson (.object members) = .ok request →
    KeptUnder members "predefined_context" request.predefinedContext := by
  refine StructType.saveRequest.forall_read ?_
  iterate 2 refine yields_field _ ?_
  refine yields_build _ ?_
  rintro states - context kept
  exact keptUnder_of_value? kept

theorem ActionData.keeps_params : ∀ action, codec.fromJson (.object members) = .ok action →
    KeptUnder members "params" action.params := by
  refine StructType.actionData.forall_read ?_
  iterate 2 refine yields_field _ ?_
  refine yields_build _ ?_
  rintro event - params kept
  exact keptUnder_of_value? kept

theorem ScreenDefinition.keeps_objects : ∀ screen, codec.fromJson (.object members) = .ok screen →
    KeptUnder members "style" screen.style ∧ KeptUnder members "references" screen.references := by
  refine StructType.screenDefinition.forall_read ?_
  iterate 6 refine yields_field _ ?_
  refine yields_build _ ?_
  rintro id - kind - name - style styleKept sections - references referencesKept
  exact ⟨keptUnder_of_value? styleKept, keptUnder_of_value? referencesKept⟩

theorem Node.keeps_objects : ∀ node, fromJson (.object members) = .ok node →
    KeptUnder members "properties" node.properties ∧ KeptUnder members "style" node.style ∧
      node.action.map Json.object = (Entries.get? members "action").filter (· ≠ .null) := by
  refine StructType.node.forall_read ?_
  unfold StructType.table record
  iterate 12 refine yields_field _ ?_
  refine yields_build _ ?_
  rintro id - kind - name - properties propertiesKept style styleKept children - position - data -
    dataSource - content - items - action actionKept
  exact ⟨keptUnder_of_value? propertiesKept, keptUnder_of_value? styleKept,
    kept_of_optional actionKept⟩

end Kept

end ServerDriven
