import Unflatten.Proofs.Entries
import Unflatten.Proofs.LetterCase
import Unflatten.Program.Run

/-!
# Changes of fields

What an assignment makes of an object is made of one field: what is in the field decides what comes
into it. Changes of different fields do not disturb each other.
-/

set_option autoImplicit false

namespace Unflatten

/-- A value becomes another one, or fails to. -/
abbrev Change :=
  Value → Option Value

/-- A change is steady if it leaves alone whatever it has made. -/
def Change.Steady (change : Change) : Prop :=
  ∀ before after, change before = some after → change after = some after

namespace Value

theorem setField_cases (value : Value) :
    (∃ object : Object, value = object.toValue) ∨ ∀ name item, value.setField name item = value := by
  cases value with
  | object typeName fields => exact Or.inl ⟨⟨typeName, fields⟩, rfl⟩
  | _ => exact Or.inr fun _ _ => rfl

theorem setField_setField (value : Value) (name : String) (earlier item : Value) :
    (value.setField name earlier).setField name item = value.setField name item := by
  rcases value.setField_cases with ⟨object, rfl⟩ | idle
  · exact congrArg (Value.object object.typeName) (Entries.insert_insert _ _ _ _)
  · rw [idle name earlier]

theorem setField_comm (value : Value) {name other : String} (differs : name ≠ other)
    (item changed : Value) :
    (value.setField name item).setField other changed =
      (value.setField other changed).setField name item := by
  rcases value.setField_cases with ⟨object, rfl⟩ | idle
  · exact congrArg (Value.object object.typeName) (Entries.insert_comm differs _ _ _)
  · rw [idle name item, idle other changed, idle name item]

theorem field_setField (object : Object) (name : String) (item : Value) :
    (object.toValue.setField name item).field name = item := by
  have found := Entries.get?_insert_self name item object.fields
  simp only [field, setField, Object.toValue, Object.set, Object.getIgnoringCase?, found]
  rfl

theorem field_of_setField {object : Object} {name other : String} {item : Value}
    (holds : object.toValue.setField name item = object.toValue) (differs : name ≠ other)
    (changed : Value) :
    object.toValue.field name = item ∧
      (object.toValue.setField other changed).field name = item := by
  refine ⟨by rw [← holds]; exact field_setField object name item, ?_⟩
  rw [← holds, setField_comm _ differs]
  exact field_setField (object.set other changed) name item

theorem field_setField_other (value : Value) {name other : String}
    (apart : Text.equalIgnoringCase name other = false) (item : Value) :
    (value.setField name item).field other = value.field other := by
  rcases value.setField_cases with ⟨object, rfl⟩ | idle
  · have differs : other ≠ name := by
      rintro rfl
      rw [Text.equalIgnoringCase_refl] at apart
      cases apart
    have exact := Entries.get?_insert_of_ne item object.fields differs
    have alike := @Entries.find?_insert Value name item object.fields
      (fun key => Text.equalIgnoringCase key other) apart
    simp only [field, setField, Object.toValue, Object.set, Object.getIgnoringCase?, exact, alike]
  · rw [idle name item]

end Value

/-- What is made of the present value of a field, if anything. -/
structure FieldChange where
  name : String
  made : Option Change

namespace FieldChange

def apply (change : FieldChange) (value : Value) : Option Value :=
  match change.made with
  | none => some value
  | some made => (made (value.field change.name)).map (value.setField change.name)

/-- One change after the other. -/
def applyAll : List FieldChange → Value → Option Value
  | [], value => some value
  | first :: rest, value => (first.apply value).bind (applyAll rest)

def Steady (change : FieldChange) : Prop :=
  ∀ made, change.made = some made → made.Steady

variable {change other : FieldChange} {changes more : List FieldChange} {before after : Value}

theorem applyAll_append (changes more : List FieldChange) (value : Value) :
    applyAll (changes ++ more) value = (applyAll changes value).bind (applyAll more) := by
  induction changes generalizing value with
  | nil => rfl
  | cons first rest ih =>
      rw [List.cons_append, applyAll, applyAll, Option.bind_assoc]
      exact congrArg _ (funext ih)

theorem apply_comm (apart : Text.equalIgnoringCase change.name other.name = false)
    (value : Value) :
    (change.apply value).bind other.apply = (other.apply value).bind change.apply := by
  have differs : change.name ≠ other.name := by
    intro same
    rw [same, Text.equalIgnoringCase_refl] at apart
    cases apart
  have backward : Text.equalIgnoringCase other.name change.name = false :=
    (Text.equalIgnoringCase_comm _ _).trans apart
  unfold FieldChange.apply
  cases change.made with
  | none => simp
  | some made =>
      cases other.made with
      | none => simp
      | some madeOther =>
          simp only [Option.bind_map, Function.comp_def, Value.field_setField_other _ apart,
            Value.field_setField_other _ backward]
          cases made (value.field change.name) with
          | none => simp
          | some item =>
              cases madeOther (value.field other.name) with
              | none => rfl
              | some changed => exact congrArg some (Value.setField_comm value differs item changed)

/-! ## Steady changes -/

theorem Steady.apply (steady : change.Steady) : Change.Steady change.apply := by
  intro before after given
  unfold FieldChange.apply at given ⊢
  cases isMade : change.made with
  | none => rfl
  | some made =>
      rw [isMade] at given
      obtain ⟨item, isItem, rfl⟩ := Option.map_eq_some_iff.mp given
      rcases before.setField_cases with ⟨object, rfl⟩ | idle
      · dsimp only
        rw [Value.field_setField, steady made isMade _ _ isItem, Option.map_some,
          Value.setField_setField]
      · rwa [idle change.name item] at given ⊢

theorem apply_keeps (differs : change.name ≠ other.name)
    (kept : change.apply before = some before) (given : other.apply before = some after) :
    change.apply after = some after := by
  unfold FieldChange.apply at kept given ⊢
  cases isMade : change.made with
  | none => rfl
  | some made =>
      rw [isMade] at kept
      cases alsoMade : other.made with
      | none =>
          rw [alsoMade] at given
          cases given
          exact kept
      | some madeOther =>
          rw [alsoMade] at given
          obtain ⟨item, isItem, same⟩ := Option.map_eq_some_iff.mp kept
          obtain ⟨changed, -, rfl⟩ := Option.map_eq_some_iff.mp given
          dsimp only
          rcases before.setField_cases with ⟨object, rfl⟩ | idle
          · obtain ⟨present, still⟩ := Value.field_of_setField same differs changed
            rw [present] at isItem
            rw [still, isItem, Option.map_some, ← Value.setField_comm _ differs, same]
          · rwa [idle other.name changed]

theorem applyAll_keeps (apart : ∀ other ∈ changes, change.name ≠ other.name)
    (kept : change.apply before = some before) (given : applyAll changes before = some after) :
    change.apply after = some after := by
  induction changes generalizing before with
  | nil =>
      cases given
      exact kept
  | cons first rest ih =>
      obtain ⟨between, isFirst, later⟩ := Option.bind_eq_some_iff.mp given
      exact ih (fun other member => apart other (by simp [member]))
        (apply_keeps (apart first (by simp)) kept isFirst) later

theorem applyAll_steady (distinct : (changes.map FieldChange.name).Nodup)
    (steady : ∀ change ∈ changes, change.Steady) : Change.Steady (applyAll changes) := by
  induction changes with
  | nil => exact fun _ _ _ => rfl
  | cons first rest ih =>
      rw [List.map_cons, List.nodup_cons] at distinct
      intro before after given
      obtain ⟨between, isFirst, later⟩ := Option.bind_eq_some_iff.mp given
      have settled := (steady first (by simp)).apply before between isFirst
      have kept := applyAll_keeps (fun other member same =>
        distinct.1 (by rw [same]; exact List.mem_map_of_mem member)) settled later
      rw [applyAll, kept, Option.bind_some]
      exact ih distinct.2 (fun change member => steady change (by simp [member])) between after
        later

theorem applyAll_object (isObject : Expectation.object.accepts before = true)
    (given : applyAll changes before = some after) : Expectation.object.accepts after = true := by
  induction changes generalizing before with
  | nil =>
      cases given
      exact isObject
  | cons first rest ih =>
      obtain ⟨between, isFirst, later⟩ := Option.bind_eq_some_iff.mp given
      refine ih ?_ later
      unfold FieldChange.apply at isFirst
      cases isMade : first.made with
      | none =>
          rw [isMade] at isFirst
          cases isFirst
          exact isObject
      | some made =>
          rw [isMade] at isFirst
          obtain ⟨item, -, rfl⟩ := Option.map_eq_some_iff.mp isFirst
          rcases before.setField_cases with ⟨object, rfl⟩ | idle
          · rfl
          · rwa [idle]

end FieldChange

end Unflatten
