import Mathlib.Logic.Relation
import Unflatten.Proofs.Building.Steps
import Unflatten.Proofs.Entries

/-!
# Sound drafts

In a sound draft the references are those of the object types that are defined, a reference is bound
if and only if its type is built, and whatever a built type requires is built as well, so that no
built type requires itself. Building a type whose requirements are built keeps a draft sound.
-/

set_option autoImplicit false

namespace Unflatten

namespace Entries

variable {α : Type} {key : String} {value : α} {entries : Entries α}

theorem mem_names_of_get? (found : entries.get? key = some value) : key ∈ entries.names :=
  List.mem_map_of_mem (mem_of_get? found)

theorem get?_insert (key other : String) (value : α) (entries : Entries α) :
    (entries.insert key value).get? other =
      if other = key then some value else entries.get? other := by
  split
  · rename_i same
    rw [same, get?_insert_self]
  · rename_i differs
    exact get?_insert_of_ne value entries differs

end Entries

namespace Shape

/-! ## Requirements -/

/-- The definition of the one key requires the type of the other one. -/
def Requires (definitions : Entries TypeDefinition) (key other : String) : Prop :=
  ∃ definition, definitions.get? key = some definition ∧
    other ∈ requirements definitions definition

def IsCyclic (definitions : Entries TypeDefinition) : Prop :=
  ∃ key, Relation.TransGen (Requires definitions) key key

variable {definitions : Entries TypeDefinition} {definition : TypeDefinition} {key other : String}

theorem mem_requirements : other ∈ requirements definitions definition ↔
    (other ∈ (definition.expressions.flatMap namesIn).map typeKey ∧
      ∃ container, definitions.get? other = some container ∧ container.isObject = false) ∨
    ∃ base, definition.base? = some base ∧ typeKey base = other ∧
      ∃ declared, definitions.get? other = some declared := by
  rw [requirements, List.mem_append, List.mem_filter, Option.mem_toList,
    Option.filter_eq_some_iff, Option.map_eq_some_iff, Option.isSome_iff_exists]
  refine or_congr (and_congr Iff.rfl ?_) ⟨?_, ?_⟩
  · cases definitions.get? other <;> simp
  · rintro ⟨⟨base, extended, same⟩, isDeclared⟩
    exact ⟨base, extended, same, isDeclared⟩
  · rintro ⟨base, extended, same, isDeclared⟩
    exact ⟨⟨base, extended, same⟩, isDeclared⟩

theorem Requires.declared (requires : Requires definitions key other) :
    ∃ declared, definitions.get? other = some declared := by
  obtain ⟨definition, -, member⟩ := requires
  rcases mem_requirements.mp member with ⟨-, container, found, -⟩ | ⟨-, -, -, found⟩
  · exact ⟨container, found⟩
  · exact found

/-- All that the key requires, directly or not, comes to an end. -/
def Settled (definitions : Entries TypeDefinition) (key : String) : Prop :=
  Acc (fun other key => Requires definitions key other) key

theorem Settled.not_cyclic (settled : Settled definitions key) :
    ¬ Relation.TransGen (Requires definitions) key key := by
  intro cyclic
  have ended : Acc (Relation.TransGen fun other key => Requires definitions key other) key :=
    Acc.transGen settled
  induction ended with
  | intro key _ ih => exact ih key (Relation.transGen_swap.mpr cyclic) settled cyclic

/-! ## Sound drafts -/

/-- Definitions stand under their own keys, and the object types among them, and no others, have
references, each one of its own. -/
structure Declared (definitions : Entries TypeDefinition) (references : Entries Reference) :
    Prop where
  keyed : ∀ {key definition}, definitions.get? key = some definition →
    typeKey definition.name = key
  referenced : ∀ {key definition}, definitions.get? key = some (.object definition) →
    ∃ ref, references.get? key = some ref ∧ ref.name = definition.name
  defined : ∀ {key ref}, references.get? key = some ref →
    ∃ definition, definitions.get? key = some (.object definition)
  apart : ∀ {key other ref another}, references.get? key = some ref →
    references.get? other = some another → ref.ident = another.ident → key = other

namespace Draft

structure Sound (draft : Draft) : Prop where
  declared : Declared draft.definitions draft.references
  bound : ∀ {key ref}, draft.references.get? key = some ref → ∀ type,
    draft.bindings.find? ref = some type ↔ draft.built.get? key = some (.object type)
  known : ∀ {key target}, draft.built.get? key = some target → target.RefersTo draft.Knows
  solid : ∀ key ref, draft.built.get? key ≠ some (.reference ref)
  named : ∀ {key definition target}, draft.definitions.get? key = some definition →
    draft.built.get? key = some target → target.typeName = definition.name ∧
      (definition.isObject = true → ∃ type, target = .object type)
  settled : ∀ {key definition target}, draft.definitions.get? key = some definition →
    draft.built.get? key = some target → Settled draft.definitions key

/-- All that the definition requires is built. -/
def Ready (draft : Draft) (definition : TypeDefinition) : Prop :=
  ∀ other ∈ requirements draft.definitions definition,
    ∃ earlier, draft.built.get? other = some earlier

variable {draft later : Draft} {target : Target} {name : String}

theorem lookUp_cases (found : draft.lookUp name = some target) :
    draft.built.get? (typeKey name) = some target ∨
      draft.built.get? (typeKey name) = none ∧ ∃ ref, target = .reference ref ∧
        draft.references.get? (typeKey name) = some ref := by
  unfold Draft.lookUp at found
  split at found
  · rename_i built
    cases found
    exact Or.inl built
  · rename_i unbuilt
    obtain ⟨ref, referenced, rfl⟩ := Option.map_eq_some_iff.mp found
    exact Or.inr ⟨unbuilt, ref, rfl, referenced⟩

theorem Sound.closed (sound : draft.Sound) : draft.Closed := by
  intro name target found
  rcases lookUp_cases found with built | ⟨-, ref, rfl, referenced⟩
  · exact sound.known built
  · exact Target.refersTo_reference.mpr ⟨typeKey name, referenced⟩

theorem Sound.not_reference (sound : draft.Sound)
    (built : ∀ definition, draft.definitions.get? (typeKey name) = some definition →
      ∃ target, draft.built.get? (typeKey name) = some target) (ref : Reference) :
    draft.lookUp name ≠ some (.reference ref) := by
  intro found
  rcases lookUp_cases found with solid | ⟨unbuilt, ref, -, referenced⟩
  · exact sound.solid _ ref solid
  · obtain ⟨definition, defined⟩ := sound.declared.defined referenced
    obtain ⟨target, isBuilt⟩ := built _ defined
    rw [unbuilt] at isBuilt
    cases isBuilt

/-! ## One more type -/

theorem Builds.same (builds : draft.Builds definition target later) :
    later.definitions = draft.definitions ∧ later.references = draft.references ∧
      later.built = draft.built := by
  cases builds with
  | object _ _ bound =>
      rw [bound]
      exact ⟨rfl, rfl, rfl⟩
  | sequence _ numbered | dictionary _ numbered =>
      rw [numbered]
      exact ⟨rfl, rfl, rfl⟩

theorem Builds.named (builds : draft.Builds definition target later) :
    target.typeName = definition.name ∧
    (definition.isObject = true → ∃ type, target = .object type) ∧
      ∀ ref, target ≠ .reference ref := by
  cases builds with
  | object _ named _ => exact ⟨named, fun _ => ⟨_, rfl⟩, by simp⟩
  | sequence named _ | dictionary named _ => exact ⟨named, by rintro ⟨⟩, by simp⟩

/-- The draft with the type of one more key. -/
def withBuilt (draft : Draft) (key : String) (target : Target) : Draft :=
  { draft with built := draft.built.insert key target }

theorem Builds.get?_withBuilt (builds : draft.Builds definition target later) (other : String) :
    (later.withBuilt key target).built.get? other =
      if other = key then some target else draft.built.get? other := by
  rw [withBuilt, Entries.get?_insert, builds.same.2.2]

theorem Sound.settled_of_required (sound : draft.Sound)
    (defined : draft.definitions.get? key = some definition)
    (required : draft.Ready definition) : Settled draft.definitions key := by
  refine Acc.intro key fun other requires => ?_
  obtain ⟨declared, isDeclared⟩ := requires.declared
  obtain ⟨here, isHere, member⟩ := requires
  obtain rfl : definition = here := Option.some.inj (defined.symm.trans isHere)
  obtain ⟨earlier, isBuilt⟩ := required other member
  exact sound.settled isDeclared isBuilt

theorem Builds.bound (builds : draft.Builds definition target later) (sound : draft.Sound)
    (defined : draft.definitions.get? key = some definition) {other : String} {ref : Reference}
    (referenced : draft.references.get? other = some ref) (type : ObjectType) :
    later.bindings.find? ref = some type ↔
      (later.withBuilt key target).built.get? other = some (.object type) := by
  have keyed := sound.declared.keyed defined
  have before := sound.bound referenced type
  rw [builds.get?_withBuilt]
  cases builds with
  | @object declared made own later ownReferenced _ bound =>
      have ownReferenced : draft.references.get? key = some own := keyed ▸ ownReferenced
      have bindings : later.bindings = (own.ident, made) :: draft.bindings := by rw [bound]
      rw [bindings, Bindings.find?, List.lookup_cons]
      by_cases same : other = key
      · subst same
        obtain rfl : ref = own := Option.some.inj (referenced.symm.trans ownReferenced)
        simp
      · have differs : ref.ident ≠ own.ident :=
          fun alike => same (sound.declared.apart referenced ownReferenced alike)
        rw [if_neg same, beq_false_of_ne differs]
        exact before
  | sequence _ numbered | dictionary _ numbered =>
      have bindings : later.bindings = draft.bindings := by rw [numbered]
      have differs : other ≠ key := by
        rintro rfl
        obtain ⟨object, isObject⟩ := sound.declared.defined referenced
        rw [defined] at isObject
        cases isObject
      rw [bindings, if_neg differs]
      exact before

theorem Builds.sound (builds : draft.Builds definition target later) (sound : draft.Sound)
    (defined : draft.definitions.get? key = some definition)
    (refers : target.RefersTo draft.Knows)
    (required : draft.Ready definition) : (later.withBuilt key target).Sound := by
  obtain ⟨sameDefinitions, sameReferences, -⟩ := builds.same
  obtain ⟨isNamed, isObject, isSolid⟩ := builds.named
  have knows : (later.withBuilt key target).Knows = draft.Knows := by
    unfold Knows withBuilt
    rw [sameReferences]
  constructor
  · rw [withBuilt, sameDefinitions, sameReferences]
    exact sound.declared
  · intro other ref referenced type
    rw [withBuilt, sameReferences] at referenced
    exact builds.bound sound defined referenced type
  · intro other found isBuilt
    rw [builds.get?_withBuilt] at isBuilt
    rw [knows]
    split at isBuilt
    · cases isBuilt
      exact refers
    · exact sound.known isBuilt
  · intro other ref isBuilt
    rw [builds.get?_withBuilt] at isBuilt
    split at isBuilt
    · exact isSolid ref (Option.some.inj isBuilt)
    · exact sound.solid other ref isBuilt
  · intro other declared found isDeclared isBuilt
    rw [withBuilt, sameDefinitions] at isDeclared
    rw [builds.get?_withBuilt] at isBuilt
    split at isBuilt
    · rename_i same
      subst same
      cases isBuilt
      obtain rfl : definition = declared := Option.some.inj (defined.symm.trans isDeclared)
      exact ⟨isNamed, isObject⟩
    · exact sound.named isDeclared isBuilt
  · intro other declared found isDeclared isBuilt
    rw [withBuilt, sameDefinitions] at isDeclared ⊢
    rw [builds.get?_withBuilt] at isBuilt
    split at isBuilt
    · rename_i same
      exact same ▸ sound.settled_of_required defined required
    · exact sound.settled isDeclared isBuilt

end Draft

end Shape

end Unflatten
