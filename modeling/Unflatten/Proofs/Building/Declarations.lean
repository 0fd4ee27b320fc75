import Unflatten.Proofs.Building.Drafts
import Unflatten.Proofs.Expressions.Tokens

/-!
# Declarations

Before anything is built the names are declared: enumerations are built at once, and every object
type gets a reference. What is declared without a fault is a sound draft, whose definitions are
those of the outline.
-/

set_option autoImplicit false

namespace Unflatten

/-! ## The graph of an outline -/

/-- A definition extends its base, and it mentions the sequences and dictionaries whose names are
tokens of its type expressions. Names go by their keys. -/
inductive ShapeOutline.Requires (outline : ShapeOutline) : String → String → Prop where
  | base {definition other : Shape.TypeDefinition} {base : String}
      (declared : definition ∈ Shape.definitionsOf outline)
      (alsoDeclared : other ∈ Shape.definitionsOf outline)
      (isBase : definition.base? = some base)
      (named : Shape.typeKey base = Shape.typeKey other.name) :
      Requires outline (Shape.typeKey definition.name) (Shape.typeKey other.name)
  | mention {definition other : Shape.TypeDefinition} {expression token : String}
      (declared : definition ∈ Shape.definitionsOf outline)
      (alsoDeclared : other ∈ Shape.definitionsOf outline) (isContainer : other.isObject = false)
      (written : expression ∈ definition.expressions)
      (isToken : TypeExpression.IsToken expression token)
      (named : Shape.typeKey token = Shape.typeKey other.name) :
      Requires outline (Shape.typeKey definition.name) (Shape.typeKey other.name)

def ShapeOutline.IsCyclic (outline : ShapeOutline) : Prop :=
  ∃ key, Relation.TransGen outline.Requires key key

namespace Shape

section Graph

variable {outline : ShapeOutline} {definitions : Entries TypeDefinition}
  (defined : ∀ {key definition}, definitions.get? key = some definition ↔
    definition ∈ definitionsOf outline ∧ typeKey definition.name = key)

include defined

theorem requires_iff {key other : String} :
    Requires definitions key other ↔ outline.Requires key other := by
  constructor
  · rintro ⟨definition, found, member⟩
    obtain ⟨declared, rfl⟩ := defined.mp found
    rcases mem_requirements.mp member with ⟨mentioned, container, isDeclared, isContainer⟩ |
      ⟨base, isBase, rfl, container, isDeclared⟩
    · obtain ⟨token, inside, rfl⟩ := List.mem_map.mp mentioned
      obtain ⟨expression, written, isName⟩ := List.mem_flatMap.mp inside
      obtain ⟨alsoDeclared, same⟩ := defined.mp isDeclared
      rw [← same]
      exact .mention declared alsoDeclared isContainer written (mem_namesIn.mp isName) same.symm
    · obtain ⟨alsoDeclared, same⟩ := defined.mp isDeclared
      rw [← same]
      exact .base declared alsoDeclared isBase same.symm
  · rintro (@⟨definition, other, base, declared, alsoDeclared, isBase, named⟩ |
      @⟨definition, other, expression, token, declared, alsoDeclared, isContainer, written, isToken,
        named⟩)
    · refine ⟨definition, defined.mpr ⟨declared, rfl⟩, mem_requirements.mpr (Or.inr ?_)⟩
      exact ⟨base, isBase, named, other, defined.mpr ⟨alsoDeclared, rfl⟩⟩
    · refine ⟨definition, defined.mpr ⟨declared, rfl⟩, mem_requirements.mpr (Or.inl ⟨?_, ?_⟩)⟩
      · rw [← named]
        refine List.mem_map_of_mem (List.mem_flatMap.mpr ⟨expression, written, ?_⟩)
        exact mem_namesIn.mpr isToken
      · exact ⟨other, defined.mpr ⟨alsoDeclared, rfl⟩, isContainer⟩

theorem isCyclic_iff : IsCyclic definitions ↔ outline.IsCyclic := by
  have same : Requires definitions = outline.Requires :=
    funext fun key => funext fun other => propext (requires_iff defined)
  rw [IsCyclic, ShapeOutline.IsCyclic, same]

end Graph

/-! ## Declaring -/

/-- The draft after enumerations and definitions have been declared. -/
structure Draft.Declares (enums : List EnumDefinition) (given : List TypeDefinition)
    (draft : Draft) : Prop where
  enumerated : ∀ definition ∈ enums, ∃ type : EnumType,
    draft.built.get? (typeKey definition.name) = some (.enum type) ∧ type.name = definition.name
  built : ∀ {key target}, draft.built.get? key = some target → ∃ type, target = .enum type
  defined : ∀ {key definition}, draft.definitions.get? key = some definition ↔
    definition ∈ given ∧ typeKey definition.name = key
  unbuilt : ∀ {key definition}, draft.definitions.get? key = some definition →
    draft.built.get? key = none
  declared : Declared draft.definitions draft.references
  fresh : ∀ {key ref}, draft.references.get? key = some ref → ref.ident < draft.next
  unbound : draft.bindings = []

variable {draft : Draft} {enums : List EnumDefinition} {given : List TypeDefinition}

theorem Draft.declares_start (next : Nat) : Draft.Declares [] [] { next } where
  enumerated := by simp
  built := by simp [Entries.get?]
  defined := by simp [Entries.get?]
  unbuilt := by simp [Entries.get?]
  declared := by constructor <;> simp [Entries.get?]
  fresh := by simp [Entries.get?]
  unbound := rfl

theorem checkUndeclared_meets (name : String) (draft : Draft) :
    (checkUndeclared name).Meets draft fun _ later => later = draft ∧
      draft.built.get? (typeKey name) = none ∧ draft.definitions.get? (typeKey name) = none := by
  refine .bind (Building.meets_get ?_)
  split
  · exact Building.meets_throw (by rintro ⟨⟩)
  · rename_i undeclared
    simp only [Bool.or_eq_true, not_or, Bool.not_eq_true, Option.isSome_eq_false_iff,
      Option.isNone_iff_eq_none] at undeclared
    exact Building.meets_pure ⟨rfl, undeclared⟩

theorem freshIdent_next (draft : Draft) : freshIdent.Meets draft fun ident later =>
    ident = draft.next ∧ later = { draft with next := draft.next + 1 } :=
  ⟨rfl, rfl⟩

theorem declareEnum_meets (definition : EnumDefinition) (declares : draft.Declares enums given) :
    (declareEnum definition).Meets draft fun _ later =>
      later.Declares (enums ++ [definition]) given := by
  refine .bind ((checkUndeclared_meets definition.name draft).mono fun _ later undeclared => ?_)
  obtain ⟨rfl, unbuilt, undefined⟩ := undeclared
  refine .bind ((freshIdent_next later).mono fun ident between fresh => ?_)
  obtain ⟨rfl, rfl⟩ := fresh
  refine Building.meets_modify ?_
  constructor
  · intro other member
    rw [Entries.get?_insert]
    rcases List.mem_append.mp member with member | member
    · obtain ⟨type, built, named⟩ := declares.enumerated other member
      refine ⟨type, ?_, named⟩
      rw [if_neg, built]
      intro same
      rw [same, unbuilt] at built
      cases built
    · obtain rfl := List.mem_singleton.mp member
      exact ⟨_, if_pos rfl, rfl⟩
  · intro key target built
    rw [Entries.get?_insert] at built
    split at built
    · exact ⟨_, (Option.some.inj built).symm⟩
    · exact declares.built built
  · exact declares.defined
  · intro key other found
    rw [Entries.get?_insert, if_neg]
    · exact declares.unbuilt found
    · rintro rfl
      rw [undefined] at found
      cases found
  · exact declares.declared
  · exact fun referenced => Nat.lt_succ_of_lt (declares.fresh referenced)
  · exact declares.unbound

section Definitions

variable {definitions : Entries TypeDefinition} {references : Entries Reference}

theorem Declared.container {definition : TypeDefinition} (isContainer : definition.isObject = false)
    (declared : Declared definitions references)
    (undefined : definitions.get? (typeKey definition.name) = none) :
    Declared (definitions.insert (typeKey definition.name) definition) references := by
  constructor
  · intro key other found
    rw [Entries.get?_insert] at found
    split at found
    · rename_i same
      rw [← Option.some.inj found, same]
    · exact declared.keyed found
  · intro key object found
    rw [Entries.get?_insert] at found
    split at found
    · rw [Option.some.inj found] at isContainer
      cases isContainer
    · exact declared.referenced found
  · intro key ref referenced
    obtain ⟨object, found⟩ := declared.defined referenced
    refine ⟨object, ?_⟩
    rw [Entries.get?_insert, if_neg]
    · exact found
    · rintro rfl
      rw [undefined] at found
      cases found
  · exact declared.apart

theorem Declared.object {definition : ObjectDefinition} {ref : Reference}
    (declared : Declared definitions references) (named : ref.name = definition.name)
    (fresh : ∀ {key earlier}, references.get? key = some earlier → earlier.ident < ref.ident) :
    Declared (definitions.insert (typeKey definition.name) (.object definition))
      (references.insert (typeKey definition.name) ref) := by
  constructor
  · intro key other found
    rw [Entries.get?_insert] at found
    split at found
    · rename_i same
      rw [← Option.some.inj found, same]
      rfl
    · exact declared.keyed found
  · intro key object found
    rw [Entries.get?_insert] at found ⊢
    split at found
    · rename_i same
      cases found
      exact ⟨ref, if_pos same, named⟩
    · rename_i differs
      rw [if_neg differs]
      exact declared.referenced found
  · intro key other referenced
    rw [Entries.get?_insert] at referenced ⊢
    split at referenced
    · rename_i same
      exact ⟨definition, if_pos same⟩
    · rename_i differs
      rw [if_neg differs]
      exact declared.defined referenced
  · intro key other one another isOne isAnother same
    rw [Entries.get?_insert] at isOne isAnother
    split at isOne <;> split at isAnother
    · rename_i first second
      exact first.trans second.symm
    · cases isOne
      exact absurd same (Nat.ne_of_gt (fresh isAnother))
    · cases isAnother
      exact absurd same (Nat.ne_of_lt (fresh isOne))
    · exact declared.apart isOne isAnother same

end Definitions

theorem Draft.Declares.define {definition : TypeDefinition} {references : Entries Reference}
    {next : Nat} (declares : draft.Declares enums given)
    (unbuilt : draft.built.get? (typeKey definition.name) = none)
    (undefined : draft.definitions.get? (typeKey definition.name) = none)
    (declared : Declared (draft.definitions.insert (typeKey definition.name) definition) references)
    (fresh : ∀ {key ref}, references.get? key = some ref → ref.ident < next) :
    Draft.Declares enums (given ++ [definition])
      { draft with
        references := references, next := next,
        definitions := draft.definitions.insert (typeKey definition.name) definition } where
  enumerated := declares.enumerated
  built := declares.built
  defined {key other} := by
    rw [Entries.get?_insert]
    split
    · rename_i same
      subst same
      constructor
      · rintro ⟨⟩
        exact ⟨by simp, rfl⟩
      · rintro ⟨member, same⟩
        rcases List.mem_append.mp member with member | member
        · have found := declares.defined.mpr ⟨member, same⟩
          rw [undefined] at found
          cases found
        · rw [List.mem_singleton.mp member]
    · rename_i differs
      rw [declares.defined, List.mem_append, List.mem_singleton]
      refine and_congr_left fun same => ⟨Or.inl, ?_⟩
      rintro (member | rfl)
      · exact member
      · exact absurd same.symm differs
  unbuilt {key other} found := by
    rw [Entries.get?_insert] at found
    split at found
    · rename_i same
      rw [same]
      exact unbuilt
    · exact declares.unbuilt found
  declared := declared
  fresh := fresh
  unbound := declares.unbound

theorem declare_meets (definition : TypeDefinition) (declares : draft.Declares enums given) :
    (declare definition).Meets draft fun _ later =>
      later.Declares enums (given ++ [definition]) := by
  refine .bind ((checkUndeclared_meets definition.name draft).mono fun _ later undeclared => ?_)
  obtain ⟨rfl, unbuilt, undefined⟩ := undeclared
  cases definition with
  | object definition =>
      refine .bind ((freshIdent_next later).mono fun ident between fresh => ?_)
      obtain ⟨rfl, rfl⟩ := fresh
      refine .bind (Building.meets_modify (Building.meets_modify ?_))
      refine declares.define unbuilt undefined
        (declares.declared.object rfl declares.fresh) fun {key ref} referenced => ?_
      rw [Entries.get?_insert] at referenced
      split at referenced
      · cases referenced
        exact Nat.lt_succ_self _
      · exact Nat.lt_succ_of_lt (declares.fresh referenced)
  | sequence | dictionary =>
      refine Building.meets_modify ?_
      exact declares.define unbuilt undefined (declares.declared.container rfl undefined)
        declares.fresh

/-- What is declared before anything is built. -/
def declareAll (outline : ShapeOutline) : Building Unit := do
  outline.enums.forM declareEnum
  (definitionsOf outline).forM declare

theorem declareAll_meets (outline : ShapeOutline) (next : Nat) :
    (declareAll outline).Meets { next } fun _ later =>
      later.Declares outline.enums (definitionsOf outline) := by
  have enumerated := Building.meets_forM (fun enums draft => draft.Declares enums [])
    (fun _ definition _ declares => declareEnum_meets definition declares) outline.enums
    (Draft.declares_start next)
  refine .bind (enumerated.mono fun _ later declares => ?_)
  exact Building.meets_forM (fun given draft => draft.Declares outline.enums given)
    (fun _ definition _ declares => declare_meets definition declares) (definitionsOf outline)
    declares

theorem Draft.Declares.sound (declares : draft.Declares enums given) : draft.Sound where
  declared := declares.declared
  bound {key ref} referenced type := by
    obtain ⟨definition, defined⟩ := declares.declared.defined referenced
    rw [declares.unbound, declares.unbuilt defined, Bindings.find?]
    simp
  known {key target} built := by
    obtain ⟨type, rfl⟩ := declares.built built
    exact Target.refersTo_enum type
  solid key ref built := by
    obtain ⟨type, isEnum⟩ := declares.built built
    cases isEnum
  named {key definition target} defined built := by
    rw [declares.unbuilt defined] at built
    cases built
  settled {key definition target} defined built := by
    rw [declares.unbuilt defined] at built
    cases built

end Shape

end Unflatten
