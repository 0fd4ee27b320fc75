import Unflatten.Proofs.Expressions.Lookups
import Unflatten.Proofs.LetterCase
import Unflatten.Shape.Basic

/-!
# Steps of building

What a step of building leaves and how it fails. Reading type expressions and looking object types
up change nothing but the next identity, and the types that they give refer to nothing but the
references of the draft. Neither fails for the order in which types are built. A definition whose
base is built gives a type of its own kind and its own name. For an object type the reference of its
name is bound to it, and nothing else of the draft changes but the next identity.
-/

set_option autoImplicit false

namespace Unflatten

/-! ## Targets and the references in them -/

namespace Target

/-- The references that stand in the target, or in the object types in it, are known ones. -/
def RefersTo (known : Reference → Prop) (target : Target) : Prop :=
  ∀ ref, target.Reaches [] {} (.reference ref) → known ref

variable {known : Reference → Prop} {target inner : Target}

theorem RefersTo.part (refers : target.RefersTo known) (member : inner ∈ target.parts [] {}) :
    inner.RefersTo known :=
  fun ref reached => refers ref (Relation.ReflTransGen.head member reached)

theorem refersTo_of_parts (here : ∀ ref, target = .reference ref → known ref)
    (parts : ∀ inner ∈ target.parts [] {}, inner.RefersTo known) : target.RefersTo known := by
  intro ref reached
  rcases Relation.ReflTransGen.cases_head reached with same | ⟨inner, member, reached⟩
  · exact here ref same
  · exact parts inner member ref reached

theorem refersTo_reference {ref : Reference} :
    (Target.reference ref).RefersTo known ↔ known ref := by
  refine ⟨fun refers => refers ref Relation.ReflTransGen.refl, fun isKnown => ?_⟩
  exact refersTo_of_parts (by rintro _ ⟨⟩; exact isKnown) (by simp [parts, Bindings.find?])

theorem refersTo_object {type : ObjectType} :
    (Target.object type).RefersTo known ↔ ∀ inner ∈ type.targets, inner.RefersTo known := by
  have members : (Target.object type).parts [] {} = type.targets := List.append_nil _
  refine ⟨fun refers inner member => refers.part (members ▸ member), fun each => ?_⟩
  exact refersTo_of_parts (by simp) (members ▸ each)

theorem refersTo_of_inside (isCustom : target.isCustom = false)
    (each : ∀ inner ∈ target.inside, inner.RefersTo known) : target.RefersTo known := by
  cases target with
  | enum | object | reference | sequence | dictionary => cases isCustom
  | scalar | any | dynamic => exact refersTo_of_parts (by simp) (by simp [parts])
  | nullable | list | map | array | tuple => exact refersTo_of_parts (by simp) each

theorem refersTo_enum (type : EnumType) : (Target.enum type).RefersTo known :=
  refersTo_of_parts (by simp) (by simp [parts])

theorem refersTo_sequence {type : SequenceType} (refers : type.element.RefersTo known) :
    (Target.sequence type).RefersTo known :=
  refersTo_of_parts (by simp) (by simpa [parts] using refers)

theorem refersTo_dictionary {type : DictionaryType} (refers : type.value.RefersTo known) :
    (Target.dictionary type).RefersTo known :=
  refersTo_of_parts (by simp) (by simpa [parts] using refers)

end Target

namespace Shape

/-! ## Results of steps -/

/-- Failures of the order in which types are built. -/
inductive OfOrder : Failure → Prop where
  | cycle (path : List String) : OfOrder (.shape (.cycle path))
  | notBuilt (place : TypePlace) (name : String) : OfOrder (.shape (.notBuilt place name))
  | binding (fault : BindFault) : OfOrder (.shape (.binding fault))

/-- From the draft the step comes to a result and a draft that are as said, or it fails, but not for
the order of building. -/
def Building.Meets {α : Type} (step : Building α) (draft : Draft) (claim : α → Draft → Prop) :
    Prop :=
  match step draft with
  | .ok (result, later) => claim result later
  | .error failure => ¬ OfOrder failure

namespace Building

variable {α β : Type} {draft later : Draft} {step : Building α} {claim : α → Draft → Prop}

theorem Meets.ends (meets : step.Meets draft claim) {result : α}
    (ran : step draft = .ok (result, later)) : claim result later := by
  rwa [Meets, ran] at meets

theorem Meets.fails (meets : step.Meets draft claim) {failure : Failure}
    (ran : step draft = .error failure) : ¬ OfOrder failure := by
  rwa [Meets, ran] at meets

theorem Meets.mono {weaker : α → Draft → Prop} (meets : step.Meets draft claim)
    (weaken : ∀ result later, claim result later → weaker result later) :
    step.Meets draft weaker := by
  unfold Meets at meets ⊢
  split
  · rename_i ran
    rw [ran] at meets
    exact weaken _ _ meets
  · rename_i ran
    rwa [ran] at meets

theorem Meets.bind {next : α → Building β} {claim : β → Draft → Prop}
    (meets : step.Meets draft fun result later => (next result).Meets later claim) :
    (step >>= next).Meets draft claim := by
  have opened : (step >>= next) draft =
      (match step draft with
        | .ok (result, later) => next result later
        | .error failure => .error failure) := by
    change Except.bind (step draft) _ = _
    cases step draft <;> rfl
  unfold Meets at meets ⊢
  rw [opened]
  cases ran : step draft with
  | error failure => rwa [ran] at meets
  | ok pair =>
      rw [ran] at meets
      exact meets

theorem meets_pure {result : α} (ended : claim result draft) :
    (pure result : Building α).Meets draft claim :=
  ended

theorem meets_throw {failure : Failure} (other : ¬ OfOrder failure) :
    (throw failure : Building α).Meets draft claim :=
  other

theorem meets_get {claim : Draft → Draft → Prop} (ended : claim draft draft) :
    (get : Building Draft).Meets draft claim :=
  ended

theorem meets_set {claim : Unit → Draft → Prop} (ended : claim () later) :
    (set later : Building Unit).Meets draft claim :=
  ended

theorem meets_modify {claim : Unit → Draft → Prop} {change : Draft → Draft}
    (ended : claim () (change draft)) : (modify change : Building Unit).Meets draft claim :=
  ended

/-- A step for each item, where `holds` tells what is so after the items up to one. -/
theorem meets_forM {each : α → Building Unit} (holds : List α → Draft → Prop)
    (step : ∀ before item draft, holds before draft →
      (each item).Meets draft fun _ later => holds (before ++ [item]) later)
    (items : List α) {before : List α} (start : holds before draft) :
    (items.forM each).Meets draft fun _ later => holds (before ++ items) later := by
  induction items generalizing before draft with
  | nil => exact meets_pure (by simpa using start)
  | cons item rest ih =>
      change Meets (each item >>= fun _ => rest.forM each) draft _
      refine ((step before item draft start).mono fun _ later held => ?_).bind
      have rest := ih held
      simpa using rest

theorem meets_mapM {each : α → Building β} {kept : Draft → Prop} {good : β → Prop}
    {items : List α} (step : ∀ item ∈ items, ∀ draft, kept draft →
      (each item).Meets draft fun result later => kept later ∧ good result)
    (start : kept draft) : (items.mapM each).Meets draft fun results later =>
      kept later ∧ ∀ result ∈ results, good result := by
  induction items generalizing draft with
  | nil => exact meets_pure ⟨start, by simp⟩
  | cons item rest ih =>
      obtain ⟨first, others⟩ := List.forall_mem_cons.mp step
      rw [List.mapM_cons]
      refine ((first draft start).mono fun result between held => ?_).bind
      refine ((ih others held.1).mono fun results later keeps => ?_).bind
      exact meets_pure ⟨keeps.1, List.forall_mem_cons.mpr ⟨held.2, keeps.2⟩⟩

end Building

/-! ## Reading and looking up -/

namespace Draft

/-- The later draft differs in nothing but the next identity. -/
def Numbered (draft later : Draft) : Prop :=
  later = { draft with next := later.next }

def Knows (draft : Draft) (ref : Reference) : Prop :=
  ∃ key, draft.references.get? key = some ref

/-- All that names are looked up to refers to nothing but the references of the draft. -/
def Closed (draft : Draft) : Prop :=
  ∀ name target, draft.lookUp name = some target → target.RefersTo draft.Knows

variable {draft later last : Draft}

theorem Numbered.refl : draft.Numbered draft :=
  rfl

theorem Numbered.renumber (numbered : draft.Numbered later) (next : Nat) :
    draft.Numbered { later with next := next } := by
  rw [Numbered] at numbered ⊢
  rw [numbered]

theorem Numbered.lookUp (numbered : draft.Numbered later) : later.lookUp = draft.lookUp := by
  rw [numbered]
  rfl

end Draft

section Reading

variable {draft start : Draft} {definition : ObjectDefinition}

theorem freshIdent_meets (numbered : start.Numbered draft) :
    freshIdent.Meets draft fun _ later => start.Numbered later :=
  numbered.renumber (draft.next + 1)

theorem parse_meets (text : String) (closed : start.Closed) (numbered : start.Numbered draft) :
    (parse text).Meets draft fun target later =>
      start.Numbered later ∧ target.RefersTo start.Knows := by
  refine Building.Meets.bind (Building.meets_get ?_)
  cases read : TypeExpression.read draft.lookUp text with
  | error fault =>
      rw [readTarget, read]
      exact Building.meets_throw (by rintro ⟨⟩)
  | ok target =>
      rw [readTarget, read]
      rw [numbered.lookUp] at read
      refine Building.meets_pure ⟨numbered, ?_⟩
      exact TypeExpression.read_holds closed (fun _ => Target.refersTo_of_inside) read

theorem objectNamed_meets (place : TypePlace) {name : String} (numbered : start.Numbered draft)
    (built : ∀ ref, start.lookUp name ≠ some (.reference ref)) :
    (objectNamed place name).Meets draft fun type later =>
      start.Numbered later ∧ start.lookUp name = some (.object type) := by
  refine Building.Meets.bind (Building.meets_get ?_)
  rw [readObjectType, numbered.lookUp]
  cases found : start.lookUp name with
  | none => exact Building.meets_throw (by rintro ⟨⟩)
  | some target =>
      cases target with
      | object type => exact Building.meets_pure ⟨numbered, rfl⟩
      | reference ref => exact absurd found (built ref)
      | _ => exact Building.meets_throw (by rintro ⟨⟩)

end Reading

end Shape

/-! ## One type -/

theorem ObjectTypeOf.declare_targets {ident implicit : Nat} {name : String} {isAbstract : Bool}
    {properties : List Property} {constructors : List Constructor} {inner : Target}
    (member : inner ∈ (ObjectTypeOf.declare ident name isAbstract properties implicit
      constructors).targets) :
    inner ∈ properties.map PropertyOf.target ∨
      inner ∈ constructors.flatMap ConstructorOf.targets := by
  rcases List.mem_append.mp member with member | member
  · exact Or.inl member
  · obtain ⟨constructor, isOwn, inside⟩ := List.mem_flatMap.mp member
    obtain ⟨declared, isDeclared, rfl⟩ := List.mem_map.mp isOwn
    have inside : inner ∈ declared.targets := by
      split at inside <;> exact inside
    split at isDeclared
    · obtain rfl := List.mem_singleton.mp isDeclared
      cases inside
    · exact Or.inr (List.mem_flatMap.mpr ⟨declared, isDeclared, inside⟩)

namespace Shape

variable {start draft later : Draft}

/-! ## Members -/

theorem buildProperty_meets (definition : PropertyDefinition) (closed : start.Closed)
    (numbered : start.Numbered draft) : (buildProperty definition).Meets draft fun property later =>
      start.Numbered later ∧ property.target.RefersTo start.Knows :=
  .bind ((parse_meets definition.type closed numbered).mono fun _ _ read =>
    Building.meets_pure read)

theorem buildParameter_meets (definition : ParameterDefinition) (closed : start.Closed)
    (numbered : start.Numbered draft) :
    (buildParameter definition).Meets draft fun parameter later =>
      start.Numbered later ∧ parameter.target.RefersTo start.Knows :=
  .bind ((parse_meets definition.type closed numbered).mono fun _ _ read =>
    Building.meets_pure read)

theorem buildConstructor_meets (definition : ConstructorDefinition) (closed : start.Closed)
    (numbered : start.Numbered draft) :
    (buildConstructor definition).Meets draft fun constructor later =>
      start.Numbered later ∧ ∀ inner ∈ constructor.targets, inner.RefersTo start.Knows := by
  have parameters : (definition.parameters.mapM buildParameter).Meets draft fun results later =>
      start.Numbered later ∧ ∀ parameter ∈ results, parameter.target.RefersTo start.Knows :=
    Building.meets_mapM (fun definition _ draft numbered =>
      buildParameter_meets definition closed numbered) numbered
  refine .bind (parameters.mono fun results between built => ?_)
  refine .bind ((freshIdent_meets built.1).mono fun ident later numbered => ?_)
  refine Building.meets_pure ⟨numbered, fun inner member => ?_⟩
  obtain ⟨parameter, isOwn, rfl⟩ := List.mem_map.mp member
  exact built.2 parameter isOwn

/-! ## Object types -/

/-- What is built first, if it is declared at all, stands for itself and not as a reference. -/
def BaseBuilt (draft : Draft) (definition : TypeDefinition) : Prop :=
  ∀ base, definition.base? = some base → ∀ ref, draft.lookUp base ≠ some (.reference ref)

/-- Properties that come from the base. -/
def fromBase (definition : ObjectDefinition) : Building (List Property) :=
  match definition.base with
  | some base => do
    let base ← objectNamed (.base definition.name) base
    pure (inherited base definition)
  | none => pure []

/-- The type with what its definition declares itself behind the given properties. -/
def withOwn (definition : ObjectDefinition) (given : List Property) : Building ObjectType := do
  let own ← definition.properties.mapM buildProperty
  let constructors ← definition.constructors.mapM buildConstructor
  let ident ← freshIdent
  let implicit ← freshIdent
  pure
    (ObjectTypeOf.declare ident definition.name definition.isAbstract (given ++ own) implicit
      constructors)

theorem buildObject_eq (definition : ObjectDefinition) :
    buildObject definition = fromBase definition >>= withOwn definition := by
  unfold buildObject fromBase
  cases definition.base with
  | none => rfl
  | some base => exact (bind_assoc _ _ _).symm

theorem fromBase_meets {definition : ObjectDefinition} (closed : start.Closed)
    (baseBuilt : BaseBuilt start (.object definition)) :
    (fromBase definition).Meets start fun properties later =>
      start.Numbered later ∧ ∀ property ∈ properties, property.target.RefersTo start.Knows := by
  unfold fromBase
  cases extended : definition.base with
  | none => exact Building.meets_pure ⟨.refl, by simp⟩
  | some base =>
      have named := objectNamed_meets (.base definition.name) .refl (baseBuilt base extended)
      refine .bind (named.mono fun type later found => ?_)
      refine Building.meets_pure ⟨found.1, fun property member => ?_⟩
      have isOwn : property ∈ type.properties := (List.mem_filter.mp member).1
      have refers := Target.refersTo_object.mp (closed base _ found.2)
      exact refers _ (List.mem_append_left _ (List.mem_map_of_mem isOwn))

theorem withOwn_meets (definition : ObjectDefinition) {given : List Property}
    (closed : start.Closed) (numbered : start.Numbered draft)
    (each : ∀ property ∈ given, property.target.RefersTo start.Knows) :
    (withOwn definition given).Meets draft fun type later =>
      start.Numbered later ∧ type.name = definition.name ∧
        (Target.object type).RefersTo start.Knows := by
  have properties : (definition.properties.mapM buildProperty).Meets draft fun results later =>
      start.Numbered later ∧ ∀ property ∈ results, property.target.RefersTo start.Knows :=
    Building.meets_mapM (fun definition _ draft numbered =>
      buildProperty_meets definition closed numbered) numbered
  refine .bind (properties.mono fun own later declared => ?_)
  have constructors : (definition.constructors.mapM buildConstructor).Meets later
      fun results later => start.Numbered later ∧
        ∀ constructor ∈ results, ∀ inner ∈ constructor.targets, inner.RefersTo start.Knows :=
    Building.meets_mapM (fun definition _ draft numbered =>
      buildConstructor_meets definition closed numbered) declared.1
  refine .bind (constructors.mono fun makers later constructed => ?_)
  refine .bind ((freshIdent_meets constructed.1).mono fun ident later numbered => ?_)
  refine .bind ((freshIdent_meets numbered).mono fun implicit later numbered => ?_)
  refine Building.meets_pure ⟨numbered, rfl, Target.refersTo_object.mpr fun inner member => ?_⟩
  rcases ObjectTypeOf.declare_targets member with member | member
  · obtain ⟨property, isOwn, rfl⟩ := List.mem_map.mp member
    rcases List.mem_append.mp isOwn with isOwn | isOwn
    · exact each property isOwn
    · exact declared.2 property isOwn
  · obtain ⟨constructor, isOwn, inside⟩ := List.mem_flatMap.mp member
    exact constructed.2 constructor isOwn inner inside

theorem buildObject_meets {definition : ObjectDefinition} (closed : start.Closed)
    (baseBuilt : BaseBuilt start (.object definition)) :
    (buildObject definition).Meets start fun type later =>
      start.Numbered later ∧ type.name = definition.name ∧
        (Target.object type).RefersTo start.Knows := by
  rw [buildObject_eq]
  exact .bind ((fromBase_meets closed baseBuilt).mono fun given later based =>
    withOwn_meets definition closed based.1 based.2)

theorem bindReference_meets {key : String} {type : ObjectType} {ref : Reference}
    (referenced : draft.references.get? key = some ref) (named : ref.name = type.name)
    (unbound : draft.bindings.find? ref = none) :
    (bindReference key type).Meets draft fun _ later =>
      later = { draft with bindings := (ref.ident, type) :: draft.bindings } := by
  have bound : ref.bind type draft.bindings = .ok ((ref.ident, type) :: draft.bindings) := by
    simp [Reference.bind, named, unbound, Text.equalIgnoringCase_refl]
  refine .bind (Building.meets_get ?_)
  rw [referenced]
  simp only [bound]
  exact Building.meets_set rfl

/-! ## Types of all kinds -/

/-- The type of a definition, and the draft in which it is built. -/
inductive Draft.Builds (draft : Draft) : TypeDefinition → Target → Draft → Prop where
  | object {definition : ObjectDefinition} {type : ObjectType} {ref : Reference} {later : Draft}
      (referenced : draft.references.get? (typeKey definition.name) = some ref)
      (named : type.name = definition.name)
      (bound : Draft.Numbered { draft with bindings := (ref.ident, type) :: draft.bindings }
        later) : Builds draft (.object definition) (.object type) later
  | sequence {definition : SequenceDefinition} {type : SequenceType} {later : Draft}
      (named : type.name = definition.name) (numbered : draft.Numbered later) :
      Builds draft (.sequence definition) (.sequence type) later
  | dictionary {definition : DictionaryDefinition} {type : DictionaryType} {later : Draft}
      (named : type.name = definition.name) (numbered : draft.Numbered later) :
      Builds draft (.dictionary definition) (.dictionary type) later

/-- An object type that is being built has a reference, and this is not bound yet. -/
def Unbound (draft : Draft) (definition : TypeDefinition) : Prop :=
  ∀ declared, definition = .object declared → ∃ ref,
    draft.references.get? (typeKey declared.name) = some ref ∧ ref.name = declared.name ∧
      draft.bindings.find? ref = none

theorem build_meets {definition : TypeDefinition} (closed : start.Closed)
    (baseBuilt : BaseBuilt start definition) (unbound : Unbound start definition) :
    (build definition).Meets start fun target later =>
      start.Builds definition target later ∧ target.RefersTo start.Knows := by
  cases definition with
  | object definition =>
      obtain ⟨ref, referenced, named, unbound⟩ := unbound definition rfl
      refine .bind ((buildObject_meets closed baseBuilt).mono fun type later built => ?_)
      obtain ⟨numbered, typeNamed, refers⟩ := built
      have laterReferenced : later.references.get? (typeKey definition.name) = some ref := by
        rw [numbered]
        exact referenced
      have laterUnbound : later.bindings.find? ref = none := by
        rw [numbered]
        exact unbound
      refine .bind ((bindReference_meets laterReferenced (named.trans typeNamed.symm)
        laterUnbound).mono fun _ last bound => ?_)
      refine Building.meets_pure ⟨.object referenced typeNamed ?_, refers⟩
      rw [bound, numbered]
      rfl
  | sequence definition =>
      refine .bind ((parse_meets definition.element closed .refl).mono fun element later read => ?_)
      refine .bind ((freshIdent_meets read.1).mono fun ident later numbered => ?_)
      exact Building.meets_pure ⟨.sequence rfl numbered, Target.refersTo_sequence read.2⟩
  | dictionary definition =>
      refine .bind ((parse_meets definition.value closed .refl).mono fun value later read => ?_)
      refine .bind ((freshIdent_meets read.1).mono fun ident later numbered => ?_)
      exact Building.meets_pure ⟨.dictionary rfl numbered, Target.refersTo_dictionary read.2⟩

end Shape

end Unflatten
