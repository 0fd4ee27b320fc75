import Mathlib.Data.List.Forall2
import Unflatten.Proofs.Building.Shapes

/-!
# Properties of a type that is built

An object type has the properties of its base that its definition does not declare itself, and
behind them those that it declares. Each is as its definition says, with a type that its text means
among the types of the draft. As the base is built first and stays as it is, what was merged when
the type was built is merged from the types of the finished draft.
-/

set_option autoImplicit false

namespace Unflatten

/-- Whether the definition declares a property of the name, ASCII case aside. -/
def ObjectDefinition.declares (definition : ObjectDefinition) (name : String) : Bool :=
  definition.properties.any fun own => Text.equalIgnoringCase own.name name

namespace Shape

/-! ## Results of steps that succeed -/

/-- Where the step comes to a result, this and the draft that it leaves are as said. -/
def Building.Ends {α : Type} (step : Building α) (draft : Draft) (claim : α → Draft → Prop) :
    Prop :=
  ∀ result later, step draft = .ok (result, later) → claim result later

namespace Building

variable {α β : Type} {draft : Draft} {step : Building α}

theorem Ends.mono {claim weaker : α → Draft → Prop} (ends : step.Ends draft claim)
    (weaken : ∀ result later, claim result later → weaker result later) :
    step.Ends draft weaker :=
  fun result later ran => weaken result later (ends result later ran)

theorem Ends.bind {next : α → Building β} {claim : β → Draft → Prop}
    (ends : step.Ends draft fun result later => (next result).Ends later claim) :
    (step >>= next).Ends draft claim := by
  intro result later ran
  have ran : Except.bind (step draft) (fun pair => next pair.1 pair.2) = .ok (result, later) := ran
  cases first : step draft with
  | error failure =>
      rw [first] at ran
      cases ran
  | ok pair =>
      rw [first] at ran
      exact ends pair.1 pair.2 first result later ran

theorem ends_pure {result : α} {claim : α → Draft → Prop} (ended : claim result draft) :
    (pure result : Building α).Ends draft claim := by
  intro _ _ ran
  cases ran
  exact ended

theorem ends_throw {failure : Failure} {claim : α → Draft → Prop} :
    (throw failure : Building α).Ends draft claim := by
  intro _ _ ran
  cases ran

theorem ends_get {claim : Draft → Draft → Prop} (ended : claim draft draft) :
    (get : Building Draft).Ends draft claim := by
  intro _ _ ran
  cases ran
  exact ended

theorem ends_mapM {each : α → Building β} {kept : Draft → Prop} {related : α → β → Prop}
    {items : List α} (step : ∀ item ∈ items, ∀ draft, kept draft →
      (each item).Ends draft fun result later => kept later ∧ related item result)
    (start : kept draft) : (items.mapM each).Ends draft fun results later =>
      kept later ∧ List.Forall₂ related items results := by
  induction items generalizing draft with
  | nil => exact ends_pure ⟨start, .nil⟩
  | cons item rest ih =>
      obtain ⟨first, others⟩ := List.forall_mem_cons.mp step
      rw [List.mapM_cons]
      refine ((first draft start).mono fun result between held => ?_).bind
      refine ((ih others held.1).mono fun results later keeps => ?_).bind
      exact ends_pure ⟨keeps.1, .cons held.2 keeps.2⟩

end Building

/-! ## Meanings of texts -/

namespace Draft

variable {draft start later : Draft}

/-- The draft has no type of the name and no definition of one. -/
def Lacks (draft : Draft) (name : String) : Prop :=
  draft.built.get? (typeKey name) = none ∧ draft.definitions.get? (typeKey name) = none

/-- The target is the type of the name, or the reference that stands for it. -/
def Foresees (draft : Draft) (name : String) (target : Target) : Prop :=
  draft.built.get? (typeKey name) = some target ∨
    ∃ ref, target = .reference ref ∧ draft.references.get? (typeKey name) = some ref

/-- The text means the target where the names in it are looked up among the types and references,
and all are found that there are types of. -/
def Reads (draft : Draft) (text : String) (target : Target) : Prop :=
  ∃ lookUp, readTarget lookUp text = .ok target ∧
    (∀ name found, lookUp name = some found → draft.Foresees name found) ∧
    ∀ name ∈ namesIn text, lookUp name = none → draft.Lacks name

/-- The property is declared by the definition. -/
def Holds (draft : Draft) (definition : PropertyDefinition) (property : Property) : Prop :=
  property = definition.declare property.target ∧ draft.Reads definition.type property.target

/-- The properties that the definition has from its base. -/
inductive Hands (draft : Draft) (definition : ObjectDefinition) : List Property → Prop where
  | none (noBase : definition.base = none) : Hands draft definition []
  | base {name : String} {base : ObjectType} (extended : definition.base = some name)
      (built : draft.built.get? (typeKey name) = some (.object base)) :
      Hands draft definition (base.properties.filter fun property =>
        !definition.declares property.name)

/-- The properties of the type are handed on from the base or declared by the definition. -/
def Merges (draft : Draft) (definition : ObjectDefinition) (type : ObjectType) : Prop :=
  ∃ given own, type.properties = given ++ own ∧ draft.Hands definition given ∧
    List.Forall₂ draft.Holds definition.properties own

/-- Each object type of the draft is merged as its definition says. -/
def Merged (draft : Draft) : Prop :=
  ∀ key type, draft.built.get? key = some (.object type) → ∃ definition,
    draft.definitions.get? key = some (.object definition) ∧ draft.Merges definition type

/-- The later draft has the types of the earlier one and possibly more that are defined. -/
structure Extends (draft later : Draft) : Prop where
  references : later.references = draft.references
  definitions : later.definitions = draft.definitions
  built : ∀ {key target}, draft.built.get? key = some target → later.built.get? key = some target
  unbuilt : ∀ {key}, draft.built.get? key = none → draft.definitions.get? key = none →
    later.built.get? key = none

theorem Merges.extends {definition : ObjectDefinition} {type : ObjectType}
    (merges : draft.Merges definition type) (extended : draft.Extends later) :
    later.Merges definition type := by
  obtain ⟨given, own, properties, hands, declared⟩ := merges
  refine ⟨given, own, properties, ?_, declared.imp ?_⟩
  · cases hands with
    | none noBase => exact .none noBase
    | base isBase built => exact .base isBase (extended.built built)
  · rintro one property ⟨declares, lookUp, reads, foresees, finds⟩
    refine ⟨declares, lookUp, reads, fun name found looked => ?_, fun name mentioned missing => ?_⟩
    · rcases foresees name found looked with built | ⟨ref, isRef, referenced⟩
      · exact Or.inl (extended.built built)
      · exact Or.inr ⟨ref, isRef, extended.references ▸ referenced⟩
    · obtain ⟨unbuilt, undefined⟩ := finds name mentioned missing
      exact ⟨extended.unbuilt unbuilt undefined, extended.definitions ▸ undefined⟩

/-- Sequences and dictionaries that a definition mentions are required, and object types have
references, so that a name that is not found is none of the draft's. -/
theorem Sound.lacks {definition : TypeDefinition} {name : String} (sound : draft.Sound)
    (ready : draft.Ready definition) (mentioned : name ∈ definition.expressions.flatMap namesIn)
    (missing : draft.lookUp name = none) : draft.Lacks name := by
  unfold Draft.lookUp at missing
  cases unbuilt : draft.built.get? (typeKey name) with
  | some target =>
      rw [unbuilt] at missing
      cases missing
  | none =>
      rw [unbuilt] at missing
      refine ⟨unbuilt, Option.eq_none_iff_forall_ne_some.mpr fun other defined => ?_⟩
      cases isObject : other.isObject with
      | true =>
          cases other with
          | object declared =>
              obtain ⟨ref, referenced, -⟩ := sound.declared.referenced defined
              rw [referenced] at missing
              cases missing
          | _ => cases isObject
      | false =>
          have required := mem_requirements.mpr
            (Or.inl ⟨List.mem_map_of_mem mentioned, other, defined, isObject⟩)
          obtain ⟨earlier, built⟩ := ready _ required
          rw [unbuilt] at built
          cases built

end Draft

/-! ## Building one type -/

section Building

variable {start draft : Draft}

open Building

theorem freshIdent_ends (numbered : start.Numbered draft) :
    freshIdent.Ends draft fun _ later => start.Numbered later := by
  intro _ _ ran
  cases ran
  exact numbered.renumber (draft.next + 1)

theorem parse_ends (text : String) (numbered : start.Numbered draft) :
    (parse text).Ends draft fun target later =>
      start.Numbered later ∧ readTarget start.lookUp text = .ok target := by
  refine .bind (ends_get ?_)
  rw [numbered.lookUp]
  cases read : readTarget start.lookUp text with
  | error failure => exact ends_throw
  | ok target => exact ends_pure ⟨numbered, rfl⟩

theorem buildProperty_ends (definition : PropertyDefinition) (numbered : start.Numbered draft)
    (finds : ∀ name ∈ namesIn definition.type, start.lookUp name = none → start.Lacks name) :
    (buildProperty definition).Ends draft fun property later =>
      start.Numbered later ∧ start.Holds definition property := by
  refine .bind ((parse_ends definition.type numbered).mono fun target later read => ?_)
  refine ends_pure ⟨read.1, rfl, start.lookUp, read.2, fun name found looked => ?_, finds⟩
  exact (Draft.lookUp_cases looked).imp_right fun foreseen => foreseen.2

theorem buildConstructor_ends (definition : ConstructorDefinition)
    (numbered : start.Numbered draft) :
    (buildConstructor definition).Ends draft fun _ later => start.Numbered later := by
  have parameters : (definition.parameters.mapM buildParameter).Ends draft fun made later =>
      start.Numbered later ∧ List.Forall₂ (fun _ _ => True) definition.parameters made :=
    ends_mapM (fun parameter _ _ numbered =>
      .bind ((parse_ends parameter.type numbered).mono fun _ _ read =>
        ends_pure ⟨read.1, trivial⟩)) numbered
  refine .bind (parameters.mono fun results between built => ?_)
  exact .bind ((freshIdent_ends built.1).mono fun _ _ numbered => ends_pure numbered)

theorem objectNamed_ends (place : TypePlace) (name : String) (sound : draft.Sound) :
    (objectNamed place name).Ends draft fun type later =>
      later = draft ∧ draft.built.get? (typeKey name) = some (.object type) := by
  refine .bind (ends_get ?_)
  rw [readObjectType]
  cases found : draft.lookUp name with
  | none => exact ends_throw
  | some target =>
      rcases Draft.lookUp_cases found with built | ⟨-, ref, rfl, referenced⟩
      · cases target with
        | object type => exact ends_pure ⟨rfl, built⟩
        | reference ref => exact absurd built (sound.solid _ ref)
        | _ => exact ends_throw
      · dsimp only
        cases bound : draft.bindings.find? ref with
        | none => exact ends_throw
        | some type => exact ends_pure ⟨rfl, (sound.bound referenced type).mp bound⟩

theorem fromBase_ends (definition : ObjectDefinition) (sound : start.Sound) :
    (fromBase definition).Ends start fun given later =>
      start.Numbered later ∧ start.Hands definition given := by
  unfold fromBase
  cases extended : definition.base with
  | none => exact ends_pure ⟨.refl, .none extended⟩
  | some base =>
      refine .bind ((objectNamed_ends _ base sound).mono fun type later found => ?_)
      obtain ⟨rfl, built⟩ := found
      exact ends_pure ⟨.refl, .base extended built⟩

theorem buildObject_ends (definition : ObjectDefinition) (sound : start.Sound)
    (ready : start.Ready (.object definition)) :
    (buildObject definition).Ends start fun type later =>
      start.Numbered later ∧ start.Merges definition type := by
  rw [buildObject_eq]
  refine .bind ((fromBase_ends definition sound).mono fun given later handed => ?_)
  have properties : (definition.properties.mapM buildProperty).Ends later fun own later =>
      start.Numbered later ∧ List.Forall₂ start.Holds definition.properties own :=
    ends_mapM (fun property member _ numbered => by
      refine buildProperty_ends property numbered fun name mentioned missing => ?_
      have isExpression : property.type ∈ (TypeDefinition.object definition).expressions :=
        List.mem_append_left _ (List.mem_map_of_mem member)
      exact sound.lacks ready (List.mem_flatMap.mpr ⟨_, isExpression, mentioned⟩) missing) handed.1
  refine .bind (properties.mono fun own later declared => ?_)
  have constructors : (definition.constructors.mapM buildConstructor).Ends later
      fun made later => start.Numbered later ∧
        List.Forall₂ (fun _ _ => True) definition.constructors made :=
    ends_mapM (fun constructor _ _ numbered =>
      (buildConstructor_ends constructor numbered).mono fun _ _ numbered => ⟨numbered, trivial⟩)
      declared.1
  refine .bind (constructors.mono fun makers later constructed => ?_)
  refine .bind ((freshIdent_ends constructed.1).mono fun ident later numbered => ?_)
  refine .bind ((freshIdent_ends numbered).mono fun implicit later numbered => ?_)
  exact ends_pure ⟨numbered, given, own, rfl, handed.2, declared.2⟩

theorem bindReference_ends (key : String) (type : ObjectType) :
    (bindReference key type).Ends draft fun _ later =>
      later = { draft with bindings := later.bindings } := by
  refine .bind (ends_get ?_)
  cases draft.references.get? key with
  | none => exact ends_pure rfl
  | some ref =>
      dsimp only
      cases ref.bind type draft.bindings with
      | error fault => exact ends_throw
      | ok bindings =>
          intro _ _ ran
          cases ran
          rfl

theorem build_ends (definition : TypeDefinition) (sound : start.Sound)
    (ready : start.Ready definition) :
    (build definition).Ends start fun target later =>
      later = { start with bindings := later.bindings, next := later.next } ∧
        ∀ type, target = .object type →
          ∃ declared, definition = .object declared ∧ start.Merges declared type := by
  cases definition with
  | object definition =>
      refine .bind ((buildObject_ends definition sound ready).mono fun type later made => ?_)
      refine .bind ((bindReference_ends _ type).mono fun _ last bound => ends_pure ⟨?_, ?_⟩)
      · rw [bound, made.1]
      · rintro _ ⟨⟩
        exact ⟨definition, rfl, made.2⟩
  | sequence definition =>
      refine .bind ((parse_ends definition.element .refl).mono fun element later read => ?_)
      refine .bind ((freshIdent_ends read.1).mono fun ident later numbered => ends_pure ⟨?_, ?_⟩)
      · rw [numbered]
      · rintro _ ⟨⟩
  | dictionary definition =>
      refine .bind ((parse_ends definition.value .refl).mono fun value later read => ?_)
      refine .bind ((freshIdent_ends read.1).mono fun ident later numbered => ends_pure ⟨?_, ?_⟩)
      · rw [numbered]
      · rintro _ ⟨⟩

end Building

/-! ## All types -/

theorem Draft.Merged.withBuilt {draft later : Draft} {definition : TypeDefinition} {key : String}
    {target : Target} (merged : draft.Merged) (sound : draft.Sound)
    (unbuilt : draft.built.get? key = none)
    (defined : draft.definitions.get? key = some definition) (ready : draft.Ready definition)
    (made : build definition draft = .ok (target, later)) :
    (later.withBuilt key target).Merged := by
  obtain ⟨same, isObject⟩ := build_ends definition sound ready target later made
  have built (other : String) : (later.withBuilt key target).built.get? other =
      if other = key then some target else draft.built.get? other := by
    rw [Draft.withBuilt, same, Entries.get?_insert]
  have definitions : (later.withBuilt key target).definitions = draft.definitions := by
    rw [Draft.withBuilt, same]
  have extended : draft.Extends (later.withBuilt key target) := by
    refine ⟨by rw [Draft.withBuilt, same], definitions, fun {other found} isBuilt => ?_,
      fun {other} stillUnbuilt undefined => ?_⟩
    · rw [built, if_neg]
      · exact isBuilt
      · rintro rfl
        rw [unbuilt] at isBuilt
        cases isBuilt
    · rw [built, if_neg]
      · exact stillUnbuilt
      · rintro rfl
        rw [defined] at undefined
        cases undefined
  intro other type isBuilt
  rw [built] at isBuilt
  rw [definitions]
  split at isBuilt
  · rename_i same
    obtain ⟨declared, rfl, merges⟩ := isObject type (Option.some.inj isBuilt)
    exact ⟨declared, same ▸ defined, merges.extends extended⟩
  · obtain ⟨declared, isDeclared, merges⟩ := merged other type isBuilt
    exact ⟨declared, isDeclared, merges.extends extended⟩

theorem Visits.merged {path keys : List String} {draft later : Draft}
    {outcome : Except Failure Draft} (visits : Visits path keys draft outcome)
    (sound : draft.Sound) (merged : draft.Merged) (succeeded : outcome = .ok later) :
    later.Merged := by
  induction visits generalizing later with
  | done =>
      cases succeeded
      exact merged
  | built _ _ ih | undefined _ _ _ ih => exact ih sound merged succeeded
  | cycle | failed | refused => cases succeeded
  | next unbuilt defined new inner made _ ihInner ihRest =>
      have kept := inner.kept sound rfl
      have stillUnbuilt := kept.unbuilt _ (List.mem_append_right _ List.mem_cons_self) unbuilt
      have stillDefined := kept.definitions ▸ defined
      have first := (Kept.build kept unbuilt defined new).ends made
      exact ihRest first.sound
        ((ihInner sound merged rfl).withBuilt kept.sound stillUnbuilt stillDefined
          (kept.isReady defined) made) succeeded

variable {outline : ShapeOutline} {next : Nat} {later : Draft}

theorem buildTypes_merged (built : (buildTypes outline).leaves { next } = .ok later) :
    later.Merged := by
  rw [buildTypes_leaves] at built
  cases declared : (declareAll outline).leaves { next } with
  | error failure =>
      rw [declared] at built
      cases built
  | ok draft =>
      rw [declared] at built
      have declares := declareAll_declares declared
      refine (visitAll_visits declares).merged declares.sound (fun key type isBuilt => ?_) built
      obtain ⟨_, impossible⟩ := declares.built isBuilt
      cases impossible

end Shape

end Unflatten
