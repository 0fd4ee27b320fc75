import Unflatten.Proofs.Building.Declarations
import Unflatten.Proofs.Building.Visits

/-!
# Shapes are complete

Building the shape of an outline comes to an end. It fails if the definitions require themselves in
a cycle, and says that they do only if it is so. A shape that is built has all declared types, and
each reference in it is bound to the type of its name.
-/

set_option autoImplicit false

namespace Unflatten

namespace Shape

variable {outline : ShapeOutline} {start draft later : Draft} {next : Nat}

/-! ## All types -/

/-- The draft has the types of all that the outline declares. -/
structure Draft.Complete (outline : ShapeOutline) (draft : Draft) : Prop where
  sound : draft.Sound
  defined : ∀ {key definition}, draft.definitions.get? key = some definition ↔
    definition ∈ definitionsOf outline ∧ typeKey definition.name = key
  enumerated : ∀ definition ∈ outline.enums, ∃ type : EnumType,
    draft.built.get? (typeKey definition.name) = some (.enum type) ∧ type.name = definition.name
  built : ∀ {key definition}, draft.definitions.get? key = some definition →
    ∃ target, draft.built.get? key = some target

/-- Builds whatever is declared. -/
def visitAll : Building Unit := do
  let definitions := (← get).definitions
  buildEach (buildNamed (definitions.length + 1) []) definitions.names

theorem buildTypes_leaves : (buildTypes outline).leaves draft =
    (match (declareAll outline).leaves draft with
      | .ok declared => visitAll.leaves declared
      | .error failure => .error failure) := by
  have split : buildTypes outline = declareAll outline >>= fun _ => visitAll :=
    (bind_assoc _ _ _).symm
  rw [split]
  exact Building.leaves_next

theorem visitAll_visits (declares : draft.Declares outline.enums (definitionsOf outline)) :
    Visits [] draft.definitions.names draft (visitAll.leaves draft) :=
  buildEach_visits declares.sound List.nodup_nil (by simp) (by simp)

theorem declareAll_declares (declared : (declareAll outline).leaves { next } = .ok draft) :
    draft.Declares outline.enums (definitionsOf outline) :=
  (declareAll_meets outline next).leaves_ok declared

theorem buildTypes_complete (built : (buildTypes outline).leaves { next } = .ok later) :
    later.Complete outline := by
  rw [buildTypes_leaves] at built
  cases declared : (declareAll outline).leaves { next } with
  | error failure =>
      rw [declared] at built
      cases built
  | ok draft =>
      rw [declared] at built
      have declares := declareAll_declares declared
      have kept := (visitAll_visits declares).kept declares.sound built
      refine ⟨kept.sound, ?_, fun definition member => ?_, ?_⟩
      · rw [kept.definitions]
        exact declares.defined
      · obtain ⟨type, isBuilt, named⟩ := declares.enumerated definition member
        exact ⟨type, kept.grown isBuilt, named⟩
      · intro key definition defined
        rw [kept.definitions] at defined
        exact kept.built key (Entries.mem_names_of_get? defined) definition defined

theorem buildTypes_fails {failure : Failure}
    (failed : (buildTypes outline).leaves { next } = .error failure) (ofOrder : OfOrder failure) :
    (∃ cycle, failure = .shape (.cycle cycle)) ∧ outline.IsCyclic := by
  rw [buildTypes_leaves] at failed
  cases declared : (declareAll outline).leaves { next } with
  | error other =>
      rw [declared] at failed
      cases failed
      exact absurd ofOrder ((declareAll_meets outline next).leaves_error declared)
  | ok draft =>
      rw [declared] at failed
      have declares := declareAll_declares declared
      have leads : Leads draft.definitions [] draft.definitions.names := by simp [Leads]
      rw [← isCyclic_iff declares.defined]
      exact (visitAll_visits declares).fails declares.sound leads failed ofOrder

theorem Draft.Complete.not_cyclic (complete : draft.Complete outline) : ¬ outline.IsCyclic := by
  rw [← isCyclic_iff complete.defined]
  rintro ⟨key, cyclic⟩
  obtain ⟨definition, defined⟩ : ∃ definition, draft.definitions.get? key = some definition := by
    obtain ⟨above, -, requires⟩ := Relation.TransGen.tail'_iff.mp cyclic
    exact requires.declared
  obtain ⟨target, built⟩ := complete.built defined
  exact (complete.sound.settled defined built).not_cyclic cyclic

/-! ## Settings -/

/-- The types that the settings speak of refer to known references. -/
def SettingsRefer (known : Reference → Prop) (settings : Settings) : Prop :=
  ∀ name policy, settings.ofType? name = some policy →
    ∀ target ∈ policy.targets, target.RefersTo known

theorem namedObject_meets (place : TypePlace) (name : String) (complete : start.Complete outline)
    (numbered : start.Numbered draft) : (objectNamed place name).Meets draft fun type later =>
      start.Numbered later ∧ (Target.object type).RefersTo start.Knows := by
  have built : ∀ ref, start.lookUp name ≠ some (.reference ref) :=
    complete.sound.not_reference fun _ => complete.built
  refine (objectNamed_meets place numbered built).mono fun type later found => ?_
  exact ⟨found.1, complete.sound.closed name _ found.2⟩

theorem buildSubtype_meets (type : String) (definition : SubtypeDefinition)
    (complete : start.Complete outline) (numbered : start.Numbered draft) :
    (buildSubtype type definition).Meets draft fun rule later =>
      start.Numbered later ∧ (Target.object rule.target.objectType).RefersTo start.Knows := by
  refine .bind ((namedObject_meets _ definition.type complete numbered).mono
    fun concrete later found => ?_)
  unfold Condition.ofText
  split
  · rename_i failed
    split at failed
    · cases failed
      exact Building.meets_throw (by rintro ⟨⟩)
    · cases failed
  · exact .bind ((freshIdent_meets found.1).mono fun ident later numbered =>
      Building.meets_pure ⟨numbered, found.2⟩)

theorem preferredOf_meets (definition : ObjectDefinition) {type : ObjectType}
    (refers : (Target.object type).RefersTo start.Knows) (numbered : start.Numbered draft) :
    (preferredOf definition type).Meets draft fun preferred later => start.Numbered later ∧
      ∀ constructor ∈ preferred, ∀ target ∈ constructor.targets, target.RefersTo start.Knows := by
  unfold preferredOf
  split
  · exact Building.meets_pure ⟨numbered, by simp⟩
  · split
    · rename_i constructor found
      refine Building.meets_pure ⟨numbered, ?_⟩
      rintro _ ⟨⟩ target member
      refine Target.refersTo_object.mp refers target (List.mem_append_right _ ?_)
      exact List.mem_flatMap.mpr ⟨constructor, List.mem_of_getElem? found, member⟩
    · exact Building.meets_throw (by rintro ⟨⟩)

theorem defaultType_meets (definition : ObjectDefinition) (complete : start.Complete outline)
    (numbered : start.Numbered draft) :
    (defaultType definition).Meets draft fun default later => start.Numbered later ∧
      ∀ type ∈ default, (Target.object type).RefersTo start.Knows := by
  unfold defaultType
  split
  · exact Building.meets_pure ⟨numbered, by simp⟩
  · refine .bind ((namedObject_meets _ _ complete numbered).mono fun type later found => ?_)
    exact Building.meets_pure ⟨found.1, by rintro _ ⟨⟩; exact found.2⟩

theorem typePolicy_meets (definition : ObjectDefinition) (complete : start.Complete outline)
    (numbered : start.Numbered draft) :
    (typePolicy definition).Meets draft fun policy later => start.Numbered later ∧
      ∀ own ∈ policy, ∀ target ∈ own.targets, target.RefersTo start.Knows := by
  refine .bind ((namedObject_meets _ _ complete numbered).mono fun type later found => ?_)
  refine .bind ((preferredOf_meets definition found.2 found.1).mono
    fun preferred later preferring => ?_)
  refine .bind ((defaultType_meets definition complete preferring.1).mono
    fun default later defaulting => ?_)
  have subtypes : (definition.subtypes.mapM (buildSubtype definition.name)).Meets later
      fun rules later => start.Numbered later ∧
        ∀ rule ∈ rules, (Target.object rule.target.objectType).RefersTo start.Knows :=
    Building.meets_mapM (fun subtype _ _ numbered =>
      buildSubtype_meets definition.name subtype complete numbered) defaulting.1
  refine .bind (subtypes.mono fun rules later ruled => ?_)
  split
  · exact Building.meets_pure ⟨ruled.1, by simp⟩
  · refine Building.meets_pure ⟨ruled.1, ?_⟩
    rintro _ ⟨⟩ target member
    simp only [TypePolicy.targets, List.mem_append, List.mem_flatMap, List.mem_map,
      Option.mem_toList] at member
    rcases member with (⟨constructor, isPreferred, inside⟩ | ⟨type, isDefault, rfl⟩) |
      ⟨rule, isRule, rfl⟩
    · exact preferring.2 constructor isPreferred target inside
    · exact defaulting.2 type isDefault
    · exact ruled.2 rule isRule

theorem configureAll_meets (definitions : List ObjectDefinition) {settings : Settings}
    (complete : start.Complete outline) (numbered : start.Numbered draft)
    (refer : SettingsRefer start.Knows settings) :
    (configureAll settings definitions).Meets draft fun settings later =>
      start.Numbered later ∧ SettingsRefer start.Knows settings := by
  induction definitions generalizing settings draft with
  | nil => exact Building.meets_pure ⟨numbered, refer⟩
  | cons definition rest ih =>
      rw [configureAll]
      refine .bind ((typePolicy_meets definition complete numbered).mono
        fun policy later governed => ?_)
      cases policy with
      | none => exact ih governed.1 refer
      | some own =>
          refine ih governed.1 fun name policy found => ?_
          rw [Settings.ofType?, Settings.configure, Entries.get?_insert] at found
          split at found
          · cases found
            exact governed.2 own rfl
          · exact refer name policy found

theorem readColumnTypes_meets (columns : Entries String) (numbered : start.Numbered draft) :
    (readColumnTypes columns).Meets draft fun _ later => start.Numbered later := by
  induction columns generalizing draft with
  | nil =>
      refine Building.meets_pure ?_
      exact numbered
  | cons column rest ih =>
      unfold readColumnTypes
      split
      · refine .bind ((ih numbered).mono fun _ later numbered => Building.meets_pure ?_)
        exact numbered
      · exact Building.meets_throw (by rintro ⟨⟩)

/-! ## Shapes -/

/-- What follows the building of types. -/
def finish (outline : ShapeOutline) : Building Shape := do
  let settings ← configureAll outline.settings.toSettings outline.types
  let root ← parse outline.root
  let declaredTypes ← readColumnTypes outline.columns
  let draft ← get
  pure ⟨root, settings, declaredTypes, draft.built, draft.bindings⟩

theorem finish_meets (complete : start.Complete outline) :
    (finish outline).Meets start fun shape _ =>
      shape.types = start.built ∧ shape.bindings = start.bindings ∧
        shape.root.RefersTo start.Knows ∧ SettingsRefer start.Knows shape.settings := by
  have plain : SettingsRefer start.Knows outline.settings.toSettings := by
    rintro name policy ⟨⟩
  refine .bind ((configureAll_meets outline.types complete .refl plain).mono
    fun settings later configured => ?_)
  refine .bind ((parse_meets outline.root complete.sound.closed configured.1).mono
    fun root later read => ?_)
  refine .bind ((readColumnTypes_meets outline.columns read.1).mono
    fun declaredTypes later numbered => ?_)
  refine .bind (Building.meets_get (Building.meets_pure ?_))
  rw [numbered]
  exact ⟨rfl, rfl, read.2, configured.2⟩

/-- The names that an outline declares. -/
def declaredNames (outline : ShapeOutline) : List String :=
  outline.enums.map EnumDefinition.name ++ (definitionsOf outline).map TypeDefinition.name

/-- Every declared type is there under its name, and every reference that any of them, or the root,
reaches is bound to the type of its name. -/
structure IsComplete (outline : ShapeOutline) (shape : Shape) : Prop where
  registered : ∀ name ∈ declaredNames outline, ∃ target,
    shape.lookUp name = some target ∧ target.typeName = name
  bound : ∀ {whole ref}, whole = shape.root ∨ (∃ key, shape.types.get? key = some whole) →
    whole.Reaches shape.bindings shape.settings (.reference ref) → ∃ type,
      shape.bindings.find? ref = some type ∧ shape.lookUp ref.name = some (.object type)

variable {shape : Shape}

theorem Draft.Complete.parts (complete : draft.Complete outline) {settings : Settings}
    (refer : SettingsRefer draft.Knows settings) {whole inner : Target}
    (refers : whole.RefersTo draft.Knows) (member : inner ∈ whole.parts draft.bindings settings) :
    inner.RefersTo draft.Knows := by
  cases whole with
  | object type =>
      rcases List.mem_append.mp member with member | member
      · exact Target.refersTo_object.mp refers inner member
      · obtain ⟨policy, found, inside⟩ := List.mem_flatMap.mp member
        exact refer type.name policy (Option.mem_toList.mp found) inner inside
  | reference ref =>
      obtain ⟨key, referenced⟩ := Target.refersTo_reference.mp refers
      obtain ⟨type, found, rfl⟩ := List.mem_map.mp member
      have built := (complete.sound.bound referenced type).mp (Option.mem_toList.mp found)
      exact complete.sound.known built
  | scalar | enum | any | dynamic => cases member
  | nullable | list | sequence | map | dictionary | array | tuple => exact refers.part member

theorem Draft.Complete.knows (complete : draft.Complete outline) {ref : Reference}
    (known : draft.Knows ref) : ∃ type, draft.bindings.find? ref = some type ∧
      draft.built.get? (typeKey ref.name) = some (.object type) := by
  obtain ⟨key, referenced⟩ := known
  obtain ⟨definition, defined⟩ := complete.sound.declared.defined referenced
  obtain ⟨target, built⟩ := complete.built defined
  obtain ⟨type, rfl⟩ := (complete.sound.named defined built).2 rfl
  obtain ⟨same, isSame, named⟩ := complete.sound.declared.referenced defined
  obtain rfl : ref = same := Option.some.inj (referenced.symm.trans isSame)
  have keyed := complete.sound.declared.keyed defined
  have isKey : typeKey ref.name = key := named ▸ keyed
  rw [isKey]
  exact ⟨type, (complete.sound.bound referenced type).mpr built, built⟩

theorem Draft.Complete.isComplete (complete : draft.Complete outline)
    (types : shape.types = draft.built) (bindings : shape.bindings = draft.bindings)
    (rootRefers : shape.root.RefersTo draft.Knows)
    (refer : SettingsRefer draft.Knows shape.settings) : IsComplete outline shape where
  registered name member := by
    unfold Shape.lookUp
    rw [types]
    rcases List.mem_append.mp member with member | member
    · obtain ⟨definition, isDeclared, rfl⟩ := List.mem_map.mp member
      obtain ⟨type, built, named⟩ := complete.enumerated definition isDeclared
      exact ⟨_, built, named⟩
    · obtain ⟨definition, isDeclared, rfl⟩ := List.mem_map.mp member
      have defined := complete.defined.mpr ⟨isDeclared, rfl⟩
      obtain ⟨target, built⟩ := complete.built defined
      exact ⟨target, built, (complete.sound.named defined built).1⟩
  bound {whole ref} given reached := by
    rw [bindings] at reached ⊢
    rw [types] at given
    have wholeRefers : whole.RefersTo draft.Knows := by
      rcases given with rfl | ⟨key, built⟩
      · exact rootRefers
      · exact complete.sound.known built
    have refers := reached.within (Target.RefersTo draft.Knows) wholeRefers
      fun outer refers part member => complete.parts refer refers member
    unfold Shape.lookUp
    rw [types]
    exact complete.knows (Target.refersTo_reference.mp refers)

/-! ## Outlines -/

theorem ofOutline_eq (next : Nat) (outline : ShapeOutline) :
    ofOutline next outline = ((buildTypes outline).leaves { next }).bind fun draft =>
      (finish outline draft).map fun made => (made.1, made.2.next) := by
  have opened : (buildShape outline).run { next } =
      Except.bind (buildTypes outline { next }) fun built => finish outline built.2 := rfl
  unfold ofOutline
  rw [Building.leaves, opened]
  cases buildTypes outline { next } with
  | error failure => rfl
  | ok built =>
      change _ = (finish outline built.2).map _
      dsimp only [Except.bind]
      cases finish outline built.2 with
      | error failure => rfl
      | ok made => rfl

/-- Only a cycle of definitions lets an outline fail for the order of building. -/
theorem ofOutline_fails {failure : Failure} (failed : ofOutline next outline = .error failure)
    (ofOrder : OfOrder failure) :
    (∃ cycle, failure = .shape (.cycle cycle)) ∧ outline.IsCyclic := by
  rw [ofOutline_eq] at failed
  cases built : (buildTypes outline).leaves { next } with
  | error other =>
      rw [built] at failed
      cases failed
      exact buildTypes_fails built ofOrder
  | ok draft =>
      rw [built] at failed
      dsimp only [Except.bind] at failed
      cases finished : finish outline draft with
      | error other =>
          rw [finished] at failed
          cases failed
          exact absurd ofOrder ((finish_meets (buildTypes_complete built)).fails finished)
      | ok made =>
          rw [finished] at failed
          cases failed

theorem ofOutline_complete {left : Nat} (succeeded : ofOutline next outline = .ok (shape, left)) :
    IsComplete outline shape ∧ ¬ outline.IsCyclic := by
  rw [ofOutline_eq] at succeeded
  cases built : (buildTypes outline).leaves { next } with
  | error failure =>
      rw [built] at succeeded
      cases succeeded
  | ok draft =>
      rw [built] at succeeded
      dsimp only [Except.bind] at succeeded
      have complete := buildTypes_complete built
      cases finished : finish outline draft with
      | error failure =>
          rw [finished] at succeeded
          cases succeeded
      | ok made =>
          rw [finished] at succeeded
          cases succeeded
          obtain ⟨types, bindings, rootRefers, refer⟩ := (finish_meets complete).ends finished
          exact ⟨complete.isComplete types bindings rootRefers refer, complete.not_cyclic⟩

/-- For every outline: visiting the definitions comes to an end without a limit on the path; an
outline whose definitions are cyclic is refused, and only such an outline is refused for a cycle; a
shape that is built is complete; and no outline is refused because a type is not built yet or a
reference cannot be bound. -/
theorem ofOutline_builds (next : Nat) (outline : ShapeOutline) :
    (∀ draft, (declareAll outline).leaves { next } = .ok draft →
      Visits [] draft.definitions.names draft ((buildTypes outline).leaves { next })) ∧
    (outline.IsCyclic → ∃ failure, ofOutline next outline = .error failure) ∧
    (∀ path, ofOutline next outline = .error (.shape (.cycle path)) → outline.IsCyclic) ∧
    (∀ shape left, ofOutline next outline = .ok (shape, left) → IsComplete outline shape) ∧
    (∀ place name, ofOutline next outline ≠ .error (.shape (.notBuilt place name))) ∧
    ∀ fault, ofOutline next outline ≠ .error (.shape (.binding fault)) := by
  refine ⟨fun draft declared => ?_, fun cyclic => ?_, fun path failed => ?_,
    fun shape left succeeded => (ofOutline_complete succeeded).1, fun place name failed => ?_,
    fun fault failed => ?_⟩
  · rw [buildTypes_leaves, declared]
    exact visitAll_visits (declareAll_declares declared)
  · cases built : ofOutline next outline with
    | error failure => exact ⟨failure, rfl⟩
    | ok made => exact absurd cyclic (ofOutline_complete built).2
  · exact (ofOutline_fails failed (.cycle path)).2
  · obtain ⟨⟨cycle, isCycle⟩, -⟩ := ofOutline_fails failed (.notBuilt place name)
    cases isCycle
  · obtain ⟨⟨cycle, isCycle⟩, -⟩ := ofOutline_fails failed (.binding fault)
    cases isCycle

end Shape

end Unflatten
