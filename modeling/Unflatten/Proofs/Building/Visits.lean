import Mathlib.Data.List.Nodup
import Unflatten.Proofs.Building.Drafts

/-!
# Visits of definitions

`Visits` says what visiting keys one after the other comes to when nothing limits the length of the
path. From a sound draft every visit comes to an end: the path holds different keys of definitions,
so that the limit of the builder is never met. A visit that succeeds leaves a sound draft with the
types of the keys, and one that fails for the order of building has found a cycle.
-/

set_option autoImplicit false

namespace Unflatten.Shape

/-- Visits of keys, the keys of the path being visited already. -/
inductive Visits : List String → List String → Draft → Except Failure Draft → Prop where
  | done {path : List String} {draft : Draft} : Visits path [] draft (.ok draft)
  | built {path keys : List String} {key : String} {draft : Draft} {target : Target}
      {outcome : Except Failure Draft} (isBuilt : draft.built.get? key = some target)
      (rest : Visits path keys draft outcome) : Visits path (key :: keys) draft outcome
  | undefined {path keys : List String} {key : String} {draft : Draft}
      {outcome : Except Failure Draft} (unbuilt : draft.built.get? key = none)
      (undefined : draft.definitions.get? key = none) (rest : Visits path keys draft outcome) :
      Visits path (key :: keys) draft outcome
  | cycle {path keys : List String} {key : String} {draft : Draft} {definition : TypeDefinition}
      (unbuilt : draft.built.get? key = none)
      (defined : draft.definitions.get? key = some definition) (visited : key ∈ path) :
      Visits path (key :: keys) draft (.error (.shape (.cycle (path ++ [key]))))
  | failed {path keys : List String} {key : String} {draft : Draft} {definition : TypeDefinition}
      {failure : Failure} (unbuilt : draft.built.get? key = none)
      (defined : draft.definitions.get? key = some definition) (new : key ∉ path)
      (inner : Visits (path ++ [key]) (requirements draft.definitions definition) draft
        (.error failure)) : Visits path (key :: keys) draft (.error failure)
  | refused {path keys : List String} {key : String} {draft ready : Draft}
      {definition : TypeDefinition} {failure : Failure} (unbuilt : draft.built.get? key = none)
      (defined : draft.definitions.get? key = some definition) (new : key ∉ path)
      (inner : Visits (path ++ [key]) (requirements draft.definitions definition) draft (.ok ready))
      (refused : build definition ready = .error failure) :
      Visits path (key :: keys) draft (.error failure)
  | next {path keys : List String} {key : String} {draft ready later : Draft}
      {definition : TypeDefinition} {target : Target} {outcome : Except Failure Draft}
      (unbuilt : draft.built.get? key = none)
      (defined : draft.definitions.get? key = some definition) (new : key ∉ path)
      (inner : Visits (path ++ [key]) (requirements draft.definitions definition) draft (.ok ready))
      (made : build definition ready = .ok (target, later))
      (rest : Visits path keys (later.withBuilt key target) outcome) :
      Visits path (key :: keys) draft outcome

variable {path keys : List String} {key : String} {draft ready later : Draft}
  {definition : TypeDefinition} {target : Target} {outcome : Except Failure Draft}

/-! ## What visits leave -/

/-- What a successful visit of the keys leaves of the draft. -/
structure Kept (path keys : List String) (draft later : Draft) : Prop where
  definitions : later.definitions = draft.definitions
  references : later.references = draft.references
  grown : ∀ {key target}, draft.built.get? key = some target → later.built.get? key = some target
  unbuilt : ∀ key ∈ path, draft.built.get? key = none → later.built.get? key = none
  built : ∀ key ∈ keys, ∀ definition, draft.definitions.get? key = some definition →
    ∃ target, later.built.get? key = some target
  sound : later.Sound

/-- Every key of the path requires all the keys. -/
def Leads (definitions : Entries TypeDefinition) (path keys : List String) : Prop :=
  ∀ above ∈ path, ∀ key ∈ keys, Relation.TransGen (Requires definitions) above key

theorem Leads.inner (leads : Leads draft.definitions path (key :: keys))
    (defined : draft.definitions.get? key = some definition) :
    Leads draft.definitions (path ++ [key]) (requirements draft.definitions definition) := by
  intro above isAbove other member
  have requires : Requires draft.definitions key other := ⟨definition, defined, member⟩
  rcases List.mem_append.mp isAbove with isAbove | isLast
  · exact (leads above isAbove key List.mem_cons_self).tail requires
  · obtain rfl := List.mem_singleton.mp isLast
    exact .single requires

theorem Leads.rest (leads : Leads draft.definitions path (key :: keys)) :
    Leads draft.definitions path keys :=
  fun above isAbove other member => leads above isAbove other (List.mem_cons_of_mem _ member)

theorem Kept.isReady (inner : Kept path (requirements draft.definitions definition) draft later)
    (defined : draft.definitions.get? key = some definition) : later.Ready definition := by
  intro other member
  rw [inner.definitions] at member
  obtain ⟨declared, isDeclared⟩ := Requires.declared ⟨definition, defined, member⟩
  exact inner.built other member declared isDeclared

theorem Kept.build (inner : Kept (path ++ [key]) (requirements draft.definitions definition) draft
      ready) (unbuilt : draft.built.get? key = none)
    (defined : draft.definitions.get? key = some definition) (new : key ∉ path) :
    (build definition).Meets ready fun target later =>
      Kept path [key] draft (later.withBuilt key target) := by
  have sound := inner.sound
  have definedStill : ready.definitions.get? key = some definition := by
    rw [inner.definitions]
    exact defined
  have keyed := sound.declared.keyed definedStill
  have unbuiltStill : ready.built.get? key = none :=
    inner.unbuilt key (List.mem_append_right _ List.mem_cons_self) unbuilt
  have required : ready.Ready definition := inner.isReady defined
  have baseBuilt : BaseBuilt ready definition := by
    refine fun base extended => sound.not_reference fun declared isDeclared => ?_
    exact required _ (mem_requirements.mpr (Or.inr ⟨base, extended, rfl, declared, isDeclared⟩))
  have unbound : Unbound ready definition := by
    rintro declared rfl
    obtain ⟨ref, referenced, named⟩ := sound.declared.referenced definedStill
    refine ⟨ref, keyed ▸ referenced, named, Option.eq_none_iff_forall_ne_some.mpr fun type => ?_⟩
    intro bound
    rw [(sound.bound referenced type).mp bound] at unbuiltStill
    cases unbuiltStill
  refine (build_meets sound.closed baseBuilt unbound).mono fun target later made => ?_
  obtain ⟨builds, refers⟩ := made
  obtain ⟨sameDefinitions, sameReferences, -⟩ := builds.same
  exact
    { definitions := sameDefinitions.trans inner.definitions
      references := sameReferences.trans inner.references
      grown := fun {other found} isBuilt => by
        rw [builds.get?_withBuilt, if_neg]
        · exact inner.grown isBuilt
        · rintro rfl
          rw [unbuilt] at isBuilt
          cases isBuilt
      unbuilt := fun other member stillUnbuilt => by
        rw [builds.get?_withBuilt, if_neg (ne_of_mem_of_not_mem member new)]
        exact inner.unbuilt other (List.mem_append_left _ member) stillUnbuilt
      built := fun other member declared isDeclared => by
        obtain rfl := List.mem_singleton.mp member
        exact ⟨target, by rw [builds.get?_withBuilt, if_pos rfl]⟩
      sound := builds.sound sound definedStill refers required }

theorem Kept.cons (first : Kept path [key] draft ready) (rest : Kept path keys ready later) :
    Kept path (key :: keys) draft later where
  definitions := rest.definitions.trans first.definitions
  references := rest.references.trans first.references
  grown isBuilt := rest.grown (first.grown isBuilt)
  unbuilt other member unbuilt := rest.unbuilt other member (first.unbuilt other member unbuilt)
  built other member declared isDeclared := by
    rcases List.mem_cons.mp member with rfl | member
    · obtain ⟨target, isBuilt⟩ := first.built other List.mem_cons_self declared isDeclared
      exact ⟨target, rest.grown isBuilt⟩
    · rw [← first.definitions] at isDeclared
      exact rest.built other member declared isDeclared
  sound := rest.sound

theorem Kept.skip (sound : draft.Sound) (skipped : (∃ target, draft.built.get? key = some target) ∨
    draft.definitions.get? key = none) : Kept path [key] draft draft where
  definitions := rfl
  references := rfl
  grown isBuilt := isBuilt
  unbuilt _ _ unbuilt := unbuilt
  built other member declared isDeclared := by
    obtain rfl := List.mem_singleton.mp member
    rcases skipped with isBuilt | undefined
    · exact isBuilt
    · rw [isDeclared] at undefined
      cases undefined
  sound := sound

theorem Visits.kept (visits : Visits path keys draft outcome) (sound : draft.Sound)
    (succeeded : outcome = .ok later) : Kept path keys draft later := by
  induction visits generalizing later with
  | done =>
      cases succeeded
      exact ⟨rfl, rfl, id, fun _ _ unbuilt => unbuilt, by simp, sound⟩
  | built isBuilt _ ih => exact (Kept.skip sound (Or.inl ⟨_, isBuilt⟩)).cons (ih sound succeeded)
  | undefined _ undefined _ ih =>
      exact (Kept.skip sound (Or.inr undefined)).cons (ih sound succeeded)
  | cycle | failed | refused => cases succeeded
  | next unbuilt defined new _ made _ ihInner ihRest =>
      have first := (Kept.build (ihInner sound rfl) unbuilt defined new).ends made
      exact first.cons (ihRest first.sound succeeded)

theorem Visits.fails {failure : Failure} (visits : Visits path keys draft outcome)
    (sound : draft.Sound) (leads : Leads draft.definitions path keys)
    (failed : outcome = .error failure) (ofOrder : OfOrder failure) :
    (∃ cycle, failure = .shape (.cycle cycle)) ∧ IsCyclic draft.definitions := by
  induction visits with
  | done => cases failed
  | built _ _ ih | undefined _ _ _ ih => exact ih sound leads.rest failed
  | cycle _ defined visited =>
      cases failed
      exact ⟨⟨_, rfl⟩, _, leads _ visited _ List.mem_cons_self⟩
  | failed _ defined _ _ ih => exact ih sound (leads.inner defined) failed
  | refused unbuilt defined new inner refused _ =>
      cases failed
      exact absurd ofOrder ((Kept.build (inner.kept sound rfl) unbuilt defined new).fails refused)
  | next unbuilt defined new inner made _ _ ih =>
      have first := (Kept.build (inner.kept sound rfl) unbuilt defined new).ends made
      rw [← first.definitions] at leads ⊢
      exact ih first.sound leads.rest failed

/-! ## Visits come to an end -/

/-- The draft that a step leaves, or its failure. -/
def Building.leaves (step : Building Unit) (draft : Draft) : Except Failure Draft :=
  (step draft).map Prod.snd

theorem Building.Meets.leaves_ok {step : Building Unit} {claim : Draft → Prop}
    (meets : step.Meets draft fun _ later => claim later)
    (left : step.leaves draft = .ok later) : claim later := by
  unfold Building.leaves at left
  cases ran : step draft with
  | error failure =>
      rw [ran] at left
      cases left
  | ok pair =>
      rw [ran] at left
      cases left
      exact meets.ends ran

theorem Building.Meets.leaves_error {step : Building Unit} {claim : Unit → Draft → Prop}
    {failure : Failure} (meets : step.Meets draft claim)
    (left : step.leaves draft = .error failure) : ¬ OfOrder failure := by
  unfold Building.leaves at left
  cases ran : step draft with
  | error other =>
      rw [ran] at left
      cases left
      exact meets.fails ran
  | ok pair =>
      rw [ran] at left
      cases left

theorem Building.leaves_bind {α : Type} {step : Building α} {next : α → Building Unit} :
    Building.leaves (step >>= next) draft =
      (match step draft with
        | .ok (result, later) => Building.leaves (next result) later
        | .error failure => .error failure) := by
  unfold Building.leaves
  change Except.map _ (Except.bind (step draft) _) = _
  cases step draft <;> rfl

theorem Building.leaves_next {step next : Building Unit} :
    Building.leaves (step >>= fun _ => next) draft =
      (match step.leaves draft with
        | .ok later => next.leaves later
        | .error failure => .error failure) := by
  rw [Building.leaves_bind, Building.leaves.eq_def step]
  cases step draft <;> rfl

/-- The draft with the type of the key, once its requirements are visited. -/
def builtAfter (definition : TypeDefinition) (key : String) :
    Except Failure Draft → Except Failure Draft
  | .error failure => .error failure
  | .ok ready =>
    match build definition ready with
    | .error failure => .error failure
    | .ok (target, later) => .ok (later.withBuilt key target)

theorem buildNamed_leaves (limit : Nat) :
    (buildNamed (limit + 1) path key).leaves draft =
      match draft.built.get? key, draft.definitions.get? key with
      | some _, _ => .ok draft
      | none, none => .ok draft
      | none, some definition =>
        if key ∈ path then .error (.shape (.cycle (path ++ [key])))
        else
          builtAfter definition key ((buildEach (buildNamed limit (path ++ [key]))
            (requirements draft.definitions definition)).leaves draft) := by
  rw [buildNamed, Building.leaves_bind]
  change Building.leaves (if (draft.built.get? key).isSome = true then _ else _) draft = _
  cases draft.built.get? key with
  | some target => rfl
  | none =>
      cases draft.definitions.get? key with
      | none => rfl
      | some definition =>
          simp only [Option.isSome_none, Bool.false_eq_true, if_false, List.contains_iff_mem]
          by_cases visited : key ∈ path
          · rw [if_pos visited, if_pos visited]
            rfl
          · rw [if_neg visited, if_neg visited, Building.leaves_next]
            cases (buildEach (buildNamed limit (path ++ [key]))
              (requirements draft.definitions definition)).leaves draft with
            | error failure => rfl
            | ok ready =>
                dsimp only [builtAfter]
                rw [Building.leaves_bind]
                cases build definition ready <;> rfl

theorem Visits.defined {between : Except Failure Draft} {next : Draft → Except Failure Draft}
    (unbuilt : draft.built.get? key = none)
    (defined : draft.definitions.get? key = some definition) (new : key ∉ path)
    (inner : Visits (path ++ [key]) (requirements draft.definitions definition) draft between)
    (sound : draft.Sound) (rest : ∀ later, Kept path [key] draft later →
      Visits path keys later (next later)) :
    Visits path (key :: keys) draft
      (match builtAfter definition key between with
        | .ok later => next later
        | .error failure => .error failure) := by
  cases between with
  | error failure => exact .failed unbuilt defined new inner
  | ok ready =>
      dsimp only [builtAfter]
      cases made : build definition ready with
      | error failure => exact .refused unbuilt defined new inner made
      | ok pair =>
          have kept := (Kept.build (inner.kept sound rfl) unbuilt defined new).ends made
          exact .next unbuilt defined new inner made (rest _ kept)

/-- The builder's visits are those without a limit as long as the limit covers the definitions that
are not on the path. -/
theorem buildEach_visits {limit : Nat} (sound : draft.Sound) (distinct : path.Nodup)
    (onPath : ∀ above ∈ path, above ∈ draft.definitions.names)
    (covers : draft.definitions.length < path.length + limit) :
    Visits path keys draft ((buildEach (buildNamed limit path) keys).leaves draft) := by
  induction limit generalizing path keys draft with
  | zero =>
      -- A path of different keys of definitions is no longer than the list of definitions.
      have inside : path.length ≤ draft.definitions.names.length :=
        (List.subperm_of_subset distinct onPath).length_le
      rw [Entries.names, List.length_map] at inside
      omega
  | succ limit ihLimit =>
      induction keys generalizing draft with
      | nil => exact .done
      | cons key keys ihKeys =>
          rw [buildEach, Building.leaves_next, buildNamed_leaves]
          cases isBuilt : draft.built.get? key with
          | some target => exact .built isBuilt (ihKeys sound onPath covers)
          | none =>
              cases defined : draft.definitions.get? key with
              | none => exact .undefined isBuilt defined (ihKeys sound onPath covers)
              | some definition =>
                  dsimp only
                  by_cases visited : key ∈ path
                  · rw [if_pos visited]
                    exact .cycle isBuilt defined visited
                  · rw [if_neg visited]
                    refine .defined isBuilt defined visited (ihLimit sound ?_ ?_ ?_) sound ?_
                    · rw [← List.concat_eq_append]
                      exact distinct.concat visited
                    · refine List.forall_mem_append.mpr ⟨onPath, ?_⟩
                      exact List.forall_mem_singleton.mpr (Entries.mem_names_of_get? defined)
                    · rw [List.length_append, List.length_singleton]
                      omega
                    · intro later kept
                      rw [← kept.definitions] at onPath covers
                      exact ihKeys kept.sound onPath covers

end Unflatten.Shape
