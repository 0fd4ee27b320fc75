import Unflatten.Proofs.Expressions.RoundTrip
import Unflatten.Proofs.Keys.Reach

/-!
# What type expressions are made of

A target that is read from an expression is put together of targets that names are looked up to.
What holds for these and is kept when targets are put together holds for the target.
-/

set_option autoImplicit false

namespace Unflatten.TypeExpression

variable {lookup : String → Option Target} {holds : Target → Prop}

/-- The types that a state has read so far. -/
def State.types (state : State) : List Target :=
  (match state.mode with
    | .afterType type => [type]
    | .inBrackets type => [type]
    | .expectName => []
    | .afterName _ => []) ++ state.frames.flatMap Frame.arguments

variable (custom : ∀ name found, lookup name = some found → holds found)
  (made : ∀ target : Target, target.isCustom = false → (∀ inner ∈ target.inside, holds inner) →
    holds target)

include custom made

theorem build_holds {name : String} {arguments : List Target} {target : Target}
    (each : ∀ argument ∈ arguments, holds argument)
    (built : build lookup name arguments = .ok target) : holds target := by
  have wrapped {head : String} {wrap : Target → Target}
      (isMade : ∀ inner, (wrap inner).isCustom = false ∧ (wrap inner).inside = [inner])
      (built : single head wrap arguments = .ok target) : holds target := by
    unfold single at built
    split at built
    · cases built
      exact made _ (isMade _).1 (by simpa [(isMade _).2] using each)
    · cases built
  unfold build at built
  split at built
  · exact wrapped (fun _ => ⟨rfl, rfl⟩) built
  · exact wrapped (fun _ => ⟨rfl, rfl⟩) built
  · exact wrapped (fun _ => ⟨rfl, rfl⟩) built
  · split at built
    · cases built
    · cases built
      exact made _ rfl each
  · cases built
    exact made _ rfl (by simp [Target.inside])
  · cases built
    exact made _ rfl (by simp [Target.inside])
  · split at built
    · cases built
    · split at built
      · rename_i found
        cases built
        exact custom _ _ found
      · split at built
        · cases built
          exact made _ rfl (by simp [Target.inside])
        · cases built

theorem stepAfterType_holds {type : Target} {frames : List Frame} {offset : Nat} {lexeme : Lexeme}
    {next : State} (here : holds type) (each : ∀ frame ∈ frames, ∀ argument ∈ frame.arguments,
      holds argument) (stepped : stepAfterType lookup type frames offset lexeme = .ok next) :
    ∀ type ∈ next.types, holds type := by
  have outer : ∀ argument ∈ frames.flatMap Frame.arguments, holds argument := by
    simpa using fun argument frame member inside => each frame member argument inside
  unfold stepAfterType at stepped
  split at stepped
  · cases stepped
    exact List.forall_mem_cons.mpr ⟨made _ rfl (by simpa [Target.inside] using here), outer⟩
  · cases stepped
    exact List.forall_mem_cons.mpr ⟨here, outer⟩
  · cases stepped
    simpa [State.types, here] using outer
  · rename_i frame others
    obtain ⟨first, later⟩ := List.forall_mem_cons.mp each
    split at stepped
    · rename_i built
      cases stepped
      refine List.forall_mem_cons.mpr ⟨build_holds custom made ?_ built, ?_⟩
      · intro argument member
        rcases List.mem_cons.mp (List.mem_reverse.mp member) with rfl | member
        · exact here
        · exact first argument member
      · simpa using fun argument frame member inside => later frame member argument inside
    · cases stepped
  · cases stepped
  · cases stepped

theorem step_holds {state next : State} {offset : Nat} {lexeme : Lexeme}
    (each : ∀ type ∈ state.types, holds type)
    (stepped : step lookup state offset lexeme = .ok next) : ∀ type ∈ next.types, holds type := by
  obtain ⟨mode, frames⟩ := state
  have outer : ∀ frame ∈ frames, ∀ argument ∈ frame.arguments, holds argument :=
    fun frame member argument inside =>
      each argument (List.mem_append_right _ (List.mem_flatMap.mpr ⟨frame, member, inside⟩))
  cases mode with
  | expectName =>
      simp only [step] at stepped
      split at stepped
      · cases stepped
        exact each
      · cases stepped
  | afterName name =>
      simp only [step] at stepped
      split at stepped
      · cases stepped
        simpa [State.types] using each
      · split at stepped
        · rename_i built
          exact stepAfterType_holds custom made (build_holds custom made (by simp) built) outer
            stepped
        · cases stepped
  | afterType type =>
      exact stepAfterType_holds custom made (each type (by simp [State.types])) outer stepped
  | inBrackets type =>
      simp only [step] at stepped
      split at stepped
      · cases stepped
        obtain ⟨here, others⟩ := List.forall_mem_cons.mp each
        exact List.forall_mem_cons.mpr ⟨made _ rfl (by simpa [Target.inside] using here), others⟩
      · cases stepped

theorem finish_holds {state : State} {offset : Nat} {target : Target}
    (each : ∀ type ∈ state.types, holds type)
    (finished : finish lookup state offset = .ok target) : holds target := by
  obtain ⟨mode, frames⟩ := state
  cases mode with
  | expectName => cases finished
  | inBrackets => cases finished
  | afterName name =>
      simp only [finish] at finished
      split at finished
      · rename_i built
        split at finished
        · cases finished
          exact build_holds custom made (by simp) built
        · cases finished
      · cases finished
  | afterType type =>
      simp only [finish] at finished
      split at finished
      · cases finished
        exact each _ (by simp [State.types])
      · cases finished

/-- What holds for all that is looked up, and for a type that is put together of others with them,
holds for whatever is read. -/
theorem read_holds {text : String} {target : Target} (read : read lookup text = .ok target) :
    holds target := by
  have along {state : State} {final : Nat} {entries : List (Nat × Lexeme)}
      (each : ∀ type ∈ state.types, holds type)
      (ran : run lookup state final entries = .ok target) : holds target := by
    induction entries generalizing state with
    | nil => exact finish_holds custom made each ran
    | cons entry rest ih =>
        rw [run] at ran
        split at ran
        · rename_i stepped
          exact ih (step_holds custom made each stepped) ran
        · cases ran
  exact along (by simp [State.types]) read

end Unflatten.TypeExpression
