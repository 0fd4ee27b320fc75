import Unflatten.Proofs.Sources.Requests

/-!
# Result sets and targets

Consecutive result sets are mapped, one to each target. The sets are entered in their order, the
first of them without a move, and the rows of each come to the outcomes of a mapper for its own
columns. The first failure among these is the failure of all; else each target has the values of its
set, or a set is missing.
-/

set_option autoImplicit false

namespace Unflatten

/-! ## Values up to the first failure -/

/-- The values of outcomes, or the first failure among them. -/
def allValues : List (Except Failure Value) → Except Failure (List Value)
  | [] => .ok []
  | .ok value :: rest => (allValues rest).map (value :: ·)
  | .error failure :: _ => .error failure

section AllValues

variable {outcomes : List (Except Failure Value)} {values : List Value} {failure : Failure}

theorem allValues_map (values : List Value) : allValues (values.map .ok) = .ok values := by
  induction values with
  | nil => rfl
  | cons value rest ih => rw [List.map_cons, allValues, ih, Except.map]

theorem allValues_append (one other : List (Except Failure Value)) :
    allValues (one ++ other) =
      (allValues one).bind fun values => (allValues other).map (values ++ ·) := by
  induction one with
  | nil =>
      rw [List.nil_append, allValues, Except.bind]
      cases allValues other with
      | ok values => rfl
      | error failure => rfl
  | cons outcome rest ih =>
      cases outcome with
      | error failure => rfl
      | ok value =>
          rw [List.cons_append, allValues, allValues, ih]
          cases allValues rest with
          | error failure => rfl
          | ok values =>
              cases allValues other with
              | ok more => rfl
              | error failure => rfl

theorem allValues_failure (rest : List (Except Failure Value)) :
    allValues (values.map .ok ++ .error failure :: rest) = .error failure := by
  rw [allValues_append, allValues_map]
  rfl

theorem allValues_eq_ok_iff : allValues outcomes = .ok values ↔ outcomes = values.map .ok := by
  constructor
  · intro success
    induction outcomes generalizing values with
    | nil =>
        cases success
        rfl
    | cons outcome rest ih =>
        cases outcome with
        | error failure => cases success
        | ok value =>
            rw [allValues] at success
            cases behind : allValues rest with
            | error failure =>
                rw [behind] at success
                cases success
            | ok others =>
                rw [behind] at success
                cases success
                rw [ih behind, List.map_cons]
  · rintro rfl
    exact allValues_map values

end AllValues

section EachValues

variable {outcomes : List (List (Except Failure Value))} {vectors : List (List Value)}
variable {values : List Value} {failure : Failure} {rest : List (Except Failure Value)}

theorem mapM_allValues_eq_ok_iff :
    outcomes.mapM allValues = .ok vectors ↔ outcomes = vectors.map (·.map .ok) := by
  induction outcomes generalizing vectors with
  | nil =>
      rw [List.mapM_nil]
      constructor
      · intro success
        cases success
        rfl
      · intro same
        rw [List.map_eq_nil_iff.mp same.symm]
        rfl
  | cons outcome rest ih =>
      rw [List.mapM_cons]
      constructor
      · intro success
        obtain ⟨values, first, success⟩ := Except.bind_eq_ok success
        obtain ⟨others, behind, success⟩ := Except.bind_eq_ok success
        cases success
        rw [allValues_eq_ok_iff.mp first, ih.mp behind, List.map_cons]
      · intro same
        obtain ⟨values, others, rfl, first, behind⟩ := List.map_eq_cons_iff.mp same.symm
        rw [allValues_eq_ok_iff.mpr first.symm, ih.mpr behind.symm]
        rfl

theorem allValues_flatten (outcomes : List (List (Except Failure Value))) :
    allValues outcomes.flatten = (outcomes.mapM allValues).map List.flatten := by
  induction outcomes with
  | nil => rfl
  | cons outcome rest ih =>
      rw [List.flatten_cons, allValues_append, ih, List.mapM_cons]
      cases allValues outcome with
      | error failure => rfl
      | ok values =>
          cases rest.mapM allValues with
          | error failure => rfl
          | ok vectors => rfl

theorem mapM_allValues_failure (fails : outcomes.flatten = values.map .ok ++ .error failure :: rest) :
    outcomes.mapM allValues = .error failure := by
  have flat := allValues_flatten outcomes
  rw [fails, allValues_failure] at flat
  cases each : outcomes.mapM allValues with
  | error first =>
      rw [each] at flat
      cases flat
      rfl
  | ok vectors =>
      rw [each] at flat
      cases flat

theorem mapM_allValues_map (all : outcomes.flatten = values.map .ok) :
    ∃ vectors, outcomes.mapM allValues = .ok vectors := by
  have flat := allValues_flatten outcomes
  rw [all, allValues_map] at flat
  cases each : outcomes.mapM allValues with
  | ok vectors => exact ⟨vectors, rfl⟩
  | error failure =>
      rw [each] at flat
      cases flat

end EachValues

namespace RowMapping

section Rows

variable {σ : Type} [RowSource σ] {mapping : RowMapping} {source : σ}

theorem collect_allValues (limit : Nat) :
    (mapping.collect source limit).1 = allValues (mapping.outcomes source limit) := by
  induction limit generalizing mapping source with
  | zero => rfl
  | succ limit ih =>
      rcases asked : mapping.next source with ⟨answer, later, behind⟩
      rw [collect, outcomes, asked]
      cases answer with
      | none => rfl
      | some outcome =>
          cases outcome with
          | error failure => rfl
          | ok value =>
              dsimp only
              rw [allValues, ← ih]
              cases later.collect behind limit with
              | mk collected last =>
                  cases collected with
                  | ok values => rfl
                  | error failure => rfl

theorem outcomes_getElem? (limit place : Nat) :
    (mapping.outcomes source limit)[place]? =
      if place < limit then mapping.answer source place else none := by
  induction limit generalizing mapping source place with
  | zero => rw [outcomes, List.getElem?_nil, if_neg (Nat.not_lt_zero place)]
  | succ limit ih =>
      rcases asked : mapping.next source with ⟨answer, later, behind⟩
      have first : mapping.answer source 0 = answer := congrArg Prod.fst asked
      rw [outcomes, asked]
      cases answer with
      | none =>
          dsimp only
          rw [answer_ended first (Nat.zero_le place), ite_self, List.getElem?_nil]
      | some outcome =>
          cases place with
          | zero => rw [List.getElem?_cons_zero, if_pos (Nat.zero_lt_succ limit), first]
          | succ place =>
              rw [List.getElem?_cons_succ, ih, answer_succ, asked]
              exact if_congr Nat.succ_lt_succ_iff.symm rfl rfl

end Rows

theorem next_sets {mapping : RowMapping} {source : MemorySource} :
    (mapping.next source).2.2.sets = source.sets := by
  have advanced : (RowSource.advance source).2.sets = source.sets := by
    simp only [RowSource.advance, MemorySource.advance]
    split
    · rfl
    · rfl
  unfold next
  split
  · rfl
  · split
    all_goals
      rename_i moved
      exact (congrArg (MemorySource.sets ∘ Prod.snd) moved).symm.trans advanced

theorem collect_sets {mapping : RowMapping} {source : MemorySource} (limit : Nat) :
    (mapping.collect source limit).2.sets = source.sets := by
  induction limit generalizing mapping source with
  | zero => rfl
  | succ limit ih =>
      have kept := @next_sets mapping source
      rcases asked : mapping.next source with ⟨answer, later, behind⟩
      rw [asked] at kept
      rw [collect, asked]
      cases answer with
      | none => exact kept
      | some outcome =>
          cases outcome with
          | error failure => exact kept
          | ok value =>
              have behindKept := (@ih later behind).trans kept
              dsimp only
              rw [← behindKept]
              cases later.collect behind limit with
              | mk collected last =>
                  cases collected with
                  | ok values => rfl
                  | error failure => rfl

end RowMapping

/-! ## One set -/

section OneSet

variable {make : Header → Except Failure Mapper} {sets : List ResultSet}

theorem ResultSet.length_outcomes (set : ResultSet) (made : Except Failure Mapper) :
    (set.outcomes made).length ≤ set.rows.length := by
  cases made with
  | ok mapper => exact Nat.le_of_eq (List.length_map _)
  | error failure =>
      rw [outcomes]
      cases set.rows with
      | nil => exact Nat.le_refl 0
      | cons cells rest => exact Nat.succ_le_succ (Nat.zero_le rest.length)

theorem mapSource_first (make : Header → Except Failure Mapper) (sets : List ResultSet) :
    mapSource make (⟨sets, 0⟩ : MemorySource) =
      (MemorySource.current ⟨sets, 0⟩).outcomes
        (make (Header.ofColumns (MemorySource.columns ⟨sets, 0⟩))) := by
  apply List.ext_getElem?
  intro place
  rw [mapSource, RowMapping.outcomes_getElem?, RowMapping.answer_first]
  split
  · rfl
  · rename_i outside
    have short := ResultSet.length_outcomes (MemorySource.current ⟨sets, 0⟩)
      (make (Header.ofColumns (MemorySource.columns ⟨sets, 0⟩)))
    refine (List.getElem?_eq_none_iff.mpr (Nat.le_trans short ?_)).symm
    exact Nat.le_of_lt (Nat.lt_of_succ_le (Nat.not_lt.mp outside))

theorem collect_first :
    (RowMapping.collect ⟨make, none, false⟩ (⟨sets, 0⟩ : MemorySource)
        (RowSource.remaining (⟨sets, 0⟩ : MemorySource) + 1)).1 =
      allValues ((MemorySource.current ⟨sets, 0⟩).outcomes
        (make (Header.ofColumns (MemorySource.columns ⟨sets, 0⟩)))) := by
  rw [RowMapping.collect_allValues, ← mapSource_first]
  rfl

end OneSet

/-! ## Consecutive sets -/

/-- The outcomes of the rows of each set, with mappers for its columns. -/
def outcomesOfSets (makers : List (Header → Except Failure Mapper)) (sets : List ResultSet) :
    List (List (Except Failure Value)) :=
  List.zipWith (fun make set => set.outcomes (make (Header.ofColumns set.columns))) makers sets

/-- The values of each set, unless a row fails or a set is missing. -/
def eachSet (expected : Nat) (done : Nat) (makers : List (Header → Except Failure Mapper))
    (sets : List ResultSet) : Except Failure (List (List Value)) :=
  ((outcomesOfSets makers sets).mapM allValues).bind fun vectors =>
    if sets.length < makers.length then
      .error (.reading (.missingResultSet expected (done + sets.length)))
    else .ok vectors

/-- A source without sets is read like one with a single set, of no columns and no rows. -/
def atLeastOne : List ResultSet → List ResultSet
  | [] => [⟨[], []⟩]
  | set :: sets => set :: sets

theorem length_atLeastOne (sets : List ResultSet) :
    (atLeastOne sets).length = max 1 sets.length := by
  cases sets with
  | nil => rfl
  | cons set sets => exact (Nat.max_eq_right (Nat.succ_le_succ (Nat.zero_le sets.length))).symm

section Sets

variable {expected done : Nat} {make : Header → Except Failure Mapper}
variable {makers : List (Header → Except Failure Mapper)} {set : ResultSet} {sets : List ResultSet}

theorem eachSet_cons :
    eachSet expected done (make :: makers) (set :: sets) =
      (allValues (set.outcomes (make (Header.ofColumns set.columns)))).bind fun values =>
        (eachSet expected (done + 1) makers sets).map (values :: ·) := by
  rw [eachSet, eachSet, outcomesOfSets, List.zipWith_cons_cons, List.mapM_cons, ← outcomesOfSets,
    List.length_cons, List.length_cons, Nat.add_assoc, Nat.add_comm 1]
  cases allValues (set.outcomes (make (Header.ofColumns set.columns))) with
  | error failure => rfl
  | ok values =>
      cases (outcomesOfSets makers sets).mapM allValues with
      | error failure => rfl
      | ok vectors =>
          change (if _ then _ else _) = Except.map _ (if _ then _ else _)
          rcases Nat.lt_or_ge sets.length makers.length with short | enough
          · rw [if_pos short, if_pos (Nat.succ_lt_succ short)]
            rfl
          · rw [if_neg (Nat.not_lt.mpr enough),
              if_neg (Nat.not_lt.mpr (Nat.succ_le_succ enough))]
            rfl

theorem mapSetsFrom_entered {source : MemorySource}
    (entered : (if done = 0 then (true, source) else RowSource.nextSet source) = (true, ⟨sets, 0⟩)) :
    ∃ later : MemorySource, later.sets = sets ∧
      mapSetsFrom expected done source (make :: makers) =
        (allValues ((MemorySource.current ⟨sets, 0⟩).outcomes
            (make (Header.ofColumns (MemorySource.columns ⟨sets, 0⟩))))).bind fun values =>
          (mapSetsFrom expected (done + 1) later makers).map (values :: ·) := by
  refine ⟨(RowMapping.collect ⟨make, none, false⟩ (⟨sets, 0⟩ : MemorySource)
    (RowSource.remaining (⟨sets, 0⟩ : MemorySource) + 1)).2, RowMapping.collect_sets _, ?_⟩
  rw [← collect_first, mapSetsFrom, entered]
  dsimp only
  rw [if_pos rfl]
  rcases RowMapping.collect ⟨make, none, false⟩ (⟨sets, 0⟩ : MemorySource)
    (RowSource.remaining (⟨sets, 0⟩ : MemorySource) + 1) with ⟨collected, later⟩
  cases collected with
  | ok values => rfl
  | error failure => rfl

theorem mapSetsFrom_moved {source : MemorySource} (behind : source.sets.drop 1 = sets) :
    mapSetsFrom expected (done + 1) source makers = eachSet expected (done + 1) makers sets := by
  induction makers generalizing done source sets with
  | nil => rfl
  | cons make makers ih =>
      have moved : RowSource.nextSet source = (!sets.isEmpty, (⟨sets, 0⟩ : MemorySource)) := by
        simp only [RowSource.nextSet, MemorySource.nextSet, behind]
      cases sets with
      | nil =>
          rw [mapSetsFrom, if_neg (Nat.succ_ne_zero done), moved]
          rfl
      | cons set sets =>
          obtain ⟨later, sameSets, mapped⟩ := @mapSetsFrom_entered expected (done + 1) make makers
            (set :: sets) source ((if_neg (Nat.succ_ne_zero done)).trans moved)
          have next : later.sets.drop 1 = sets := by rw [sameSets, List.drop_one, List.tail_cons]
          rw [mapped, ih next, eachSet_cons]
          rfl

theorem mapSets_eachSet :
    mapSets makers (⟨sets, 0⟩ : MemorySource) =
      eachSet makers.length 0 makers (atLeastOne sets) := by
  cases makers with
  | nil =>
      cases sets with
      | nil => rfl
      | cons set sets => rfl
  | cons make makers =>
      obtain ⟨later, sameSets, mapped⟩ := @mapSetsFrom_entered (makers.length + 1) 0 make makers
        sets ⟨sets, 0⟩ (if_pos rfl)
      have next : later.sets.drop 1 = (atLeastOne sets).tail := by
        rw [sameSets, List.drop_one]
        cases sets with
        | nil => rfl
        | cons set sets => rfl
      rw [mapSets, List.length_cons, mapped, mapSetsFrom_moved next]
      cases sets with
      | nil => exact eachSet_cons.symm
      | cons set sets => exact eachSet_cons.symm

end Sets

section Paired

variable {makers : List (Header → Except Failure Mapper)} {sets : List ResultSet}
variable {values : List Value} {failure : Failure} {rest : List (Except Failure Value)}

theorem outcomesOfSets_atLeastOne :
    (outcomesOfSets makers (atLeastOne sets)).flatten = (outcomesOfSets makers sets).flatten := by
  cases sets with
  | cons set sets => rfl
  | nil =>
      cases makers with
      | nil => rfl
      | cons make makers =>
          rw [atLeastOne, outcomesOfSets, List.zipWith_cons_cons, ResultSet.outcomes_empty rfl]
          cases makers with
          | nil => rfl
          | cons other makers => rfl

theorem outcomesOfSets_mirrors {others : List (Header → Except Failure Mapper)}
    (alike : List.Forall₂ (fun make other => ∀ header,
      Mirrors Mapper.Interchangeable (make header) (other header)) makers others) :
    outcomesOfSets makers sets = outcomesOfSets others sets := by
  induction alike generalizing sets with
  | nil => rfl
  | cons same rest ih =>
      cases sets with
      | nil => rfl
      | cons set sets =>
          rw [outcomesOfSets, List.zipWith_cons_cons, ← outcomesOfSets, ih,
            ResultSet.outcomes_mirrors (same _)]
          rfl

theorem mapSets_enough (enough : makers.length ≤ sets.length) (vectors : List (List Value)) :
    mapSets makers (⟨sets, 0⟩ : MemorySource) = .ok vectors ↔
      outcomesOfSets makers sets = vectors.map (·.map .ok) := by
  have few : ¬(atLeastOne sets).length < makers.length := by
    rw [length_atLeastOne]
    exact Nat.not_lt.mpr (Nat.le_trans enough (Nat.le_max_right 1 sets.length))
  have same : outcomesOfSets makers (atLeastOne sets) = outcomesOfSets makers sets := by
    cases sets with
    | cons set sets => rfl
    | nil =>
        rw [List.length_eq_zero_iff.mp (Nat.le_zero.mp enough)]
        rfl
  rw [mapSets_eachSet, eachSet, same, ← mapM_allValues_eq_ok_iff]
  simp only [if_neg few]
  cases (outcomesOfSets makers sets).mapM allValues with
  | ok vectors => exact Iff.rfl
  | error failure => exact Iff.rfl

theorem mapSets_failure
    (fails : (outcomesOfSets makers sets).flatten = values.map .ok ++ .error failure :: rest) :
    mapSets makers (⟨sets, 0⟩ : MemorySource) = .error failure := by
  rw [← outcomesOfSets_atLeastOne] at fails
  rw [mapSets_eachSet, eachSet, mapM_allValues_failure fails, Except.bind]

theorem mapSets_few (all : (outcomesOfSets makers sets).flatten = values.map .ok)
    (few : sets.length < makers.length) :
    mapSets makers (⟨sets, 0⟩ : MemorySource) =
      if makers.length = 1 then .ok [[]]
      else .error (.reading (.missingResultSet makers.length (max 1 sets.length))) := by
  split
  · rename_i single
    obtain ⟨make, rfl⟩ := List.length_eq_one_iff.mp single
    rw [List.length_eq_zero_iff.mp (Nat.lt_one_iff.mp few)]
    rfl
  · rename_i several
    rw [← outcomesOfSets_atLeastOne] at all
    obtain ⟨vectors, each⟩ := mapM_allValues_map all
    have short : max 1 sets.length < makers.length :=
      Nat.max_lt.mpr ⟨Nat.lt_of_le_of_ne (Nat.zero_lt_of_lt few) (Ne.symm several), few⟩
    rw [mapSets_eachSet, eachSet, each, length_atLeastOne, Nat.zero_add, Except.bind,
      if_pos short]

end Paired

/-- Each set goes to the target at its place, with a mapper for its own columns. With a set for each
target the values are, set by set, what all the rows come to. A row that fails is the failure of
all if every row before it has a value, in its set or in those before. Without such a row, too few
sets are a failure, except that a single target is content without any. Mappers that are as good as
fresh ones make no difference. -/
theorem mapSets_paired (strategy : Strategy) (bindings : Bindings) (settings : Settings)
    (targets : List Target) (sets : List ResultSet) :
    let makers := targets.map fun target header =>
      Mapper.make strategy bindings target header settings
    let outcomes := outcomesOfSets makers sets
    let mapped := mapSets makers (⟨sets, 0⟩ : MemorySource)
    (targets.length ≤ sets.length →
        ∀ vectors, mapped = .ok vectors ↔ outcomes = vectors.map fun values => values.map .ok) ∧
      (∀ (values : List Value) failure rest,
        outcomes.flatten = values.map .ok ++ .error failure :: rest → mapped = .error failure) ∧
      (∀ values : List Value, outcomes.flatten = values.map .ok → sets.length < targets.length →
        mapped =
          if targets.length = 1 then .ok [[]]
          else .error (.reading (.missingResultSet targets.length (max 1 sets.length)))) ∧
      ∀ others, List.Forall₂ (fun other make => ∀ header,
          Mirrors Mapper.Interchangeable (other header) (make header)) others makers →
        mapSets others (⟨sets, 0⟩ : MemorySource) = mapped := by
  intro makers outcomes mapped
  have sameLength : makers.length = targets.length := List.length_map _
  rw [← sameLength]
  refine ⟨fun enough => mapSets_enough enough, fun values failure rest fails =>
    mapSets_failure fails, fun values all few => mapSets_few all few, fun others alike => ?_⟩
  change _ = mapSets makers _
  rw [mapSets_eachSet, mapSets_eachSet, eachSet, eachSet, outcomesOfSets_mirrors alike,
    alike.length_eq]

/-! ## Depots

A depot without any result set. -/

namespace Depots

def depot : MemorySource := ⟨[], 0⟩

def counts : Header → Except Failure Mapper :=
  fun header => Mapper.make .standard [] (.scalar (.int .int32)) header {}

/-- A single target does not miss its set; of two targets only the second does. -/
theorem set_unmissed :
    mapSets [counts] depot = .ok [[]] ∧
      mapSets [counts, counts] depot = .error (.reading (.missingResultSet 2 1)) :=
  ⟨rfl, rfl⟩

end Depots

end Unflatten
