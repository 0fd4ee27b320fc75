import Unflatten.Planning.Sequence

/-!
# Maps

A map of leaves has one entry for each name in its scope, under the spelling of the name in the header.
Other maps have one entry for each first segment of a nested name.
-/

set_option autoImplicit false

namespace Unflatten.Planning

variable (env : Environment) (recurse : Planner)

/-- Entries for segments, each a folded segment with its spelling in the header. -/
def insertSegments (site : Site) (type : Option DictionaryType) (value : Target)
    (target : Register) : List (String × String) → Planning (List Step)
  | [] => pure []
  | (segment, key) :: rest => do
    let first ←
      match ← recurse (site.member env segment value none) with
      | some item => pure (item.steps ++ [.addEntry type target key item.result])
      | none => pure []
    let others ← insertSegments site type value target rest
    pure (first ++ others)

def planInserts (site : Site) (type : Option DictionaryType) (value : Target)
    (target : Register) : Planning (List Step) := do
  match value.leaf? with
  | some leaf =>
    insertGroups env leaf type target (env.header.namesakes (← claims) site.scope)
  | none =>
    let segments :=
      env.header.memberNames (← claims) site.scope env.settings.separator
    insertSegments env recurse site type value target segments

def planEntries (site : Site) (type : Option DictionaryType) (value : Target) :
    Planning (Option Program) := do
  if ← isAbsent env site then pure none
  else
    let into ← fresh
    let expectation := if type.isSome then Expectation.present else Expectation.map
    let start ← reuseOrCreate site expectation (Program.single (.startMap type into) into)
    let inserts ← planInserts env recurse site type value start.result
    pure (some ⟨start.steps ++ inserts, start.result⟩)

/-- A dictionary type that cannot make an empty instance is declined where there is nothing to
update. -/
def planDictionary : Planner := fun site => do
  match site.target with
  | .map value => planEntries env recurse site none value
  | .dictionary type =>
    if type.seed.isNone && site.existing.isNone then pure none
    else planEntries env recurse site (some type) type.value
  | _ => pure none

end Unflatten.Planning
