import Unflatten.Planning.Pass

/-!
# Untyped targets and leaves

A leaf takes the first column that is left. An untyped target takes every column of its scope: at
the root as a map, so that the names survive, and as a member as null, as one value or as an array.
-/

set_option autoImplicit false

namespace Unflatten.Planning

variable (env : Environment)

def readGroup (leaf : Leaf) (group : Namesakes) : Planning Program := do
  let items ← readAll env leaf group.columns
  match items with
  | [item] => pure item
  | _ => pack .array items

def insertGroups (leaf : Leaf) (type : Option DictionaryType) (target : Register) :
    List Namesakes → Planning (List Step)
  | [] => pure []
  | group :: rest => do
    let item ← readGroup env leaf group
    let others ← insertGroups leaf type target rest
    pure (item.steps ++ .addEntry type target group.display item.result :: others)

def planUntyped : Planner := fun site => do
  match site.target.leaf? with
  | none => pure none
  | some leaf =>
    if !leaf.isAny then pure none
    else if site.isRoot then
      let into ← fresh
      let groups := env.header.namesakes (← claims) site.scope
      let inserts ← insertGroups env leaf none into groups
      pure (some ⟨.startMap none into :: inserts, into⟩)
    else
      match ← available env site.scope with
      | [] => pure (some (← constant .null))
      | [column] => pure (some (← read env column leaf))
      | columns =>
        let items ← readAll env leaf columns
        pure (some (← pack .array items))

def planLeaf : Planner := fun site => do
  match site.target.leaf? with
  | none => pure none
  | some leaf =>
    match (← available env site.scope).head? with
    | some column => pure (some (← read env column leaf))
    | none => if site.isRoot then pure (some (← constant leaf.defaultValue)) else pure none

end Unflatten.Planning
