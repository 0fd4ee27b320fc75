import Unflatten.Planning.Leaf

/-!
# Tuples, arrays and sequences

The slots of a tuple are planned one after the other, each against what the earlier ones have left.
Leaf elements take one column each. Other elements of a sequence are planned again and again until
an element claims no further column; an array has one such element.
-/

set_option autoImplicit false

namespace Unflatten.Planning

variable (env : Environment) (recurse : Planner)

/-- A slot that is declined gets its default. -/
def planSlots (site : Site) : List Target → Planning (List Program)
  | [] => pure []
  | target :: rest => do
    let first ←
      match ← recurse (site.slot env target) with
      | some program => pure program
      | none => constant target.defaultValue
    let others ← planSlots site rest
    pure (first :: others)

def planTuple : Planner := fun site => do
  match site.target with
  | .tuple slots =>
    if slots.isEmpty || greatestArity < slots.length then pure none
    else if ← isAbsent env site then pure none
    else
      let items ← planSlots env recurse site slots
      pure (some (← pack .tuple items))
  | _ => pure none

/-- Elements as long as each claims a column, at most `limit`. What the last, fruitless one has
claimed is given back; its failure counts only if it is the first. -/
def repeatElement (site : Site) (element : Target) : Nat → Planning (List Program)
  | 0 => pure []
  | limit + 1 => do
    let before ← claims
    match ← attempt (recurse (site.element env element)) with
    | .ok (some item) =>
      if before.count < (← claims).count then
        match ← attempt (repeatElement site element limit) with
        | .ok others => pure (item :: others)
        | .error _ => pure [item]
      else
        setClaims before
        pure []
    | .ok none =>
      setClaims before
      pure []
    | .error failure =>
      setClaims before
      throw failure

def planElements (site : Site) (element : Target) : Planning (List Program) := do
  match element.leaf? with
  | some leaf => readAll env leaf (← available env site.scope)
  | none => repeatElement env recurse site element (env.header.length + 1)

/-- The register of a container: the existing one where it is of the expected kind, else the one
that `create` builds. -/
def reuseOrCreate (site : Site) (expectation : Expectation) (create : Program) :
    Planning Program := do
  match site.existing with
  | none => pure create
  | some existing =>
    let into ← fresh
    pure (Program.single (.reuse existing expectation (Program.keep existing) create into) into)

def appendSteps (type : Option SequenceType) (target : Register) (items : List Program) :
    List Step :=
  items.flatMap fun item => item.steps ++ [.addItem type target item.result]

def planItems (site : Site) (type : Option SequenceType) (element : Target) :
    Planning (Option Program) := do
  if ← isAbsent env site then pure none
  else
    let into ← fresh
    let expectation := if type.isSome then Expectation.present else Expectation.sequence
    let start ← reuseOrCreate site expectation (Program.single (.startSequence type into) into)
    let items ← planElements env recurse site element
    pure (some ⟨start.steps ++ appendSteps type start.result items, start.result⟩)

/-- A sequence type that cannot make an empty instance is declined where there is nothing to
update. -/
def planSequence : Planner := fun site => do
  match site.target with
  | .list element => planItems env recurse site none element
  | .sequence type =>
    if type.seed.isNone && site.existing.isNone then pure none
    else planItems env recurse site (some type) type.element
  | _ => pure none

def planArray : Planner := fun site => do
  match site.target with
  | .array element =>
    if ← isAbsent env site then pure none
    else if element.isLeaf then
      let items ← planElements env recurse site element
      pure (some (← pack .array items))
    else
      match ← recurse (site.element env element) with
      | some item => pure (some (← pack .array [item]))
      | none => pure (some (← pack .array []))
  | _ => pure none

end Unflatten.Planning
