import Unflatten.Planning.Instance
import Unflatten.Program.Run

/-!
# Strategies

A strategy says which planners see the root target and in which order; the first that does not
decline wins. The members of a target are always planned by the standard strategy, which counts the
levels that are left and fails when there are none.
-/

set_option autoImplicit false

namespace Unflatten

inductive Strategy where
  | standard
  | untyped
  | leaf
  | tuple
  | array
  | map
  | sequence
  | object
  | decline
  | inOrder (members : List Strategy)
  | guarded (admits : Site → Bool) (inner : Strategy)

instance : Inhabited Strategy := ⟨.standard⟩

namespace Planning

variable (env : Environment)

def inOrder (site : Site) : List Planner → Planning (Option Program)
  | [] => pure none
  | planner :: rest => do
    match ← orRelease (planner site) with
    | some program => pure (some program)
    | none => inOrder site rest

/-- Untyped elements and slots are leaves; elsewhere they take all columns. -/
def takesAllColumns (site : Site) : Bool :=
  site.target.isAny && (site.role == .root || site.role == .member)

def planUntypedMember : Planner := fun site =>
  if takesAllColumns site then planUntyped env site else pure none

def standardPlanners (recurse : Planner) : List Planner :=
  [planUntypedMember env, planLeaf env, planTuple env recurse, planArray env recurse,
    planDictionary env recurse, planSequence env recurse, planObject env recurse]

/-- The standard strategy for a site with so many levels left, its own included. -/
def standard : Nat → Planner
  | 0 => fun site => throw (.shape (.tooDeep site.target.typeName))
  | levels + 1 => fun site => inOrder site (standardPlanners env (standard levels))

mutual

def planWith (levels : Nat) : Strategy → Planner
  | .standard => standard env (levels + 1)
  | .untyped => planUntyped env
  | .leaf => planLeaf env
  | .tuple => planTuple env (standard env levels)
  | .array => planArray env (standard env levels)
  | .map => planDictionary env (standard env levels)
  | .sequence => planSequence env (standard env levels)
  | .object => planObject env (standard env levels)
  | .decline => fun _ => pure none
  | .inOrder members => fun site => planAny levels members site
  | .guarded admits inner => fun site =>
    if admits site then planWith levels inner site else pure none

def planAny (levels : Nat) : List Strategy → Planner
  | [] => fun _ => pure none
  | strategy :: rest => fun site => do
    match ← orRelease (planWith levels strategy site) with
    | some program => pure (some program)
    | none => planAny levels rest site

end

end Planning

def Plan.ofTarget (strategy : Strategy) (env : Environment) (target : Target) :
    Except Failure Plan :=
  let planned :=
    Planning.planWith env deepestLevel strategy (Site.atRoot env.bindings target)
      ⟨Claims.none env.header, existingRegister + 1⟩
  match planned with
  | (.ok (some program), pass) => .ok (Plan.ofProgram program pass.nextRegister)
  | (.ok none, _) => .error (.noPlan target.typeName)
  | (.error failure, _) => .error failure

end Unflatten
