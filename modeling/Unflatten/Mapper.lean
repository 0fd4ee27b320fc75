import Unflatten.Planning.Strategy
import Unflatten.Program.Text
import Unflatten.RowSource
import Unflatten.Value.Json

/-!
# Mappers

A mapper is the plan of a target for one list of columns. The rows of a source are mapped on
demand: the mapper is made for the first row, and a failure to make it ends the rows, while a row
that fails does not.
-/

set_option autoImplicit false

namespace Unflatten

structure Mapper where
  target : Target
  plan : Plan

namespace Mapper

def make (strategy : Strategy) (bindings : Bindings) (target : Target) (header : Header)
    (settings : Settings) : Except Failure Mapper :=
  (Plan.ofTarget strategy ⟨header, settings, bindings⟩ target).map fun plan => ⟨target, plan⟩

def map (mapper : Mapper) (row : Row) : Except Failure Value :=
  mapper.plan.run row .null

/-- Objects and containers within `existing` are updated rather than replaced. -/
def update (mapper : Mapper) (row : Row) (existing : Value) : Except Failure Value :=
  mapper.plan.run row existing

def describe (mapper : Mapper) : String :=
  "mapper for " ++ mapper.target.typeName ++ " (" ++ Digits.text mapper.plan.registerCount
    ++ " slot(s))\n" ++ programText mapper.plan.program

end Mapper

def Value.asHost (value : Value) (type : Json.HostType) : Except Failure Json :=
  if value.json.fits type then .ok value.json else .error .misfit

/-! ## Rows of a source -/

/-- A request to map the rows of a source, with the mapper once it has been made. -/
structure RowMapping where
  make : Header → Except Failure Mapper
  mapper : Option Mapper := none
  isDone : Bool := false

namespace RowMapping

def mapRow (mapping : RowMapping) (row : Row) : Except Failure Value × RowMapping :=
  match mapping.mapper with
  | some mapper => (mapper.map row, mapping)
  | none =>
    match mapping.make (Header.ofColumns row.columns) with
    | .ok mapper => (mapper.map row, { mapping with mapper := some mapper })
    | .error failure => (.error failure, { mapping with isDone := true })

variable {σ : Type} [RowSource σ]

def next (mapping : RowMapping) (source : σ) :
    Option (Except Failure Value) × RowMapping × σ :=
  if mapping.isDone then (none, mapping, source)
  else
    match RowSource.advance source with
    | (.ok true, source) =>
      let mapped := mapping.mapRow (RowSource.row source)
      (some mapped.1, mapped.2, source)
    | (.ok false, source) => (none, { mapping with isDone := true }, source)
    | (.error failure, source) => (some (.error failure), { mapping with isDone := true }, source)

def outcomes (mapping : RowMapping) (source : σ) : Nat → List (Except Failure Value)
  | 0 => []
  | limit + 1 =>
    match mapping.next source with
    | (none, _, _) => []
    | (some outcome, mapping, source) => outcome :: outcomes mapping source limit

/-- The values up to the first failure, at most `limit`, and the source behind them. -/
def collect (mapping : RowMapping) (source : σ) : Nat → Except Failure (List Value) × σ
  | 0 => (.ok [], source)
  | limit + 1 =>
    match mapping.next source with
    | (none, _, source) => (.ok [], source)
    | (some (.error failure), _, source) => (.error failure, source)
    | (some (.ok value), mapping, source) =>
      match collect mapping source limit with
      | (.ok values, source) => (.ok (value :: values), source)
      | (.error failure, source) => (.error failure, source)

end RowMapping

variable {σ : Type} [RowSource σ]

/-- The outcomes of all rows of the current result set. A source that still has `n` rows gives at
most one outcome more, a failure to read. -/
def mapSource (make : Header → Except Failure Mapper) (source : σ) :
    List (Except Failure Value) :=
  RowMapping.outcomes ⟨make, none, false⟩ source (RowSource.remaining source + 1)

/-- Maps consecutive result sets, one for each maker; `done` of `expected` sets have been mapped. -/
def mapSetsFrom (expected : Nat) (done : Nat) (source : σ) :
    List (Header → Except Failure Mapper) → Except Failure (List (List Value))
  | [] => .ok []
  | make :: rest =>
    let moved := if done = 0 then (true, source) else RowSource.nextSet source
    if moved.1 then
      match
        RowMapping.collect ⟨make, none, false⟩ moved.2 (RowSource.remaining moved.2 + 1) with
      | (.ok values, source) =>
        (mapSetsFrom expected (done + 1) source rest).map fun others => values :: others
      | (.error failure, _) => .error failure
    else .error (.reading (.missingResultSet expected done))

def mapSets (makers : List (Header → Except Failure Mapper)) (source : σ) :
    Except Failure (List (List Value)) :=
  mapSetsFrom makers.length 0 source makers

end Unflatten
