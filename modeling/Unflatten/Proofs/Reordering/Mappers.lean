import Unflatten.Proofs.Flattening.RoundTrip
import Unflatten.Proofs.Reordering.Objects
import Unflatten.Proofs.Rows.WholeRow

/-!
# Rearranged rows

A root object whose members take columns by their names is mapped alike from a row and from the same
cells in another order: to the same value or to the same failure.
-/

set_option autoImplicit false

namespace Unflatten

open Planning

/-! ## The same cells in another order -/

section Cells

variable {cells others : List (Column × Value)} {column twin : HeaderColumn}

theorem HeaderColumn.Twin.ofCells {index place : Nat} {cell : Column × Value}
    (found : cells[index]? = some cell) (foundAgain : others[place]? = some cell) :
    HeaderColumn.Twin (Row.ofCells cells) (Row.ofCells others)
      ⟨index, cell.1.name, foldName cell.1.name, cell.1.type, cell.1.provider⟩
      ⟨place, cell.1.name, foldName cell.1.name, cell.1.type, cell.1.provider⟩ := by
  refine ⟨rfl, rfl, rfl, ?_⟩
  simp [Row.value, Row.ofCells, found, foundAgain]

theorem Header.ofColumns_twin (same : cells ⊆ others)
    (member : column ∈ Header.ofColumns (cells.map Prod.fst)) :
    ∃ twin ∈ Header.ofColumns (others.map Prod.fst),
      HeaderColumn.Twin (Row.ofCells cells) (Row.ofCells others) column twin := by
  obtain ⟨⟨written, index⟩, isWritten, rfl⟩ := List.mem_map.mp member
  have isColumn := List.mem_zipIdx_iff_getElem?.mp isWritten
  rw [List.getElem?_map, Option.map_eq_some_iff] at isColumn
  obtain ⟨cell, found, rfl⟩ := isColumn
  obtain ⟨place, foundAgain⟩ := List.mem_iff_getElem?.mp (same (List.mem_of_getElem? found))
  refine ⟨_, ?_, HeaderColumn.Twin.ofCells found foundAgain⟩
  refine List.mem_map.mpr ⟨(cell.1, place), List.mem_zipIdx_iff_getElem?.mpr ?_, rfl⟩
  simp [foundAgain]

theorem HeaderColumn.Twin.symm {row other : Row} (twins : HeaderColumn.Twin row other column twin) :
    HeaderColumn.Twin other row twin column :=
  ⟨twins.name.symm, twins.folded.symm, twins.type.symm, twins.cell.symm⟩

theorem Header.ofColumns_toldApart {columns : List Column}
    (distinct : (columns.map fun column => foldName column.name).Nodup) :
    (Header.ofColumns columns).ToldApart := by
  have folded : ((Header.ofColumns columns).map HeaderColumn.folded).Nodup := by
    have same : (Header.ofColumns columns).map HeaderColumn.folded =
        columns.map fun column => foldName column.name := by
      nth_rewrite 2 [← Header.ofColumns_declared columns]
      rw [List.map_map]
      exact List.map_congr_left fun column member => Header.ofColumns_isFolded member
    rwa [same]
  exact fun one isOne two isTwo same => List.inj_on_of_nodup_map folded isOne isTwo same

theorem Header.ofColumns_rearranged
    (distinct : (cells.map fun cell => foldName cell.1.name).Nodup) (perm : others.Perm cells) :
    Header.Rearranged (Row.ofCells cells) (Row.ofCells others)
      (Header.ofColumns (cells.map Prod.fst)) (Header.ofColumns (others.map Prod.fst)) := by
  have apart {some : List (Column × Value)} (perm : some.Perm cells) :
      (Header.ofColumns (some.map Prod.fst)).ToldApart := by
    refine Header.ofColumns_toldApart ?_
    rw [List.map_map]
    exact (perm.map _).nodup_iff.mpr distinct
  refine ⟨Header.ofColumns_wellIndexed _, Header.ofColumns_wellIndexed _, apart (.refl cells),
    apart perm, fun _ member => Header.ofColumns_twin perm.symm.subset member,
    fun _ member => ?_⟩
  obtain ⟨column, isColumn, twins⟩ := Header.ofColumns_twin perm.subset member
  exact ⟨column, isColumn, twins.symm⟩

end Cells

/-! ## The same mapper -/

section Roots

variable {bindings : Bindings} {settings : Settings} {target : Target} {type : ObjectType}

theorem Pass.Tally.start (header others : Header) (first : Register) :
    Pass.Tally header others ⟨Claims.none header, first⟩ ⟨Claims.none others, first⟩ :=
  ⟨rfl, Claims.length_none header, Claims.length_none others, fun _ _ _ _ _ => by
    rw [Claims.isClaimed_none, Claims.isClaimed_none]⟩

theorem Plan.ofTarget_rearranged {row other : Row} {header others : Header}
    (rearranged : Header.Rearranged row other header others)
    (isObject : target.resolve bindings = .object type)
    (byName : target.AllByName bindings settings) :
    Agrees (fun plan again => ∀ existing, again.run other existing = plan.run row existing)
      (Plan.ofTarget .standard ⟨header, settings, bindings⟩ target)
      (Plan.ofTarget .standard ⟨others, settings, bindings⟩ target) := by
  have isType : (Site.atRoot bindings target).target = .object type := isObject
  have settled : (Site.atRoot bindings target).Settled header := by
    intro isLeaf
    rw [isType] at isLeaf
    cases isLeaf
  have resolved : (Site.atRoot bindings target).target.AllByName bindings settings := byName.resolve
  have lockstep : GoesWith row other ⟨header, settings, bindings⟩ others _ _ :=
    standard_lockstep rearranged (deepestLevel + 1)
  obtain ⟨passes, outcomes⟩ := lockstep (Site.atRoot bindings target) (Site.atRoot bindings target)
    ⟨rfl, rfl, rfl, .root header others⟩ settled resolved _ _
    (Pass.Tally.start header others (existingRegister + 1))
  unfold Plan.ofTarget planWith
  dsimp only
  change Pass.Tally header others _
    (standard ⟨others, settings, bindings⟩ (deepestLevel + 1) _ _).2 at passes
  change Agrees _ _ (standard ⟨others, settings, bindings⟩ (deepestLevel + 1) _ _).1 at outcomes
  revert passes outcomes
  generalize standard ⟨header, settings, bindings⟩ (deepestLevel + 1)
    (Site.atRoot bindings target) ⟨Claims.none header, existingRegister + 1⟩ = planned
  generalize standard ⟨others, settings, bindings⟩ (deepestLevel + 1)
    (Site.atRoot bindings target) ⟨Claims.none others, existingRegister + 1⟩ = replanned
  obtain ⟨outcome, next⟩ := planned
  obtain ⟨outcomeAgain, later⟩ := replanned
  intro passes outcomes
  cases outcomes with
  | error failure => exact .error failure
  | ok found =>
      cases found with
      | none => exact .error _
      | some repeats =>
          refine .ok fun existing => ?_
          rw [Plan.run, Plan.run, Plan.ofProgram, Plan.ofProgram, repeats.span, passes.registers,
            repeats.steps.runs, repeats.result]

/-- The order of the columns does not matter to an object whose members take columns by name. -/
theorem Mapper.outcome_rearranged {cells others : List (Column × Value)}
    (isObject : target.resolve bindings = .object type)
    (byName : target.AllByName bindings settings)
    (distinct : (cells.map fun cell => foldName cell.1.name).Nodup) (perm : others.Perm cells) :
    Mapper.outcome bindings settings (others.map Prod.fst) target (Row.ofCells others) =
      Mapper.outcome bindings settings (cells.map Prod.fst) target (Row.ofCells cells) := by
  have plans := Plan.ofTarget_rearranged (Header.ofColumns_rearranged distinct perm) isObject byName
  unfold Mapper.outcome Mapper.make
  generalize Plan.ofTarget .standard ⟨Header.ofColumns (cells.map Prod.fst), settings, bindings⟩
    target = planned at plans
  generalize Plan.ofTarget .standard ⟨Header.ofColumns (others.map Prod.fst), settings, bindings⟩
    target = replanned at plans
  cases plans with
  | ok runs => exact runs .null
  | error failure => rfl

end Roots

/-! ## Siblings of overlapping names

The column for the name of the child is also that of a property of the parent. -/

namespace Siblings

def child : ObjectType :=
  ObjectTypeOf.declare 1 "Child" false
    [{ name := "Name", target := .scalar .string },
      { name := "Mail", target := .nullable (.scalar .string) }] 2
    [{ ident := 3, owner := "Child", parameters := [{ name := "name", target := .scalar .string }] }]

def parent : ObjectType :=
  ObjectTypeOf.declare 4 "Parent" false
    [{ name := "Child_Name", target := .scalar .string }, { name := "Child", target := .object child }]
    5 []

def cells : List (Column × Value) :=
  [(Column.declare "child_name" .string, .string "Ada"),
    (Column.declare "Child_Mail" .string, .string "ada@child")]

theorem parent_byName : (Target.object parent).AllByName [] {} := by
  let closed : List Target :=
    [.object parent, .object child, .nullable (.scalar .string), .scalar .string]
  have parts : ∀ outer ∈ closed, outer.parts [] {} ⊆ closed := by
    simp [closed, Target.parts, ObjectTypeOf.targets, ConstructorOf.targets, parent, child,
      ObjectTypeOf.declare, Settings.ofType?, Entries.get?]
  have byName : ∀ inner ∈ closed, inner.TakesByName {} := by
    simp [closed, Target.TakesByName, Target.leaf?, Settings.ofType?, Entries.get?, Leaf.isAny]
  exact fun inner reached =>
    byName inner (Target.Reaches.within (· ∈ closed) (by simp [closed])
      (fun outer member part isPart => parts outer member isPart) reached)

end Siblings

theorem Siblings.mapped_either_way :
    Mapper.outcome [] {} (Siblings.cells.reverse.map Prod.fst) (.object Siblings.parent)
        (Row.ofCells Siblings.cells.reverse) =
      Mapper.outcome [] {} (Siblings.cells.map Prod.fst) (.object Siblings.parent)
        (Row.ofCells Siblings.cells) :=
  Mapper.outcome_rearranged rfl Siblings.parent_byName (by decide +kernel)
    (List.reverse_perm Siblings.cells)

end Unflatten
