import Unflatten.Delimited.Source
import Unflatten.Proofs.Construction.Flat
import Unflatten.Proofs.Conversion.TextCells
import Unflatten.Proofs.Program.Blank
import Unflatten.Proofs.Rows.WholeRow

/-!
# Declared and undeclared columns

A cell of delimited text is read as the type that is declared for its column, or held as text and
converted to the type of the target. Both ways come to the same value, or the one ends in a failure
to read the row and the other in a failure to convert the cell. Only text of nothing but blanks is
taken for missing in the second way alone.
-/

set_option autoImplicit false

namespace Unflatten

open Planning

section Leaves

variable {bindings : Bindings} {settings : Settings} {target : Target} {leaf : Leaf}

theorem Target.isAny_of_typed (isLeaf : target.leaf? = some leaf) (typed : leaf.isAny = false) :
    target.isAny = false := by
  cases target with
  | any | dynamic =>
      cases isLeaf
      cases typed
  | _ => rfl

theorem Planning.standard_leaf {env : Environment} {site : Site} {pass next : Pass} {levels : Nat}
    {column : HeaderColumn} {others : Header} {program : Program}
    (isLeaf : site.target.leaf? = some leaf) (typed : leaf.isAny = false)
    (offered : env.header.available pass.claims site.scope = column :: others)
    (reads : Gives (read env column leaf) pass program next) :
    Gives (standard env (levels + 1) site) pass (some program) next := by
  refine inOrder_later (planUntypedMember_typed (Target.isAny_of_typed isLeaf typed)) ?_
  refine inOrder_first ?_
  rw [planLeaf, isLeaf]
  refine gives_bind.mpr ⟨_, _, gives_available.mpr ⟨rfl, rfl⟩, ?_⟩
  rw [offered]
  exact gives_planned.mpr ⟨_, rfl, reads⟩

theorem Plan.run_read (row : Row) (place : CellPlace) (conversion : Conversion)
    (into : Register) (existing : Value) :
    (Plan.ofProgram (Program.single (.read place conversion into) into) (into + 1)).run row
        existing =
      readColumn row place conversion := by
  have inside : into < (Registers.start (Plan.ofProgram
      (Program.single (.read place conversion into) into) (into + 1)).registerCount
      existing).size := by
    rw [Registers.size_start]
    exact Nat.lt_of_lt_of_le (Nat.lt_succ_self into) (Nat.le_max_left _ _)
  unfold Plan.run
  simp only [Plan.ofProgram, Program.single, runSteps, runStep]
  cases readColumn row place conversion with
  | error failure => rfl
  | ok value =>
      simp only [writeOutcome, Except.map]
      rw [Registers.get_write_same]
      exact inside

variable (isLeaf : target.leaf? = some leaf) (typed : leaf.isAny = false)
include isLeaf typed

theorem Plan.ofTarget_leaf (first : Column) (others : List Column) :
    Plan.ofTarget .standard ⟨Header.ofColumns (first :: others), settings, bindings⟩ target =
      .ok (Plan.ofProgram
        (Program.single (.read ⟨0, first.name⟩
          (Conversion.select (ConversionRule.inOrder settings.rules) leaf first.type)
          (existingRegister + 1)) (existingRegister + 1)) (existingRegister + 1 + 1)) := by
  have same : (Site.atRoot bindings target).target = target := resolve_leaf isLeaf
  have offered := Header.available_root (Header.ofColumns (first :: others))
  have planned := @standard_leaf leaf ⟨Header.ofColumns (first :: others), settings, bindings⟩
    (Site.atRoot bindings target)
    ⟨Claims.none (Header.ofColumns (first :: others)), existingRegister + 1⟩ _ deepestLevel _ _ _
    (same.symm ▸ isLeaf) typed offered (gives_read.mpr ⟨rfl, rfl⟩)
  unfold Plan.ofTarget planWith
  simp only []
  rw [planned]
  rfl

theorem Mapper.outcome_leaf (first : Column) (others : List Column) (row : Row) :
    Mapper.outcome bindings settings (first :: others) target row =
      readColumn row ⟨0, first.name⟩
        (Conversion.select (ConversionRule.inOrder settings.rules) leaf first.type) := by
  rw [Mapper.outcome, Mapper.make, Plan.ofTarget_leaf isLeaf typed]
  exact Plan.run_read row _ _ _ _

end Leaves

namespace DelimitedSource

section Rows

variable {source : DelimitedSource} {text : String} {cells : List String}
variable {records : List (List String)} {values : List Value}
variable {bindings : Bindings} {settings : Settings} {target : Target} {leaf : Leaf}

/-- What the next row comes to if the source has one more column, in front of the others. -/
def nextWith (source : DelimitedSource) (bindings : Bindings) (settings : Settings)
    (target : Target) (first : Column) : Option (Except Failure Value) :=
  let make := fun header => Mapper.make .standard bindings target header settings
  (RowMapping.next ⟨make, none, false⟩ { source with columns := first :: source.columns }).1

/-- What text comes to in the first column of a row. -/
def cellOutcome (row : Nat) (rules : List ConversionRule) (leaf : Leaf) (first : Column)
    (text : String) : Except Failure Value :=
  match readCell first.type text with
  | .error error => .error (.reading (.cell row first.name error))
  | .ok cell =>
    readColumn ⟨[first], [cell.getD .null]⟩ ⟨0, first.name⟩
      (Conversion.select rules leaf first.type)

theorem mapRow_outcome (row : Row) :
    (RowMapping.mapRow ⟨fun header => Mapper.make .standard bindings target header settings, none,
      false⟩ row).1 = Mapper.outcome bindings settings row.columns target row := by
  unfold RowMapping.mapRow Mapper.outcome
  simp only []
  cases Mapper.make .standard bindings target (Header.ofColumns row.columns) settings <;> rfl

theorem nextWith_eq (ahead : source.records = (text :: cells) :: records)
    (width : cells.length = source.columns.length)
    (others : readCells (source.rowNumber + 1) source.columns cells = .ok values)
    (isLeaf : target.leaf? = some leaf) (typed : leaf.isAny = false) (first : Column) :
    source.nextWith bindings settings target first =
      some (cellOutcome (source.rowNumber + 1) (ConversionRule.inOrder settings.rules) leaf first
        text) := by
  have wide : (text :: cells).length = (first :: source.columns).length := by simp [width]
  unfold nextWith RowMapping.next cellOutcome
  simp only [RowSource.advance, advance, ahead, wide, if_true, readCells]
  cases readCell first.type text with
  | error error => rfl
  | ok cell =>
      simp only [others]
      rw [if_neg (by simp), mapRow_outcome]
      exact congrArg some (Mapper.outcome_leaf isLeaf typed first source.columns _)

end Rows

/-! ## Columns of the type and columns of text -/

section Columns

variable {type : ScalarType} {text : String}
variable (row : Nat) (name : String) (nullable : Bool)

theorem cellOutcome_empty (leaf : Leaf) (source : ScalarType) :
    cellOutcome row (ConversionRule.inOrder []) leaf (Column.declare name source) "" =
      .ok leaf.defaultValue := by
  have missing : readCell source "" = .ok none := rfl
  simp only [cellOutcome, Column.declare, missing, readColumn, Row.value, List.getElem?_cons_zero,
    Option.getD_some, Option.getD_none, Conversion.select_null]

variable (valued : type.hasZero = true)
include valued

theorem cellOutcome_read (notEmpty : text ≠ "") :
    cellOutcome row (ConversionRule.inOrder []) ⟨.scalar type, nullable⟩
        (Column.declare name type) text =
      (readTrimmed type text).mapError fun error => .reading (.cell row name error) := by
  unfold cellOutcome
  simp only [Column.declare, readCell_eq_readTrimmed valued notEmpty]
  cases read : readTrimmed type text with
  | error error => rfl
  | ok value =>
      have passes := Conversion.select_same
        (show Leaf.scalarType? ⟨.scalar type, nullable⟩ = some type from rfl)
        (Or.inl (readTrimmed_type valued read))
      simp [Except.map, Except.mapError, readColumn, Row.value, passes]

theorem cellOutcome_held (notEmpty : text ≠ "") :
    cellOutcome row (ConversionRule.inOrder []) ⟨.scalar type, nullable⟩
        (Column.declare name .string) text =
      if Text.trimChars text.toList = [] then .ok (Leaf.defaultValue ⟨.scalar type, nullable⟩)
      else (readTrimmed type text).mapError fun _ =>
        .unconvertible name .string (Leaf.describe ⟨.scalar type, nullable⟩) text := by
  have held : readCell .string text = .ok (some (.string text)) := by
    simp [readCell, readScalar, notEmpty]
  unfold cellOutcome readColumn
  simp only [Column.declare, held, Row.value, Option.getD_some, List.getElem?_cons_zero]
  by_cases blank : Text.trimChars text.toList = []
  · rw [Conversion.apply_blankText valued nullable blank, if_pos blank]
  · rw [Conversion.apply_text valued nullable blank, if_neg blank]
    cases readTrimmed type text with
    | ok value => rfl
    | error error => simp [Except.mapError, Conversion.select, Value.display]

end Columns

/-- Both columns come to the same value, which is the default for empty text and else what the
trimmed text is read as, or the text is unreadable in the one and unconvertible in the other. -/
inductive CellsAgree (row : Nat) (name : String) (type : ScalarType) (leaf : Leaf) (text : String) :
    Option (Except Failure Value) → Option (Except Failure Value) → Prop where
  | missing (empty : text = "") :
      CellsAgree row name type leaf text (some (.ok leaf.defaultValue))
        (some (.ok leaf.defaultValue))
  | value {value : Value} (read : readTrimmed type text = .ok value) :
      CellsAgree row name type leaf text (some (.ok value)) (some (.ok value))
  | failure {error : ReadError} (unread : readTrimmed type text = .error error) :
      CellsAgree row name type leaf text (some (.error (.reading (.cell row name error))))
        (some (.error (.unconvertible name .string leaf.describe text)))

/-- A row whose first cell is text comes to the same whether a type that has a value for missing
cells is declared for the first column or only for the target, unless the text is blank but not
empty: it is unreadable in the declared column, and missing in the undeclared one. -/
theorem nextWith_declared {source : DelimitedSource} {text : String} {cells : List String}
    {records : List (List String)} {values : List Value} {types others : Delimited.DeclaredTypes}
    {name : String} {type : ScalarType} {nullable : Bool} {target : Target} {settings : Settings}
    (bindings : Bindings) (ahead : source.records = (text :: cells) :: records)
    (width : cells.length = source.columns.length)
    (readable : readCells (source.rowNumber + 1) source.columns cells = .ok values)
    (declared : typeOf types name = type)
    (undeclared : others.find? (fun entry => Text.equalIgnoringCase entry.1 name) = none)
    (valued : type.hasZero = true) (isLeaf : target.leaf? = some ⟨.scalar type, nullable⟩)
    (standardRules : settings.rules = []) :
    let leaf : Leaf := ⟨.scalar type, nullable⟩
    let read := source.nextWith bindings settings target (Column.declare name (typeOf types name))
    let held := source.nextWith bindings settings target (Column.declare name (typeOf others name))
    (text ≠ "" ∧ Text.trimChars text.toList = [] →
        (∃ error, read = some (.error (.reading (.cell (source.rowNumber + 1) name error)))) ∧
          held = some (.ok leaf.defaultValue)) ∧
      (¬ (text ≠ "" ∧ Text.trimChars text.toList = []) →
        CellsAgree (source.rowNumber + 1) name type leaf text read held) := by
  intro leaf read held
  have typed : leaf.isAny = false := rfl
  have noType : typeOf others name = .string := by rw [typeOf, undeclared]; rfl
  have answers (column : Column) : source.nextWith bindings settings target column =
      some (cellOutcome (source.rowNumber + 1) (ConversionRule.inOrder []) leaf column text) := by
    rw [← standardRules]
    exact nextWith_eq ahead width readable isLeaf typed column
  simp only [read, held, answers, declared, noType]
  by_cases empty : text = ""
  · subst empty
    rw [cellOutcome_empty, cellOutcome_empty]
    exact ⟨fun blank => absurd rfl blank.1, fun _ => .missing rfl⟩
  · rw [cellOutcome_read _ _ _ valued empty, cellOutcome_held _ _ _ valued empty]
    constructor
    · rintro ⟨-, blank⟩
      obtain ⟨error, unread⟩ := readTrimmed_blank valued blank
      exact ⟨⟨error, by rw [unread]; rfl⟩, by rw [if_pos blank]⟩
    · intro notBlank
      rw [if_neg fun blank => notBlank ⟨empty, blank⟩]
      cases outcome : readTrimmed type text with
      | ok value => exact .value outcome
      | error error => exact .failure outcome

end DelimitedSource

/-! ### Meters -/

namespace Meters

open DelimitedSource

def reading : Leaf :=
  ⟨.scalar (.int .int32), false⟩

/-- A row with one cell behind the one in question. -/
def source (text : String) : DelimitedSource :=
  ⟨[Column.declare "Note" .string], [[text, "spare"]], [], 0⟩

def outcome (types : Delimited.DeclaredTypes) (text : String) :
    Option (Except Failure Value) :=
  (source text).nextWith [] {} (.scalar (.int .int32)) (Column.declare "Id" (typeOf types "Id"))

theorem padded_agrees :
    typeOf [("id", .int .int32)] "Id" = .int .int32 ∧
      ¬ (" 7 " ≠ "" ∧ Text.trimChars " 7 ".toList = []) ∧
      outcome [] " 7 " = some (.ok (.int .int32 (FixedInt.wrapping .int32 7))) ∧
      CellsAgree 1 "Id" (.int .int32) reading " 7 " (outcome [("id", .int .int32)] " 7 ")
        (outcome [] " 7 ") := by
  have ahead : (source " 7 ").records = [[" 7 ", "spare"]] := rfl
  have readable : readCells 1 (source " 7 ").columns ["spare"] = .ok [.string "spare"] := by rfl
  have declared : typeOf [("id", .int .int32)] "Id" = .int .int32 := by rfl
  have isLeaf : Target.leaf? (.scalar (.int .int32)) = some ⟨.scalar (.int .int32), false⟩ := rfl
  have notBlank : ¬ (" 7 " ≠ "" ∧ Text.trimChars " 7 ".toList = []) := by decide
  have undeclared : List.find? (fun entry : String × ScalarType =>
      Text.equalIgnoringCase entry.1 "Id") [] = none := rfl
  have standardRules : ({} : Settings).rules = [] := rfl
  have agrees := nextWith_declared [] ahead rfl readable declared undeclared rfl isLeaf
    standardRules
  exact ⟨declared, notBlank, by rfl, agrees.2 notBlank⟩

/-- Two blanks are no number, and a missing one. -/
theorem blank_parts :
    outcome [("id", .int .int32)] "  " =
        some (.error (.reading (.cell 1 "Id" ⟨"", .integer .int32 .empty⟩))) ∧
      outcome [] "  " = some (.ok (.int .int32 (FixedInt.zero .int32))) :=
  ⟨by rfl, by rfl⟩

end Meters

end Unflatten
