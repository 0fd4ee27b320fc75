import Mathlib.Data.List.Forall2
import Unflatten.Delimited.Source

/-!
# Rows of delimited text

The rows are the records that have the width of the header, and the row number counts those that
have been passed. What is shown behind any motions is nothing, or the cells of the last row that
could be read: a row that cannot be read is counted, but leaves the cells of the row before it in
place.
-/

set_option autoImplicit false

namespace Unflatten

namespace DelimitedSource

/-- The cells of a record are read, each as a value of its column's type, and empty ones as null. -/
def Reads (columns : List Column) (record : List String) (values : List Value) : Prop :=
  List.Forall₂ (fun (cell : Column × String) value =>
    ∃ read, readCell cell.1.type cell.2 = .ok read ∧ value = read.getD .null)
    (columns.zip record) values

/-- Some cell of a record is not text of its column's type. -/
def Unreadable (columns : List Column) (record : List String) : Prop :=
  ∃ cell ∈ columns.zip record, ∃ error, readCell cell.1.type cell.2 = .error error

section Cells

variable {number : Nat} {columns : List Column} {record : List String} {values : List Value}
variable {failure : Failure}

theorem Reads.not_unreadable (reads : Reads columns record values) :
    ¬ Unreadable columns record := by
  rintro ⟨cell, member, error, unread⟩
  unfold Reads at reads
  generalize columns.zip record = cells at reads member
  induction reads with
  | nil => cases member
  | cons first rest ih =>
      rcases List.mem_cons.mp member with rfl | member
      · obtain ⟨read, isRead, -⟩ := first
        cases unread.symm.trans isRead
      · exact ih member

theorem readCells_ok (parsed : readCells number columns record = .ok values) :
    Reads columns record values := by
  induction columns generalizing record values with
  | nil =>
      cases parsed
      exact .nil
  | cons column columns ih =>
      cases record with
      | nil =>
          cases parsed
          exact .nil
      | cons cell cells =>
          rw [readCells] at parsed
          split at parsed
          · cases parsed
          · rename_i read isRead
            split at parsed
            · rename_i others rest
              cases parsed
              exact .cons ⟨read, isRead, rfl⟩ (ih rest)
            · cases parsed

theorem readCells_error (failed : readCells number columns record = .error failure) :
    ∃ cell ∈ columns.zip record, ∃ error, readCell cell.1.type cell.2 = .error error ∧
      failure = .reading (.cell number cell.1.name error) := by
  induction columns generalizing record with
  | nil => cases failed
  | cons column columns ih =>
      cases record with
      | nil => cases failed
      | cons cell cells =>
          rw [readCells] at failed
          split at failed
          · rename_i error unread
            cases failed
            exact ⟨(column, cell), List.mem_cons_self, error, unread, rfl⟩
          · split at failed
            · cases failed
            · rename_i rest
              cases failed
              obtain ⟨other, member, fault⟩ := ih rest
              exact ⟨other, List.mem_cons_of_mem _ member, fault⟩

end Cells

/-- The records ahead that are rows. -/
def rows (source : DelimitedSource) : List (List String) :=
  source.records.filter fun record => record.length = source.columns.length

section Ahead

variable {source : DelimitedSource} {record : List String} {records : List (List String)}

theorem rows_of_row (ahead : source.records = record :: records)
    (isRow : record.length = source.columns.length) :
    source.rows = record :: { source with records }.rows := by
  simp only [rows, ahead, List.filter_cons, isRow, decide_true, if_true]

theorem rows_of_ragged (ahead : source.records = record :: records)
    (ragged : record.length ≠ source.columns.length) :
    source.rows = { source with records }.rows := by
  simp only [rows, ahead, List.filter_cons, ragged, decide_false, if_false, Bool.false_eq_true]

end Ahead

/-! ## Motions -/

inductive Motion where
  | advance
  | nextSet

def move (source : DelimitedSource) : Motion → DelimitedSource
  | .advance => (RowSource.advance source).2
  | .nextSet => (RowSource.nextSet source).2

def after (source : DelimitedSource) (motions : List Motion) : DelimitedSource :=
  motions.foldl move source

/-- What an advance answers and where it leads. -/
inductive Advances (source : DelimitedSource) : Except Failure Bool → DelimitedSource → Prop
  | ended (isEnd : source.records = []) :
      Advances source (.ok false) { source with current := [] }
  | refused {record : List String} {records : List (List String)}
      (ahead : source.records = record :: records)
      (ragged : record.length ≠ source.columns.length) :
      Advances source (.error (.reading (.record (source.rowNumber + 1))))
        { source with records }
  | unreadable {record : List String} {records : List (List String)} {cell : Column × String}
      {error : ReadError} (ahead : source.records = record :: records)
      (isRow : record.length = source.columns.length) (member : cell ∈ source.columns.zip record)
      (unread : readCell cell.1.type cell.2 = .error error) :
      Advances source (.error (.reading (.cell (source.rowNumber + 1) cell.1.name error)))
        { source with records, rowNumber := source.rowNumber + 1 }
  | read {record : List String} {records : List (List String)} {values : List Value}
      (ahead : source.records = record :: records)
      (isRow : record.length = source.columns.length)
      (reads : Reads source.columns record values) :
      Advances source (.ok true)
        { source with records, current := values, rowNumber := source.rowNumber + 1 }

theorem advance_advances {source later : DelimitedSource} {answer : Except Failure Bool}
    (advanced : RowSource.advance source = (answer, later)) : Advances source answer later := by
  change source.advance = _ at advanced
  unfold advance at advanced
  split at advanced
  · rename_i isEnd
    cases advanced
    exact .ended isEnd
  · rename_i record records ahead
    split at advanced
    · rename_i isRow
      dsimp only at advanced
      split at advanced
      · rename_i values parsed
        cases advanced
        exact .read ahead isRow (readCells_ok parsed)
      · rename_i failure failed
        cases advanced
        obtain ⟨cell, member, error, unread, rfl⟩ := readCells_error failed
        exact .unreadable ahead isRow member unread
    · rename_i ragged
      cases advanced
      exact .refused ahead ragged

/-! ## What is shown -/

/-- The cells are those of a row that has been passed, and no row passed behind it can be read. -/
def Shows (columns : List Column) (rows : List (List String)) (passed : Nat)
    (values : List Value) : Prop :=
  ∃ place record, place < passed ∧ rows[place]? = some record ∧ Reads columns record values ∧
    ∀ later other, place < later → later < passed → rows[later]? = some other →
      Unreadable columns other

/-- A state that has passed some of the rows: the others are ahead, and it shows nothing or the last
row that could be read. -/
structure Follows (columns : List Column) (rows : List (List String)) (state : DelimitedSource) :
    Prop where
  sameColumns : state.columns = columns
  ahead : state.rows = rows.drop state.rowNumber
  passed : state.rowNumber ≤ rows.length
  shown : state.current = [] ∨ Shows columns rows state.rowNumber state.current

section Follows

variable {columns : List Column} {rows : List (List String)} {state later : DelimitedSource}
variable {record : List String} {records : List (List String)} {values : List Value}

theorem Shows.unreadable (displayed : Shows columns rows state.rowNumber values)
    (here : rows[state.rowNumber]? = some record) (unread : Unreadable columns record) :
    Shows columns rows (state.rowNumber + 1) values := by
  obtain ⟨place, shown, before, isShown, reads, behind⟩ := displayed
  refine ⟨place, shown, Nat.lt_succ_of_lt before, isShown, reads,
    fun later other follows counted isOther => ?_⟩
  rcases Nat.lt_succ_iff_lt_or_eq.mp counted with earlier | rfl
  · exact behind later other follows earlier isOther
  · cases here.symm.trans isOther
    exact unread

theorem Follows.next (follows : Follows columns rows state)
    (ahead : state.records = record :: records) (isRow : record.length = state.columns.length) :
    rows[state.rowNumber]? = some record ∧
      { state with records }.rows = rows.drop (state.rowNumber + 1) := by
  have others := (rows_of_row ahead isRow).symm.trans follows.ahead
  constructor
  · rw [← List.head?_drop, ← others, List.head?_cons]
  · rw [← List.tail_drop, ← others, List.tail_cons]

theorem Follows.advances {answer : Except Failure Bool} (follows : Follows columns rows state)
    (advances : Advances state answer later) : Follows columns rows later := by
  cases advances with
  | ended isEnd => exact ⟨follows.sameColumns, follows.ahead, follows.passed, Or.inl rfl⟩
  | refused ahead ragged =>
      exact ⟨follows.sameColumns, (rows_of_ragged ahead ragged).symm.trans follows.ahead,
        follows.passed, follows.shown⟩
  | unreadable ahead isRow member unread =>
      obtain ⟨here, behind⟩ := follows.next ahead isRow
      refine ⟨follows.sameColumns, behind, (List.getElem?_eq_some_iff.mp here).1,
        follows.shown.imp_right fun displayed => ?_⟩
      exact displayed.unreadable here ⟨_, follows.sameColumns ▸ member, _, unread⟩
  | read ahead isRow reads =>
      obtain ⟨here, behind⟩ := follows.next ahead isRow
      refine ⟨follows.sameColumns, behind, (List.getElem?_eq_some_iff.mp here).1, Or.inr ?_⟩
      refine ⟨state.rowNumber, _, Nat.lt_succ_self _, here, follows.sameColumns ▸ reads, ?_⟩
      intro later other after counted
      exact absurd after (Nat.not_lt.mpr (Nat.le_of_lt_succ counted))

theorem Follows.move (follows : Follows columns rows state) (motion : Motion) :
    Follows columns rows (state.move motion) := by
  cases motion with
  | advance => exact follows.advances (advance_advances rfl)
  | nextSet => exact ⟨follows.sameColumns, follows.ahead, follows.passed, Or.inl rfl⟩

theorem Follows.after (follows : Follows columns rows state) (motions : List Motion) :
    Follows columns rows (state.after motions) := by
  induction motions generalizing state with
  | nil => exact follows
  | cons motion motions ih => exact ih (follows.move motion)

theorem Follows.ended (follows : Follows columns rows state) (isEnd : state.records = []) :
    state.rowNumber = rows.length := by
  have nothing : rows.drop state.rowNumber = [] := by
    rw [← follows.ahead, DelimitedSource.rows, isEnd, List.filter_nil]
  exact Nat.le_antisymm follows.passed (List.drop_eq_nil_iff.mp nothing)

end Follows

theorem ofRecords_follows {records : List (List String)} {types : Delimited.DeclaredTypes}
    {source : DelimitedSource} (opened : ofRecords records types = .ok source) :
    Follows source.columns source.rows source := by
  unfold ofRecords at opened
  dsimp only at opened
  split at opened
  · cases opened
  · cases opened
    exact ⟨rfl, rfl, Nat.zero_le _, Or.inl rfl⟩

theorem value_of_empty {source : DelimitedSource} (empty : source.current = []) (index : Nat) :
    (RowSource.row source).value index = .null := by
  change source.current[index]?.getD .null = .null
  rw [empty, List.getElem?_nil, Option.getD_none]

/-- Behind any motions nothing is shown or the last of the passed rows that could be read. An advance
that finds a row passes it and shows its cells; one that finds none has passed all rows and shows
nothing; one that fails leaves the cells as they are, and has passed a row if it names a cell. -/
theorem values_shown {records : List (List String)} {types : Delimited.DeclaredTypes}
    {source : DelimitedSource} (opened : ofRecords records types = .ok source)
    (motions : List Motion) :
    let state := source.after motions
    ((∀ index, (RowSource.row state).value index = .null) ∨
        Shows source.columns source.rows state.rowNumber (RowSource.row state).cells) ∧
      ∀ later,
        (RowSource.advance state = (.ok true, later) →
          later.rowNumber = state.rowNumber + 1 ∧
          ∃ record, source.rows[state.rowNumber]? = some record ∧
            Reads source.columns record (RowSource.row later).cells) ∧
        (RowSource.advance state = (.ok false, later) →
          later.rowNumber = source.rows.length ∧
          ∀ index, (RowSource.row later).value index = .null) ∧
        ∀ failure, RowSource.advance state = (.error failure, later) →
          (RowSource.row later).cells = (RowSource.row state).cells ∧
          (failure = .reading (.record (state.rowNumber + 1)) ∧ later.rowNumber = state.rowNumber ∨
            ∃ column error, failure = .reading (.cell (state.rowNumber + 1) column error) ∧
              later.rowNumber = state.rowNumber + 1) := by
  intro state
  have follows : Follows source.columns source.rows state :=
    (ofRecords_follows opened).after motions
  refine ⟨follows.shown.imp_left value_of_empty, fun later => ⟨fun advanced => ?_,
    fun advanced => ?_, fun failure advanced => ?_⟩⟩
  · cases advance_advances advanced with
    | read ahead isRow reads =>
        exact ⟨rfl, _, (follows.next ahead isRow).1, follows.sameColumns ▸ reads⟩
  · cases advance_advances advanced with
    | ended isEnd => exact ⟨follows.ended isEnd, value_of_empty rfl⟩
  · cases advance_advances advanced with
    | refused ahead ragged => exact ⟨rfl, Or.inl ⟨rfl, rfl⟩⟩
    | unreadable ahead isRow member unread => exact ⟨rfl, Or.inr ⟨_, _, rfl, rfl⟩⟩

end DelimitedSource

/-! ## Ledgers

A ledger of numbers with a word among them. -/

namespace Ledgers

open DelimitedSource

def text : String := "Id\n1\nnope\n3\n"

def ledger : DelimitedSource :=
  { columns := [Column.declare "Id" (.int .int32)], records := [["1"], ["nope"], ["3"]] }

def numbered (n : Int) : Value := .int .int32 (FixedInt.wrapping .int32 n)

theorem opened : ofRecords (Delimited.records ',' text) [("id", .int .int32)] = .ok ledger :=
  rfl

/-- The third row is shown behind the word. -/
theorem third_shown :
    ofRecords (Delimited.records ',' text) [("id", .int .int32)] = .ok ledger ∧
      RowSource.advance (ledger.after [.advance, .advance]) =
        (.ok true, ledger.after [.advance, .advance, .advance]) ∧
      (ledger.after [.advance, .advance, .advance]).rowNumber = 3 ∧
      ∃ record, ledger.rows[2]? = some record ∧
        Reads ledger.columns record
          (RowSource.row (ledger.after [.advance, .advance, .advance])).cells :=
  ⟨opened, rfl, ((values_shown opened [.advance, .advance]).2 _).1 rfl⟩

/-- At the word the second row is counted, which has no values, and the number of the first row is
shown. -/
theorem first_stays :
    (ledger.after [.advance, .advance]).rowNumber = 2 ∧
      (RowSource.row (ledger.after [.advance, .advance])).value 0 = numbered 1 ∧
      ledger.rows[1]? = some ["nope"] ∧
      ∀ values, ¬ Reads ledger.columns ["nope"] values :=
  ⟨rfl, rfl, rfl, fun _ reads => reads.not_unreadable ⟨_, List.mem_cons_self, _, rfl⟩⟩

end Ledgers

end Unflatten
