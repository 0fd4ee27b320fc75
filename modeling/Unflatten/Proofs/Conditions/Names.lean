import Unflatten.Condition.Basic

/-!
# Names in conditions

Two columns can write one name: the first column that bears it, and the column at the place that it
denotes. The columns write in their order, so a name reads the later of the two. A name keeps the
kind of data that it was first given, so a row has no table of names where the two differ in kind.
-/

set_option autoImplicit false

namespace Unflatten

theorem Digits.text_injective {n m : Nat} (same : text n = text m) : n = m := by
  have digits : ofNat n = ofNat m := by simpa [text] using congrArg String.toList same
  calc
    n = Nat.ofDigitChars 10 (ofNat n) 0 := Nat.ofDigitChars_ten_toDigits.symm
    _ = Nat.ofDigitChars 10 (ofNat m) 0 := by rw [digits]
    _ = m := Nat.ofDigitChars_ten_toDigits

namespace Condition

variable {row : Row} {name other : String} {index place : Nat} {names : Names}
variable {wrote : String → Nat → Prop}

/-! ## Columns that write a name -/

def identifierAt? (row : Row) (index : Nat) : Option String :=
  row.columns[index]?.map fun column => columnIdentifier column.name

def datumAt (row : Row) (index : Nat) : Datum :=
  Datum.ofValue (row.value index)

/-- The column is the first whose identifier is the name, and the name is not empty. -/
structure Bears (row : Row) (name : String) (index : Nat) : Prop where
  nonempty : name.isEmpty = false
  here : identifierAt? row index = some name
  first : ∀ earlier < index, identifierAt? row earlier ≠ some name

/-- The name is that of a place at which a column stands. -/
structure Denotes (row : Row) (name : String) (place : Nat) : Prop where
  same : name = placeIdentifier place
  inside : place < row.columns.length

def Writes (row : Row) (name : String) (index : Nat) : Prop :=
  Bears row name index ∨ Denotes row name index

/-- One column bears the name, another stands at the place that it denotes, and they hold data of
different kinds. -/
def Clashes (row : Row) (name : String) : Prop :=
  ∃ index place, Bears row name index ∧ Denotes row name place ∧
    (datumAt row index).kind ≠ (datumAt row place).kind

theorem Bears.unique (one : Bears row name index) (another : Bears row name place) :
    index = place := by
  rcases Nat.lt_trichotomy index place with before | same | behind
  · exact absurd one.here (another.first index before)
  · exact same
  · exact absurd another.here (one.first place behind)

theorem Denotes.unique (one : Denotes row name index) (another : Denotes row name place) :
    index = place :=
  Digits.text_injective ((String.append_right_inj "c").mp (one.same.symm.trans another.same))

theorem Writes.clashes (one : Writes row name index) (another : Writes row name place)
    (kinds : (datumAt row index).kind ≠ (datumAt row place).kind) : Clashes row name := by
  have apart : index ≠ place := fun same => kinds (by rw [same])
  rcases one with bears | denotes
  · rcases another with alsoBears | denotes
    · exact absurd (bears.unique alsoBears) apart
    · exact ⟨index, place, bears, denotes, kinds⟩
  · rcases another with bears | alsoDenotes
    · exact ⟨place, index, bears, denotes, kinds.symm⟩
    · exact absurd (denotes.unique alsoDenotes) apart

/-! ## One name -/

theorem lookup_behind {old : Datum} (apart : name ≠ other) :
    List.lookup name ((other, old) :: names) = names.lookup name := by
  rw [List.lookup_cons, beq_eq_false_iff_ne.mpr apart]

theorem bindName_cases (name : String) (datum : Datum) (names : Names) :
    (∃ longer, bindName name datum names = .ok longer ∧
        (∀ old, names.lookup name = some old → old.kind = datum.kind) ∧
        ∀ other, longer.lookup other = if other = name then some datum else names.lookup other) ∨
      bindName name datum names = .error .conflictingNames ∧
        ∃ old, names.lookup name = some old ∧ old.kind ≠ datum.kind := by
  induction names with
  | nil =>
      refine .inl ⟨[(name, datum)], rfl, fun _ held => (nomatch held), fun other => ?_⟩
      split
      · rename_i same
        rw [same, List.lookup_cons_self]
      · rename_i apart
        exact lookup_behind apart
  | cons entry rest ih =>
      obtain ⟨here, old⟩ := entry
      by_cases found : here = name
      · subst found
        rw [bindName, if_pos rfl]
        by_cases kinds : old.kind = datum.kind
        · refine .inl ⟨(here, datum) :: rest, if_pos kinds, fun held isHeld => ?_, fun other => ?_⟩
          · rw [List.lookup_cons_self, Option.some.injEq] at isHeld
            exact isHeld ▸ kinds
          · split
            · rename_i same
              rw [same, List.lookup_cons_self]
            · rename_i apart
              rw [lookup_behind apart, lookup_behind apart]
        · exact .inr ⟨if_neg kinds, old, List.lookup_cons_self, kinds⟩
      · have behind : List.lookup name ((here, old) :: rest) = rest.lookup name :=
          lookup_behind (Ne.symm found)
        rw [bindName, if_neg found, behind]
        rcases ih with ⟨longer, bound, kinds, lookups⟩ | ⟨failed, conflict⟩
        · refine .inl ⟨(here, old) :: longer, by rw [bound], kinds, fun other => ?_⟩
          by_cases same : other = here
          · subst same
            rw [List.lookup_cons_self, List.lookup_cons_self, if_neg found]
          · rw [lookup_behind same, lookup_behind same, lookups]
        · exact .inr ⟨by rw [failed], conflict⟩

/-! ## Tables of names -/

/-- The table behind the columns that have written: a name reads the last column that wrote it, and
all that wrote it hold data of one kind. -/
structure Holds (row : Row) (wrote : String → Nat → Prop) (names : Names) : Prop where
  last : ∀ name index, wrote name index → (∀ other, wrote name other → other ≤ index) →
    names.lookup name = some (datumAt row index)
  written : ∀ name datum, names.lookup name = some datum →
    ∃ index, wrote name index ∧ datumAt row index = datum
  kinds : ∀ name index, wrote name index →
    ∃ datum, names.lookup name = some datum ∧ datum.kind = (datumAt row index).kind

/-- What writing comes to: a table, or a name that clashes. -/
def Settles (row : Row) (wrote : String → Nat → Prop) : Except Fault Names → Prop
  | .ok names => Holds row wrote names
  | .error fault => fault = .conflictingNames ∧ ∃ name, Clashes row name

theorem Settles.congr {others : String → Nat → Prop} {outcome : Except Fault Names}
    (settles : Settles row wrote outcome)
    (same : ∀ name index, wrote name index ↔ others name index) : Settles row others outcome := by
  have equal : wrote = others := funext fun name => funext fun index => propext (same name index)
  exact equal ▸ settles

theorem Settles.bind {outcome : Except Fault Names} (settles : Settles row wrote outcome)
    (within : ∀ earlier, wrote name earlier → earlier ≤ index ∧ Writes row name earlier)
    (writes : Writes row name index) :
    Settles row (fun other column => wrote other column ∨ other = name ∧ column = index)
      (outcome.bind (bindName name (datumAt row index))) := by
  cases outcome with
  | error fault => exact settles
  | ok names =>
      have holds : Holds row wrote names := settles
      rw [Except.bind]
      rcases bindName_cases name (datumAt row index) names with
        ⟨longer, bound, sameKind, lookup⟩ | ⟨failed, old, held, kinds⟩
      · rw [bound]
        constructor
        · rintro other column (earlier | ⟨rfl, rfl⟩) latest
          · rw [lookup]
            by_cases same : other = name
            · subst same
              have isLast : column = index :=
                Nat.le_antisymm (within column earlier).1 (latest index (.inr ⟨rfl, rfl⟩))
              rw [if_pos rfl, isLast]
            · rw [if_neg same]
              exact holds.last other column earlier fun later wroteLater =>
                latest later (.inl wroteLater)
          · rw [lookup, if_pos rfl]
        · intro other datum held
          rw [lookup] at held
          split at held
          · rename_i same
            exact ⟨index, .inr ⟨same, rfl⟩, Option.some.inj held⟩
          · obtain ⟨column, wroteIt, isDatum⟩ := holds.written other datum held
            exact ⟨column, .inl wroteIt, isDatum⟩
        · rintro other column (earlier | ⟨rfl, rfl⟩)
          · obtain ⟨old, held, kinds⟩ := holds.kinds other column earlier
            rw [lookup]
            by_cases same : other = name
            · subst same
              exact ⟨datumAt row index, if_pos rfl, (sameKind old held).symm.trans kinds⟩
            · exact ⟨old, by rw [if_neg same, held], kinds⟩
          · exact ⟨datumAt row column, by rw [lookup, if_pos rfl], rfl⟩
      · rw [failed]
        obtain ⟨earlier, earlierWrote, rfl⟩ := holds.written name old held
        exact ⟨rfl, name, (within earlier earlierWrote).2.clashes writes kinds⟩

theorem Settles.andThen {later : String → Nat → Prop} {outcome : Except Fault Names}
    {rest : Names → Except Fault Names} (settles : Settles row wrote outcome)
    (behind : ∀ names, Holds row wrote names → Settles row later (rest names)) :
    Settles row later (outcome.bind rest) := by
  cases outcome with
  | ok names => exact behind names settles
  | error fault => exact settles

/-! ## All columns -/

theorem identifierAt?_some (here : identifierAt? row index = some name) :
    index < row.columns.length := by
  obtain ⟨column, stands, -⟩ := Option.map_eq_some_iff.mp here
  exact (List.getElem?_eq_some_iff.mp stands).1

theorem Writes.inside (writes : Writes row name index) : index < row.columns.length := by
  rcases writes with bears | denotes
  · exact identifierAt?_some bears.here
  · exact denotes.inside

theorem exists_bears (nonempty : name.isEmpty = false) (here : identifierAt? row index = some name) :
    ∃ first ≤ index, Bears row name first := by
  induction index using Nat.strongRecOn with
  | ind index ih =>
      by_cases again : ∃ earlier < index, identifierAt? row earlier = some name
      · obtain ⟨earlier, before, alsoHere⟩ := again
        obtain ⟨first, within, bears⟩ := ih earlier before alsoHere
        exact ⟨first, Nat.le_trans within (Nat.le_of_lt before), bears⟩
      · exact ⟨index, Nat.le_refl index, nonempty, here, fun earlier before alsoHere =>
          again ⟨earlier, before, alsoHere⟩⟩

/-- What the columns before one have written. -/
def Before (row : Row) (limit : Nat) (name : String) (index : Nat) : Prop :=
  index < limit ∧ Writes row name index

/-- The names that are taken are those that earlier columns bear. -/
def Taken (row : Row) (limit : Nat) (taken : List String) : Prop :=
  ∀ name, name ∈ taken ↔ ∃ index < limit, Bears row name index

theorem Taken.free_iff {taken : List String} (isTaken : Taken row index taken)
    (here : identifierAt? row index = some name) :
    (name.isEmpty || taken.contains name) = false ↔ Bears row name index := by
  rw [Bool.or_eq_false_iff, List.contains_eq_mem, decide_eq_false_iff_not, isTaken name]
  constructor
  · rintro ⟨nonempty, free⟩
    obtain ⟨first, within, bears⟩ := exists_bears nonempty here
    rcases Nat.lt_or_eq_of_le within with before | rfl
    · exact absurd ⟨first, before, bears⟩ free
    · exact bears
  · intro bears
    refine ⟨bears.nonempty, ?_⟩
    rintro ⟨earlier, before, alsoBears⟩
    exact absurd (alsoBears.unique bears) (Nat.ne_of_lt before)

theorem Taken.next {taken : List String} (isTaken : Taken row index taken)
    (here : identifierAt? row index = some name) :
    Taken row (index + 1)
      (if name.isEmpty || taken.contains name then taken else name :: taken) := by
  intro other
  have onlyName (bears : Bears row other index) : other = name :=
    Option.some.inj (bears.here.symm.trans here)
  split
  · rename_i isTakenName
    rw [isTaken other]
    refine ⟨fun ⟨earlier, before, bears⟩ => ⟨earlier, Nat.lt_succ_of_lt before, bears⟩, ?_⟩
    rintro ⟨earlier, before, bears⟩
    rcases Nat.lt_succ_iff_lt_or_eq.mp before with before | rfl
    · exact ⟨earlier, before, bears⟩
    · obtain rfl := onlyName bears
      have free := (isTaken.free_iff here).mpr bears
      rw [free] at isTakenName
      cases isTakenName
  · rename_i free
    have bears := (isTaken.free_iff here).mp (Bool.eq_false_iff.mpr free)
    rw [List.mem_cons, isTaken other]
    constructor
    · rintro (rfl | ⟨earlier, before, bears⟩)
      · exact ⟨index, Nat.lt_succ_self index, bears⟩
      · exact ⟨earlier, Nat.lt_succ_of_lt before, bears⟩
    · rintro ⟨earlier, before, alsoBears⟩
      rcases Nat.lt_succ_iff_lt_or_eq.mp before with before | rfl
      · exact .inr ⟨earlier, before, alsoBears⟩
      · exact .inl (onlyName alsoBears)

theorem before_succ {other : String} {column : Nat} :
    Before row (index + 1) other column ↔
      Before row index other column ∨ column = index ∧ Writes row other index := by
  constructor
  · rintro ⟨inside, writes⟩
    rcases Nat.lt_succ_iff_lt_or_eq.mp inside with before | rfl
    · exact .inl ⟨before, writes⟩
    · exact .inr ⟨rfl, writes⟩
  · rintro (⟨before, writes⟩ | ⟨rfl, writes⟩)
    · exact ⟨Nat.lt_succ_of_lt before, writes⟩
    · exact ⟨Nat.lt_succ_self column, writes⟩

theorem column_settles {taken : List String} (isTaken : Taken row index taken)
    (here : identifierAt? row index = some name) (holds : Holds row (Before row index) names) :
    Settles row (Before row (index + 1))
      ((if name.isEmpty || taken.contains name then .ok names
        else bindName name (datumAt row index) names).bind
          (bindName (placeIdentifier index) (datumAt row index))) := by
  have denotes : Denotes row (placeIdentifier index) index := ⟨rfl, identifierAt?_some here⟩
  have start : Settles row (Before row index) (.ok names) := holds
  have earlier (other : String) (column : Nat) (before : Before row index other column) :
      column ≤ index ∧ Writes row other column :=
    ⟨Nat.le_of_lt before.1, before.2⟩
  split
  · rename_i isTakenName
    refine (start.bind (earlier _) (.inr denotes)).congr fun other column => ?_
    rw [before_succ]
    refine or_congr_right ⟨?_, ?_⟩
    · rintro ⟨rfl, rfl⟩
      exact ⟨rfl, .inr denotes⟩
    · rintro ⟨rfl, bears | alsoDenotes⟩
      · obtain rfl := Option.some.inj (bears.here.symm.trans here)
        rw [(isTaken.free_iff here).mpr bears] at isTakenName
        cases isTakenName
      · exact ⟨alsoDenotes.same, rfl⟩
  · rename_i free
    have bears := (isTaken.free_iff here).mp (Bool.eq_false_iff.mpr free)
    have named := start.bind (earlier _) (.inl bears)
    refine (named.bind ?_ (.inr denotes)).congr fun other column => ?_
    · rintro column (before | ⟨same, rfl⟩)
      · exact earlier _ column before
      · exact ⟨Nat.le_refl column, .inr (same ▸ denotes)⟩
    · rw [before_succ, or_assoc]
      refine or_congr_right ⟨?_, ?_⟩
      · rintro (⟨rfl, rfl⟩ | ⟨rfl, rfl⟩)
        · exact ⟨rfl, .inl bears⟩
        · exact ⟨rfl, .inr denotes⟩
      · rintro ⟨rfl, alsoBears | alsoDenotes⟩
        · exact .inl ⟨Option.some.inj (alsoBears.here.symm.trans here), rfl⟩
        · exact .inr ⟨alsoDenotes.same, rfl⟩

theorem bindColumns_cons {taken : List String} {column : Column} {rest : List Column} :
    bindColumns row taken names index (column :: rest) =
      ((if (columnIdentifier column.name).isEmpty || taken.contains (columnIdentifier column.name)
          then .ok names
          else bindName (columnIdentifier column.name) (datumAt row index) names).bind
        (bindName (placeIdentifier index) (datumAt row index))).bind fun longer =>
          bindColumns row
            (if (columnIdentifier column.name).isEmpty ||
                taken.contains (columnIdentifier column.name)
              then taken else columnIdentifier column.name :: taken)
            longer (index + 1) rest := by
  rw [bindColumns]
  dsimp only [datumAt]
  generalize Except.bind _ (bindName (placeIdentifier index) _) = written
  cases written with
  | ok longer => rfl
  | error fault => rfl

theorem bindColumns_settles (columns : List Column) {taken : List String} {index : Nat}
    {names : Names} (behind : row.columns.drop index = columns) (isTaken : Taken row index taken)
    (holds : Holds row (Before row index) names) :
    Settles row (Writes row) (bindColumns row taken names index columns) := by
  induction columns generalizing taken index names with
  | nil =>
      have short := List.drop_eq_nil_iff.mp behind
      have all : Settles row (Before row index) (.ok names) := holds
      exact all.congr fun name column =>
        ⟨And.right, fun writes => ⟨Nat.lt_of_lt_of_le writes.inside short, writes⟩⟩
  | cons column rest ih =>
      have stands : row.columns[index]? = some column := by
        rw [← List.head?_drop, behind, List.head?_cons]
      have here : identifierAt? row index = some (columnIdentifier column.name) := by
        rw [identifierAt?, stands, Option.map_some]
      have next : row.columns.drop (index + 1) = rest := by
        rw [← List.tail_drop, behind, List.tail_cons]
      rw [bindColumns_cons]
      exact (column_settles isTaken here holds).andThen fun longer written =>
        ih next (isTaken.next here) written

theorem namesOf_settles (row : Row) : Settles row (Writes row) (namesOf row) := by
  refine bindColumns_settles row.columns List.drop_zero ?_ ⟨?_, ?_, ?_⟩
  · simp [Taken]
  · rintro name index ⟨inside, -⟩
    cases inside
  · intro name datum held
    cases held
  · rintro name index ⟨inside, -⟩
    cases inside

/-! ## What names read -/

theorem Holds.not_clashes (holds : Holds row (Writes row) names) : ¬ Clashes row name := by
  rintro ⟨index, place, bears, denotes, kinds⟩
  obtain ⟨datum, held, kind⟩ := holds.kinds name index (.inl bears)
  obtain ⟨another, alsoHeld, alsoKind⟩ := holds.kinds name place (.inr denotes)
  rw [held, Option.some.injEq] at alsoHeld
  exact kinds (kind.symm.trans (alsoHeld ▸ alsoKind))

theorem namesOf_clashes (clashes : Clashes row name) : namesOf row = .error .conflictingNames := by
  have settles := namesOf_settles row
  cases outcome : namesOf row with
  | error fault =>
      rw [outcome] at settles
      rw [settles.1]
  | ok names =>
      rw [outcome] at settles
      exact absurd clashes (Holds.not_clashes settles)

theorem namesOf_holds (free : ∀ name, ¬ Clashes row name) :
    ∃ names, namesOf row = .ok names ∧ Holds row (Writes row) names := by
  have settles := namesOf_settles row
  cases outcome : namesOf row with
  | error fault =>
      rw [outcome] at settles
      obtain ⟨-, name, clashes⟩ := settles
      exact absurd clashes (free name)
  | ok names =>
      rw [outcome] at settles
      exact ⟨names, rfl, settles⟩

theorem Holds.reads_bearer (holds : Holds row (Writes row) names) (bears : Bears row name index)
    (latest : ∀ place, Denotes row name place → place ≤ index) :
    lookUp names name = .ok (datumAt row index) := by
  have read := holds.last name index (.inl bears) fun other writes => by
    rcases writes with alsoBears | denotes
    · exact Nat.le_of_eq (alsoBears.unique bears)
    · exact latest other denotes
  rw [lookUp, read]

theorem Holds.reads_place (holds : Holds row (Writes row) names) (denotes : Denotes row name place)
    (latest : ∀ index, Bears row name index → index ≤ place) :
    lookUp names name = .ok (datumAt row place) := by
  have read := holds.last name place (.inr denotes) fun other writes => by
    rcases writes with bears | alsoDenotes
    · exact latest other bears
    · exact Nat.le_of_eq (alsoDenotes.unique denotes)
  rw [lookUp, read]

theorem Holds.unknown (holds : Holds row (Writes row) names)
    (unwritten : ∀ index, ¬ Writes row name index) :
    lookUp names name = .error (.unknownVariable name) := by
  rw [lookUp]
  cases held : names.lookup name with
  | none => rfl
  | some datum =>
      obtain ⟨index, writes, -⟩ := holds.written name datum held
      exact absurd writes (unwritten index)

/-- A row has a table of names unless a name clashes. A name then reads the cell of the column that
bears it or of the column at the place that it denotes, whichever of the two is later. -/
theorem names_read (row : Row) :
    ((∃ name, Clashes row name) → namesOf row = .error .conflictingNames) ∧
      ((∀ name, ¬ Clashes row name) → ∃ names, namesOf row = .ok names ∧
        (∀ name index, Bears row name index → (∀ place, Denotes row name place → place ≤ index) →
          lookUp names name = .ok (datumAt row index)) ∧
        (∀ name place, Denotes row name place → (∀ index, Bears row name index → index ≤ place) →
          lookUp names name = .ok (datumAt row place)) ∧
        ∀ name, (∀ index, ¬ Writes row name index) →
          lookUp names name = .error (.unknownVariable name)) := by
  refine ⟨fun ⟨name, clashes⟩ => namesOf_clashes clashes, fun free => ?_⟩
  obtain ⟨names, isTable, holds⟩ := namesOf_holds free
  exact ⟨names, isTable, fun _ _ => holds.reads_bearer, fun _ _ => holds.reads_place,
    fun _ => holds.unknown⟩

end Condition

/-! ## Controls

A column whose name is that of a place. -/

namespace Controls

open Condition

def control : Column := Column.declare "C1" (.int .int32)

def counted (n : Int) : Value := .int .int32 (FixedInt.wrapping .int32 n)

/-- The control is the first column, the amount stands at the place `c1`. -/
def row : Row :=
  ⟨[control, Column.declare "Amount" (.int .int32)], [counted 7, counted 40]⟩

def noted : Row :=
  ⟨[control, Column.declare "Note" .string], [counted 7, .string "spare"]⟩

theorem bears {row : Row} (first : row.columns.head? = some control) : Bears row "c1" 0 := by
  refine ⟨rfl, ?_, fun earlier before => (nomatch before)⟩
  rw [identifierAt?, ← List.head?_eq_getElem?, first]
  rfl

/-- The name of the control reads the amount, and with a note beside it no name can be read. -/
theorem control_hidden :
    Bears row "c1" 0 ∧
      ((namesOf row).bind fun names => lookUp names "c1") = .ok (datumAt row 1) ∧
      datumAt row 0 ≠ datumAt row 1 ∧
      Bears noted "c1" 0 ∧ namesOf noted = .error .conflictingNames := by
  refine ⟨bears rfl, rfl, fun same => ?_, bears rfl, rfl⟩
  injection same with same
  exact absurd (congrArg FixedInt.val same) (by decide)

end Controls

end Unflatten
