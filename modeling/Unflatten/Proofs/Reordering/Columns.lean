import Mathlib.Data.List.Nodup
import Unflatten.Proofs.Flattening.Names
import Unflatten.Proofs.Planning.Reading
import Unflatten.Row

/-!
# Rearranged columns

Two headers that have the same columns with the same cells in different order, told apart by their
folded names. Whatever looks for a column by its name finds the same column in both.
-/

set_option autoImplicit false

namespace Unflatten

/-- The same column at another place of another row. -/
structure HeaderColumn.Twin (row other : Row) (column twin : HeaderColumn) : Prop where
  name : twin.name = column.name
  folded : twin.folded = column.folded
  type : twin.type = column.type
  cell : other.value twin.index = row.value column.index

/-- No two columns have the same folded name. -/
def Header.ToldApart (header : Header) : Prop :=
  ∀ one ∈ header, ∀ other ∈ header, one.folded = other.folded → one = other

/-- Each column of the one header has a twin in the other. -/
structure Header.Rearranged (row other : Row) (header others : Header) : Prop where
  indexed : header.WellIndexed
  othersIndexed : others.WellIndexed
  apart : header.ToldApart
  othersApart : others.ToldApart
  there : ∀ column ∈ header, ∃ twin ∈ others, column.Twin row other twin
  back : ∀ twin ∈ others, ∃ column ∈ header, column.Twin row other twin

/-- Both have claimed the same columns. -/
structure Claims.Tally (header others : Header) (claims later : Claims) : Prop where
  sized : claims.length = header.length
  othersSized : later.length = others.length
  marks : ∀ column ∈ header, ∀ twin ∈ others, twin.folded = column.folded →
    later.isClaimed twin.index = claims.isClaimed column.index

/-- Both scopes hold the same columns. -/
structure Scope.Tally (header others : Header) (scope another : Scope) : Prop where
  lead : another.lead = scope.lead
  exact : another.exact = scope.exact
  admits : ∀ column ∈ header, ∀ twin ∈ others, twin.folded = column.folded →
    another.admits twin.index = scope.admits column.index

namespace Scope

variable {header others : Header} {scope another : Scope} {column twin : HeaderColumn}

theorem Tally.root (header others : Header) : Scope.Tally header others .root .root :=
  ⟨rfl, rfl, fun _ _ _ _ _ => rfl⟩

theorem Tally.member (tally : Scope.Tally header others scope another) (name separator : String) :
    Scope.Tally header others (scope.member name separator) (another.member name separator) := by
  obtain ⟨lead, _, admits⟩ := tally
  refine ⟨?_, ?_, admits⟩
  · rw [Scope.member, Scope.member, lead]
  · rw [Scope.member, Scope.member, lead]

theorem Tally.contains (tally : Scope.Tally header others scope another) (isColumn : column ∈ header)
    (isTwin : twin ∈ others) (folded : twin.folded = column.folded) :
    another.contains twin = scope.contains column := by
  rw [Scope.contains, Scope.contains, tally.admits column isColumn twin isTwin folded, tally.exact,
    tally.lead, folded]

theorem Tally.nameWithin (tally : Scope.Tally header others scope another)
    (folded : twin.folded = column.folded) : another.nameWithin twin = scope.nameWithin column := by
  rw [Scope.nameWithin, Scope.nameWithin, tally.exact, tally.lead, folded]

theorem folded_of_contains (contains : scope.contains column = true)
    (notExact : scope.exact ≠ some column.folded) :
    column.folded = scope.lead ++ scope.nameWithin column ∧
      (scope.exact ≠ none → scope.nameWithin column ≠ "") := by
  rw [Scope.contains, Bool.and_eq_true, Bool.or_eq_true, Bool.and_eq_true, beq_iff_eq,
    Bool.or_eq_true, bne_iff_ne] at contains
  obtain ⟨starts, longer⟩ := contains.2.resolve_left notExact
  rw [Text.startsWith, List.isPrefixOf_iff_prefix] at starts
  obtain ⟨rest, folded⟩ := starts
  have within : scope.nameWithin column = String.ofList rest := by
    rw [Scope.nameWithin, if_neg (by simpa using notExact), ← folded, Text.dropBytes?_append]
  have whole : column.folded = scope.lead ++ String.ofList rest := by
    rw [← String.toList_inj, ← folded]
    simp
  refine ⟨by rw [within, ← whole], fun exact empty => ?_⟩
  rw [within] at empty
  rw [empty, String.append_empty] at whole
  rcases longer with isNone | differs
  · exact exact (by simpa using isNone)
  · exact differs whole

theorem folded_of_nameWithin {one other : HeaderColumn} (first : scope.contains one = true)
    (second : scope.contains other = true)
    (same : scope.nameWithin one = scope.nameWithin other) : one.folded = other.folded := by
  have exactName {column : HeaderColumn} (exact : scope.exact = some column.folded) :
      scope.nameWithin column = "" := by
    rw [Scope.nameWithin, exact, if_pos (by simp)]
  by_cases isOne : scope.exact = some one.folded
  · by_cases isOther : scope.exact = some other.folded
    · exact Option.some.inj (isOne.symm.trans isOther)
    · have longer := (folded_of_contains second isOther).2 (by simp [isOne])
      exact absurd (same.symm.trans (exactName isOne)) longer
  · by_cases isOther : scope.exact = some other.folded
    · have longer := (folded_of_contains first isOne).2 (by simp [isOther])
      exact absurd (same.trans (exactName isOther)) longer
    · rw [(folded_of_contains first isOne).1, (folded_of_contains second isOther).1, same]

end Scope

theorem Header.mem_nameless {header : Header} (indexed : header.WellIndexed) {claims : Claims}
    {scope : Scope} {sentinel : String} {column : HeaderColumn} (isColumn : column ∈ header) :
    column.index ∈ header.nameless claims scope sentinel ↔
      column ∈ header.available claims scope ∧ column.folded = foldName sentinel := by
  rw [Header.nameless, List.mem_map]
  constructor
  · rintro ⟨found, member, same⟩
    rw [List.mem_filter, beq_iff_eq] at member
    have isFound := (List.mem_filter.mp member.1).1
    rwa [← List.inj_on_of_nodup_map indexed.nodup isFound isColumn same]
  · rintro ⟨offered, named⟩
    exact ⟨column, List.mem_filter.mpr ⟨offered, by simpa using named⟩, rfl⟩

theorem Header.ToldApart.nameless {header : Header} (apart : header.ToldApart)
    (indexed : header.WellIndexed) {claims : Claims} {scope : Scope} {sentinel : String}
    {one other : HeaderColumn} (isOne : one ∈ header) (isOther : other ∈ header)
    (first : (Scope.among (header.nameless claims scope sentinel)).contains one = true)
    (second : (Scope.among (header.nameless claims scope sentinel)).contains other = true) :
    one = other := by
  have named {column : HeaderColumn} (isColumn : column ∈ header)
      (contains : (Scope.among (header.nameless claims scope sentinel)).contains column = true) :
      column.folded = foldName sentinel := by
    have admitted := (Bool.and_eq_true _ _ ▸ contains).1
    rw [Scope.admits, Scope.among, List.contains_iff_mem] at admitted
    exact ((Header.mem_nameless indexed isColumn).mp admitted).2
  exact apart one isOne other isOther ((named isOne first).trans (named isOther second).symm)

namespace Header.Rearranged

variable {row other : Row} {header others : Header} {claims later : Claims}
variable {scope another : Scope} {column twin : HeaderColumn}
variable (rearranged : Header.Rearranged row other header others)
variable (claimed : Claims.Tally header others claims later)
variable (within : Scope.Tally header others scope another)
include rearranged claimed within

omit rearranged in
theorem mem_available (isColumn : column ∈ header) (isTwin : twin ∈ others)
    (folded : twin.folded = column.folded) :
    twin ∈ others.available later another ↔ column ∈ header.available claims scope := by
  rw [Header.available, Header.available, List.mem_filter, List.mem_filter,
    claimed.marks column isColumn twin isTwin folded, within.contains isColumn isTwin folded]
  exact and_congr_left' (iff_of_true isTwin isColumn)

theorem available_isEmpty :
    (others.available later another).isEmpty = (header.available claims scope).isEmpty := by
  rw [Bool.eq_iff_iff, List.isEmpty_iff, List.isEmpty_iff, List.eq_nil_iff_forall_not_mem,
    List.eq_nil_iff_forall_not_mem]
  constructor
  · intro empty column member
    have isColumn := (List.mem_filter.mp member).1
    obtain ⟨twin, isTwin, same⟩ := rearranged.there column isColumn
    exact empty twin ((mem_available claimed within isColumn isTwin same.folded).mpr member)
  · intro empty twin member
    have isTwin := (List.mem_filter.mp member).1
    obtain ⟨column, isColumn, same⟩ := rearranged.back twin isTwin
    exact empty column ((mem_available claimed within isColumn isTwin same.folded).mp member)

theorem hasMember (name separator : String) :
    others.hasMember later another name separator =
      header.hasMember claims scope name separator := by
  rw [Header.hasMember, Header.hasMember,
    rearranged.available_isEmpty claimed (within.member name separator)]

theorem find? (localName : String) :
    Option.Rel (fun column twin => column ∈ header ∧ twin ∈ others ∧ column.Twin row other twin)
      (header.find? claims scope localName) (others.find? later another localName) := by
  unfold Header.find?
  cases found : List.find? (fun column => scope.nameWithin column == localName)
      (header.available claims scope) with
  | none =>
      cases foundTwin : List.find? (fun column => another.nameWithin column == localName)
          (others.available later another) with
      | none => exact .none
      | some twin =>
          have member := List.mem_of_find?_eq_some foundTwin
          have isTwin := (List.mem_filter.mp member).1
          obtain ⟨column, isColumn, same⟩ := rearranged.back twin isTwin
          have offered := (mem_available claimed within isColumn isTwin same.folded).mp member
          have named := List.find?_some foundTwin
          rw [within.nameWithin same.folded] at named
          exact absurd named (List.find?_eq_none.mp found column offered)
  | some column =>
      have member := List.mem_of_find?_eq_some found
      have isColumn := (List.mem_filter.mp member).1
      have named := List.find?_some found
      obtain ⟨twin, isTwin, same⟩ := rearranged.there column isColumn
      have offered := (mem_available claimed within isColumn isTwin same.folded).mpr member
      rw [← within.nameWithin same.folded] at named
      cases foundTwin : List.find? (fun column => another.nameWithin column == localName)
          (others.available later another) with
      | none => exact absurd named (List.find?_eq_none.mp foundTwin twin offered)
      | some found =>
          have alsoOffered := List.mem_of_find?_eq_some foundTwin
          have isFound := (List.mem_filter.mp alsoOffered).1
          have alsoNamed := List.find?_some foundTwin
          rw [beq_iff_eq] at named alsoNamed
          have folded := Scope.folded_of_nameWithin
            (Bool.and_eq_true _ _ ▸ (List.mem_filter.mp alsoOffered).2).2
            (Bool.and_eq_true _ _ ▸ (List.mem_filter.mp offered).2).2 (alsoNamed.trans named.symm)
          rw [rearranged.othersApart found isFound twin isTwin folded]
          exact .some ⟨isColumn, isTwin, same⟩

theorem hasColumn (localName : String) :
    others.hasColumn later another localName = header.hasColumn claims scope localName := by
  have found := rearranged.find? claimed within localName
  rw [Header.hasColumn, Header.hasColumn]
  generalize header.find? claims scope localName = one at found
  generalize others.find? later another localName = two at found
  cases found with
  | none => rfl
  | some _ => rfl

theorem head? (single : ∀ one ∈ header, ∀ two ∈ header, scope.contains one = true →
      scope.contains two = true → one = two) :
    Option.Rel (fun column twin => column ∈ header ∧ twin ∈ others ∧ column.Twin row other twin)
      (header.available claims scope).head? (others.available later another).head? := by
  have empty := rearranged.available_isEmpty claimed within
  cases offered : header.available claims scope with
  | nil =>
      rw [offered, List.isEmpty_nil, List.isEmpty_iff] at empty
      rw [empty]
      exact .none
  | cons column rest =>
      have member : column ∈ header.available claims scope := by simp [offered]
      have isColumn := (List.mem_filter.mp member).1
      cases offeredTwins : others.available later another with
      | nil =>
          rw [offered, offeredTwins] at empty
          cases empty
      | cons twin restTwins =>
          have memberTwin : twin ∈ others.available later another := by simp [offeredTwins]
          have isTwin := (List.mem_filter.mp memberTwin).1
          obtain ⟨found, isFound, same⟩ := rearranged.back twin isTwin
          have alsoOffered := (mem_available claimed within isFound isTwin same.folded).mp memberTwin
          have identical := single found isFound column isColumn
            (Bool.and_eq_true _ _ ▸ (List.mem_filter.mp alsoOffered).2).2
            (Bool.and_eq_true _ _ ▸ (List.mem_filter.mp member).2).2
          subst identical
          exact .some ⟨isFound, isTwin, same⟩

/-! ## Columns without a name -/

theorem mem_nameless (sentinel : String) (isColumn : column ∈ header) (isTwin : twin ∈ others)
    (folded : twin.folded = column.folded) :
    twin.index ∈ others.nameless later another sentinel ↔
      column.index ∈ header.nameless claims scope sentinel := by
  rw [Header.mem_nameless rearranged.othersIndexed isTwin,
    Header.mem_nameless rearranged.indexed isColumn, folded,
    mem_available claimed within isColumn isTwin folded]

theorem nameless_isEmpty (sentinel : String) :
    (others.nameless later another sentinel).isEmpty =
      (header.nameless claims scope sentinel).isEmpty := by
  rw [Bool.eq_iff_iff, List.isEmpty_iff, List.isEmpty_iff, List.eq_nil_iff_forall_not_mem,
    List.eq_nil_iff_forall_not_mem]
  constructor
  · intro empty index member
    obtain ⟨column, isNameless, rfl⟩ := List.mem_map.mp member
    have isColumn := (List.mem_filter.mp (List.mem_filter.mp isNameless).1).1
    obtain ⟨twin, isTwin, same⟩ := rearranged.there column isColumn
    exact empty twin.index
      ((rearranged.mem_nameless claimed within sentinel isColumn isTwin same.folded).mpr member)
  · intro empty index member
    obtain ⟨twin, isNameless, rfl⟩ := List.mem_map.mp member
    have isTwin := (List.mem_filter.mp (List.mem_filter.mp isNameless).1).1
    obtain ⟨column, isColumn, same⟩ := rearranged.back twin isTwin
    exact empty column.index
      ((rearranged.mem_nameless claimed within sentinel isColumn isTwin same.folded).mp member)

theorem nameless_tally (sentinel : String) :
    Scope.Tally header others (.among (header.nameless claims scope sentinel))
      (.among (others.nameless later another sentinel)) := by
  refine ⟨rfl, rfl, fun column isColumn twin isTwin folded => ?_⟩
  have same := rearranged.mem_nameless claimed within sentinel isColumn isTwin folded
  rw [Bool.eq_iff_iff]
  simpa only [Scope.admits, Scope.among, List.contains_iff_mem] using same

/-! ## The choice of a constructor -/

theorem best? (settings : Settings) (constructors : List Constructor) :
    View.best? ⟨others, later, another⟩ settings constructors =
      View.best? ⟨header, claims, scope⟩ settings constructors := by
  have bound (parameter : Parameter) :
      View.bind? ⟨others, later, another⟩ settings parameter =
        View.bind? ⟨header, claims, scope⟩ settings parameter := by
    simp only [View.bind?, rearranged.hasColumn claimed within, rearranged.hasMember claimed within,
      rearranged.nameless_isEmpty claimed within]
  have scored (constructor : Constructor) :
      View.score? ⟨others, later, another⟩ settings constructor =
        View.score? ⟨header, claims, scope⟩ settings constructor := by
    simp only [View.score?, bound]
  induction constructors with
  | nil => rfl
  | cons constructor rest ih => rw [View.best?, View.best?, ih, scored]

theorem chooseConstructor (type : ObjectType) (own : Option TypePolicy) (settings : Settings) :
    type.chooseConstructor own ⟨others, later, another⟩ settings =
      type.chooseConstructor own ⟨header, claims, scope⟩ settings := by
  rw [ObjectTypeOf.chooseConstructor, ObjectTypeOf.chooseConstructor,
    rearranged.best? claimed within]

end Header.Rearranged

end Unflatten
