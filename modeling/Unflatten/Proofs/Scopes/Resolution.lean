import Unflatten.Proofs.LetterCase.Lengths
import Unflatten.Proofs.Scopes.Groups
import Unflatten.Proofs.Scopes.Paths

/-!
# Names of nested columns

A column of a nested member bears the names on the way to it, each with the separator behind it, and
then its own. Its name is folded as a whole, whereas the lead of the member's scope and the name that
is looked for there are folded piece by piece. So the column is found exactly if no capital sigma in
the name ends a word in the whole name and not in its piece, or the other way round. Separators that
are letters, or that are looked through as a point is, let that happen; one that begins and ends with
another character, such as `_`, does not.
-/

set_option autoImplicit false

namespace Unflatten

/-! ## Pieces of a name -/

/-- The name of a column that the names of members lead to, with `rest` behind the last separator. -/
def nestedName (separator : String) (path : List String) (rest : String) : String :=
  path.foldr (fun name tail => name ++ separator ++ tail) rest

/-- What such a name is made of. -/
def nestedPieces (separator : String) (path : List String) (rest : String) : List (List Char) :=
  (path.flatMap fun name => [name.toList, separator.toList]) ++ [rest.toList]

section Pieces

variable {separator rest name : String} {path : List String}

theorem nestedPieces_cons : nestedPieces separator (name :: path) rest =
    name.toList :: separator.toList :: nestedPieces separator path rest :=
  rfl

theorem nestedName_toList :
    (nestedName separator path rest).toList = (nestedPieces separator path rest).flatten := by
  induction path with
  | nil => simp [nestedName, nestedPieces]
  | cons name path ih =>
      rw [nestedPieces_cons, List.flatten_cons, List.flatten_cons, ← ih]
      simp [nestedName]

theorem nestedPieces_lowered :
    (nestedPieces separator path rest).flatMap Text.lowerChars =
      (Scope.along separator path).lead.toList ++ (foldName rest).toList := by
  rw [nestedPieces, List.flatMap_append, Scope.along_lead, List.flatMap_assoc]
  simp [foldName_toList]

end Pieces

/-! ## Separators that keep the pieces apart -/

/-- The separator begins and ends with a character that has no letter case and is not looked
through. -/
def IsFence (separator : String) : Prop :=
  separator.toList.head?.any Text.isNeutral = true ∧
    separator.toList.getLast?.any Text.isNeutral = true

instance (separator : String) : Decidable (IsFence separator) :=
  inferInstanceAs (Decidable (_ ∧ _))

namespace IsFence

variable {separator rest : String} {path : List String} {before after : List Char}

theorem wall_ahead (fence : IsFence separator) (after : List Char) :
    Text.IsWall (separator.toList ++ after) := by
  obtain ⟨first, isFirst, neutral⟩ := (Option.any_eq_true ..).mp fence.1
  obtain ⟨behind, split⟩ := List.head?_eq_some_iff.mp isFirst
  rw [split]
  exact Text.isWall_cons neutral _

theorem wall_behind (fence : IsFence separator) (before : List Char) :
    Text.IsWall (separator.toList.reverse ++ before) := by
  obtain ⟨last, isLast, neutral⟩ := (Option.any_eq_true ..).mp fence.2
  obtain ⟨front, split⟩ := List.getLast?_eq_some_iff.mp isLast
  rw [split, List.reverse_append]
  exact Text.isWall_cons neutral _

/-- A sigma inside the separator sees no further than the ends of the separator. -/
theorem keeps_own (fence : IsFence separator) {stem tail : List Char}
    (split : separator.toList = stem ++ 'Σ' :: tail) :
    Text.endsWord (stem.reverse ++ before) (tail ++ after) = Text.endsWord stem.reverse tail := by
  have letter : Text.isNeutral 'Σ' = false := by decide
  obtain ⟨first, isFirst, neutralFirst⟩ := (Option.any_eq_true ..).mp fence.1
  obtain ⟨last, isLast, neutralLast⟩ := (Option.any_eq_true ..).mp fence.2
  have left : first ∈ stem := by
    cases stem with
    | nil =>
        rw [split] at isFirst
        cases isFirst
        rw [letter] at neutralFirst
        cases neutralFirst
    | cons head stem =>
        rw [split] at isFirst
        cases isFirst
        exact List.mem_cons_self
  have right : last ∈ tail := by
    rw [split, List.getLast?_append_cons, List.getLast?_cons] at isLast
    cases ends : tail.getLast? with
    | none =>
        rw [ends] at isLast
        cases isLast
        rw [Option.getD_none, letter] at neutralLast
        cases neutralLast
    | some final =>
        rw [ends] at isLast
        cases isLast
        exact List.mem_of_getLast? ends
  rw [Text.endsWord, Text.endsWord,
    Text.leadsToCased_of_mem (List.mem_reverse.mpr left) neutralFirst,
    Text.leadsToCased_of_mem right neutralLast]

theorem keeps_pieces (fence : IsFence separator) (wall : Text.IsWall before) :
    Text.SigmasKept before (nestedPieces separator path rest) := by
  induction path generalizing before with
  | nil =>
      refine ⟨fun stem tail _ => ?_, trivial⟩
      exact Text.endsWord_walls wall Text.isWall_nil _ _
  | cons name path ih =>
      rw [nestedPieces_cons]
      refine ⟨fun stem tail _ => ?_, fun stem tail split => fence.keeps_own split, ?_⟩
      · exact Text.endsWord_walls wall (fence.wall_ahead _) _ _
      · exact ih (fence.wall_behind _)

end IsFence

/-! ## Looking a column up -/

theorem Header.find?_earliest {header : Header} {claims : Claims} {scope : Scope} {name : String}
    {column : HeaderColumn} (indexed : header.WellIndexed)
    (offered : column ∈ header.available claims scope) (named : scope.nameWithin column = name)
    (earliest : ∀ other ∈ header.available claims scope, scope.nameWithin other = name →
      column.index ≤ other.index) :
    header.find? claims scope name = some column := by
  have ascending : (header.available claims scope).Pairwise
      fun one other => one.index < other.index :=
    indexed.ascending.filter _
  cases search : header.find? claims scope name with
  | none =>
      have differs := List.find?_eq_none.mp search column offered
      exact absurd (beq_iff_eq.mpr named) differs
  | some found =>
      obtain ⟨isNamed, before, after, split, others⟩ := List.find?_eq_some_iff_append.mp search
      rw [split] at offered ascending
      rcases List.mem_append.mp offered with isBefore | isAfter
      · have differs := others column isBefore
        simp [named] at differs
      · rcases List.mem_cons.mp isAfter with rfl | isLater
        · rfl
        · have later := (List.pairwise_append.mp ascending).2.1
          have behind := List.rel_of_pairwise_cons later isLater
          have isFound : found ∈ header.available claims scope := List.mem_of_find?_eq_some search
          have first := earliest found isFound (beq_iff_eq.mp isNamed)
          exact absurd behind (Nat.not_lt.mpr first)

/-- The column is seen in the scope under the folded name, and while it is free, whoever looks for
that name finds it unless a column before it is free that has the name too. -/
structure Scope.Resolves (header : Header) (scope : Scope) (column : HeaderColumn) (name : String) :
    Prop where
  contains : scope.contains column = true
  named : scope.nameWithin column = foldName name
  found : ∀ claims : Claims, claims.isClaimed column.index = false →
    (∀ other ∈ header.available claims scope, scope.nameWithin other = foldName name →
      column.index ≤ other.index) →
    header.find? claims scope (foldName name) = some column

theorem Scope.IsOpen.resolves_iff {header : Header} {scope : Scope} {column : HeaderColumn}
    {name : String} (isOpen : scope.IsOpen) (indexed : header.WellIndexed)
    (member : column ∈ header) (some : name ≠ "") :
    scope.Resolves header column name ↔
      column.folded.toList = scope.lead.toList ++ (foldName name).toList := by
  have someFold := foldName_some some
  constructor
  · intro resolves
    have someName : scope.nameWithin column ≠ "" := by
      rw [resolves.named]
      exact fun none => someFold (String.toList_eq_nil_iff.mpr none)
    rw [← resolves.named]
    exact Scope.lead_nameWithin resolves.contains someName
  · intro folded
    have contains := isOpen.contains folded someFold
    have named : scope.nameWithin column = foldName name :=
      String.toList_injective (isOpen.nameWithin folded someFold)
    refine ⟨contains, named, fun claims free earliest => ?_⟩
    refine Header.find?_earliest indexed (List.mem_filter.mpr ⟨member, ?_⟩) named earliest
    rw [free, contains]
    rfl

/-- A column of a nested member is found under the rest of its name exactly if no sigma changes its
form with the folding of the whole name, which a fence for a separator never lets happen. -/
theorem Header.nestedName_resolves {columns : List Column} {column : HeaderColumn}
    {path : List String} {separator rest : String} (member : column ∈ ofColumns columns)
    (named : column.name = nestedName separator path rest) (some : rest ≠ "") :
    ((Scope.along separator path).Resolves (ofColumns columns) column rest ↔
      Text.SigmasKept [] (nestedPieces separator path rest)) ∧
    (IsFence separator →
      (Scope.along separator path).Resolves (ofColumns columns) column rest) := by
  have resolves : (Scope.along separator path).Resolves (ofColumns columns) column rest ↔
      Text.SigmasKept [] (nestedPieces separator path rest) := by
    have folded : column.folded.toList =
        Text.lowerFrom [] (nestedPieces separator path rest).flatten := by
      rw [ofColumns_isFolded member, foldName_toList, named, nestedName_toList, Text.lowerChars]
    rw [Scope.along_isOpen.resolves_iff (ofColumns_wellIndexed columns) member some, folded,
      ← nestedPieces_lowered, Text.lowerFrom_flatten_iff]
  exact ⟨resolves, fun fence => resolves.mpr (fence.keeps_pieces Text.isWall_nil)⟩

/-! ## Streets

The sigma at the end of a street ends a word before `_`. Before a point it does not if letters follow,
and neither does it before a letter.
-/

namespace Streets

def columns : List Column :=
  [Column.declare "ΟΔΟΣ_ΠΟΛΗΣ_Id" .string, Column.declare "ΟΔΟΣ.Id" .string,
    Column.declare "ΟΔΟΣXId" .string, Column.declare "Α.Σ" .string]

def fenced : HeaderColumn :=
  ⟨0, "ΟΔΟΣ_ΠΟΛΗΣ_Id", "οδος_πολης_id", .string, "string"⟩

def pointed : HeaderColumn :=
  ⟨1, "ΟΔΟΣ.Id", "οδοσ.id", .string, "string"⟩

def lettered : HeaderColumn :=
  ⟨2, "ΟΔΟΣXId", "οδοσxid", .string, "string"⟩

def ended : HeaderColumn :=
  ⟨3, "Α.Σ", "α.ς", .string, "string"⟩

theorem header : Header.ofColumns columns = [fenced, pointed, lettered, ended] := by
  decide +kernel

end Streets

theorem Streets.city_resolves : Streets.fenced.name = nestedName "_" ["ΟΔΟΣ", "ΠΟΛΗΣ"] "Id" ∧
    (Scope.along "_" ["ΟΔΟΣ", "ΠΟΛΗΣ"]).Resolves (Header.ofColumns Streets.columns) Streets.fenced
      "Id" := by
  have member : Streets.fenced ∈ Header.ofColumns Streets.columns := by simp [Streets.header]
  have named : Streets.fenced.name = nestedName "_" ["ΟΔΟΣ", "ΠΟΛΗΣ"] "Id" := by decide +kernel
  have resolves := (Header.nestedName_resolves member named (by decide)).2
  exact ⟨named, resolves (by decide +kernel)⟩

/-- The member of the name is not offered its column, or is offered it under another name than the
one that is looked for. -/
theorem Streets.street_missed :
    (Streets.pointed.name = nestedName "." ["ΟΔΟΣ"] "Id" ∧
      (Scope.root.member "ΟΔΟΣ" ".").contains Streets.pointed = false ∧
      (Header.ofColumns Streets.columns).find? (Claims.none (Header.ofColumns Streets.columns))
        (Scope.root.member "ΟΔΟΣ" ".") (foldName "Id") = none) ∧
    (Streets.lettered.name = nestedName "X" ["ΟΔΟΣ"] "Id" ∧
      (Scope.root.member "ΟΔΟΣ" "X").contains Streets.lettered = false) ∧
    Streets.ended.name = nestedName "." ["Α"] "Σ" ∧
      (Scope.root.member "Α" ".").nameWithin Streets.ended ≠ foldName "Σ" := by
  decide +kernel

end Unflatten
