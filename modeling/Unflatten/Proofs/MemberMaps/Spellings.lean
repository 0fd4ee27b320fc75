import Unflatten.Proofs.LetterCase.Surroundings
import Unflatten.Proofs.Planning.Reading
import Unflatten.Proofs.Planning.Scopes
import Unflatten.Proofs.Scopes.Groups

/-!
# Spellings within a scope

Columns fall into groups by what their folded names say behind the lead, but a group is called by
the spelling of that part. Two groups of one scope are called alike only if their spellings leave
out different parts of the folded names: the column of exactly the member's name keeps its whole
name, and the lead may end inside the fold of `İ`, the only letter whose fold is longer than one
character.
-/

set_option autoImplicit false

namespace Unflatten

/-! ## The end of a lead -/

namespace Text

/-- The fold of as many characters as it takes to fill so many bytes. -/
def cover (bytes : Nat) (before chars : List Char) : List Char :=
  (lowerFrom before chars).take ((chars.take (countFolded bytes chars)).flatMap lowerChar).length

variable {before chars lead : List Char}

theorem cover_zero : cover 0 before chars = [] := by
  rw [cover, countFolded, List.take_zero, List.flatMap_nil, List.length_nil, List.take_zero]

theorem cover_cons {bytes : Nat} (some : 0 < bytes) (c : Char) : ∃ first,
    lowerFrom before (c :: chars) = first ++ lowerFrom (c :: before) chars ∧
      (first.length = 1 ∨ first = ['i', '\u0307']) ∧
      cover bytes before (c :: chars) =
        first ++ cover (bytes - byteLength first) (c :: before) chars := by
  obtain ⟨first, split, same⟩ := lowerFrom_cons before c chars
  have length := same.length_eq.symm
  have bytes := byteLength_sameLetters same
  refine ⟨first, split, ?_, ?_⟩
  · rcases lowerChar_cases c with rfl | ⟨d, lowered, -⟩
    · have whole : lowerFrom before ('İ' :: chars) =
          ['i', '\u0307'] ++ lowerFrom ('İ' :: before) chars := by
        rw [lowerFrom, if_neg (by decide), lowerChar_dotted]
      rw [lowerChar_dotted] at length
      exact Or.inr (List.append_inj (split.symm.trans whole) length).1
    · exact Or.inl (length.trans (congrArg List.length lowered))
  · rw [cover, split, countFolded_cons some, List.take_succ_cons, List.flatMap_cons,
      List.length_append, ← length, ← bytes, List.take_length_add_append, cover]

/-- A lead ends where the fold of a character ends, or else inside the fold of `İ`. -/
theorem cover_lead (leads : lead <+: lowerFrom before chars) :
    cover (byteLength lead) before chars = lead ∨
      (cover (byteLength lead) before chars = lead ++ ['\u0307'] ∧
        lead.getLast? = some 'i') := by
  induction chars generalizing before lead with
  | nil =>
      obtain rfl := List.prefix_nil.mp leads
      exact Or.inl rfl
  | cons c rest ih =>
      by_cases empty : lead = []
      · rw [empty]
        exact Or.inl cover_zero
      obtain ⟨first, split, short, covered⟩ := cover_cons (byteLength_pos empty) c
      rw [split] at leads
      rw [covered]
      rcases List.prefix_or_prefix_of_prefix leads (List.prefix_append first _) with
        within | ⟨behind, rfl⟩
      · -- The lead ends with or inside the fold of this character.
        have ended : byteLength lead - byteLength first = 0 := by
          obtain ⟨more, rfl⟩ := within
          rw [byteLength_append, Nat.sub_eq_zero_of_le (Nat.le_add_right _ _)]
        rw [ended, cover_zero, List.append_nil]
        rcases short with single | rfl
        · have some : 0 < lead.length := List.length_pos_iff.mpr empty
          exact Or.inl (within.eq_of_length_le (single.trans_le some)).symm
        · rcases List.prefix_cons_iff.mp within with none | ⟨more, rfl, dotted⟩
          · exact absurd none empty
          rcases List.prefix_cons_iff.mp dotted with rfl | ⟨more, rfl, none⟩
          · exact Or.inr ⟨rfl, rfl⟩
          · rw [List.prefix_nil.mp none]
            exact Or.inl rfl
      · rw [List.prefix_append_right_inj] at leads
        rw [byteLength_append, Nat.add_sub_cancel_left]
        rcases ih leads with same | ⟨dotted, ends⟩
        · exact Or.inl (congrArg (first ++ ·) same)
        · refine Or.inr ⟨by rw [dotted, List.append_assoc], ?_⟩
          rw [List.getLast?_append, ends]
          rfl

end Text

namespace Scope

variable {scope : Scope} {first second column : HeaderColumn}

/-- How many characters of the name its spelling leaves out. -/
def leftOutCount (scope : Scope) (column : HeaderColumn) : Nat :=
  if scope.exact == some column.folded then 0
  else countFolded (Text.byteLength scope.lead.toList) column.name.toList

/-- What these characters are in the folded name. -/
def leftOut (scope : Scope) (column : HeaderColumn) : List Char :=
  let chars := column.name.toList.take (scope.leftOutCount column)
  column.folded.toList.take (chars.flatMap Text.lowerChar).length

/-- Columns of which the spellings leave out different parts are spelt differently. -/
def SpeltApart (scope : Scope) (columns : List HeaderColumn) : Prop :=
  ∀ first ∈ columns, ∀ second ∈ columns, scope.leftOut first ≠ scope.leftOut second →
    scope.spellingWithin first ≠ scope.spellingWithin second

instance (scope : Scope) (columns : List HeaderColumn) : Decidable (scope.SpeltApart columns) :=
  inferInstanceAs (Decidable (∀ first ∈ columns, ∀ second ∈ columns, _ → _))

theorem spellingWithin_eq (isFolded : column.IsFolded) :
    scope.spellingWithin column =
      String.ofList (column.name.toList.drop (scope.leftOutCount column)) := by
  rw [spellingWithin, leftOutCount]
  split
  · rw [List.drop_zero, String.ofList_toList]
  · exact isFolded.nameSlice_from _

theorem folded_eq (scope : Scope) (isFolded : column.IsFolded) : ∃ before,
    column.folded.toList = scope.leftOut column ++
      Text.lowerFrom before (scope.spellingWithin column).toList ∧
        Text.leadsToCased before = Text.leadsToCased (scope.leftOut column).reverse := by
  let chars := column.name.toList
  let count := scope.leftOutCount column
  obtain ⟨lowered, whole, same⟩ :=
    Text.lowerFrom_append [] (chars.take count) (chars.drop count)
  have isLowered : column.folded.toList =
      Text.lowerFrom [] (chars.take count ++ chars.drop count) := by
    rw [isFolded, foldName, Text.lower, String.toList_ofList, List.take_append_drop]
    rfl
  have isLeftOut : scope.leftOut column = lowered := by
    rw [leftOut, isLowered, whole, same.length_eq]
    exact List.take_left
  refine ⟨(chars.take count).reverse ++ [], ?_, ?_⟩
  · rw [isLowered, whole, isLeftOut, spellingWithin_eq isFolded, String.toList_ofList]
  · rw [isLeftOut, ← Text.leadsToCased_lowered same [], List.append_nil]

theorem folded_unique (firstFolded : first.IsFolded) (secondFolded : second.IsFolded)
    (leftOut : scope.leftOut first = scope.leftOut second)
    (spelling : scope.spellingWithin first = scope.spellingWithin second) :
    first.folded = second.folded := by
  obtain ⟨before, isFirst, sees⟩ := folded_eq scope firstFolded
  obtain ⟨others, isSecond, seesOthers⟩ := folded_eq scope secondFolded
  have alike : Text.leadsToCased before = Text.leadsToCased others := by
    rw [sees, seesOthers, leftOut]
  apply String.toList_injective
  rw [isFirst, isSecond, leftOut, spelling, Text.lowerFrom_congr alike]

end Scope

/-- The spelling of a column leaves out the lead, and the dot of an `İ` in which the lead ends;
that of the member's own column leaves out nothing. -/
theorem Scope.leftOut_cases {scope : Scope} {column : HeaderColumn} (isFolded : column.IsFolded)
    (covers : scope.Covers column) :
    (scope.exact = some column.folded ∧ scope.leftOut column = []) ∨
      scope.leftOut column = scope.lead.toList ∨
      (scope.leftOut column = scope.lead.toList ++ ['\u0307'] ∧
        scope.lead.toList.getLast? = some 'i') := by
  by_cases own : scope.exact = some column.folded
  · refine Or.inl ⟨own, ?_⟩
    rw [leftOut, leftOutCount, if_pos (beq_iff_eq.mpr own)]
    rfl
  · have isLowered : column.folded.toList = Text.lowerFrom [] column.name.toList := by
      rw [isFolded, foldName, Text.lower, String.toList_ofList]
      rfl
    have leads : scope.lead.toList <+: Text.lowerFrom [] column.name.toList := by
      rw [← isLowered]
      exact List.isPrefixOf_iff_prefix.mp (covers.2.resolve_left own)
    rw [leftOut, leftOutCount, if_neg (by rwa [beq_iff_eq]), isLowered]
    exact Or.inr (Text.cover_lead leads)

theorem Header.available_speltApart {header : Header} {claims : Claims} {scope : Scope}
    (folded : ∀ column ∈ header, column.IsFolded)
    (notOwn : ∀ column ∈ header.available claims scope, scope.exact ≠ some column.folded)
    (ends : scope.lead.toList.getLast? ≠ some 'i') :
    scope.SpeltApart (header.available claims scope) := by
  have isLead : ∀ column ∈ header.available claims scope,
      scope.leftOut column = scope.lead.toList := by
    intro column member
    obtain ⟨inside, covers⟩ := Header.mem_available member
    rcases Scope.leftOut_cases (folded column inside) covers with ⟨own, -⟩ | isLead | ⟨-, dotted⟩
    · exact absurd own (notOwn column member)
    · exact isLead
    · exact absurd dotted ends
  intro first isFirst second isSecond differs
  exact absurd ((isLead first isFirst).trans (isLead second isSecond).symm) differs

/-! ## Groups -/

/-- Groups of different local names, each called by one of the columns. -/
structure CalledBy (scope : Scope) (columns : List HeaderColumn) (groups : List Namesakes) :
    Prop where
  distinct : (groups.map Namesakes.localName).Nodup
  called : ∀ group ∈ groups, ∃ column ∈ columns, group.localName = scope.nameWithin column ∧
    group.display = scope.spellingWithin column

namespace CalledBy

variable {scope : Scope} {columns : List HeaderColumn} {groups : List Namesakes}

theorem display_nodup (isCalled : CalledBy scope columns groups)
    (folded : ∀ column ∈ columns, column.IsFolded) (apart : scope.SpeltApart columns) :
    (groups.map Namesakes.display).Nodup := by
  refine List.Nodup.map_on (fun one isOne other isOther same => ?_)
    (List.Nodup.of_map _ isCalled.distinct)
  obtain ⟨first, isFirst, firstName, firstDisplay⟩ := isCalled.called one isOne
  obtain ⟨second, isSecond, secondName, secondDisplay⟩ := isCalled.called other isOther
  have spelling : scope.spellingWithin first = scope.spellingWithin second := by
    rw [← firstDisplay, ← secondDisplay, same]
  have leftOut : scope.leftOut first = scope.leftOut second := by
    by_contra differs
    exact apart first isFirst second isSecond differs spelling
  have sameName : one.localName = other.localName := by
    rw [firstName, secondName, Scope.nameWithin, Scope.nameWithin,
      Scope.folded_unique (folded first isFirst) (folded second isSecond) leftOut spelling]
  exact List.inj_on_of_nodup_map isCalled.distinct isOne isOther sameName

end CalledBy

theorem Header.namesakes_calledBy (header : Header) (claims : Claims) (scope : Scope) :
    CalledBy scope (header.available claims scope) (header.namesakes claims scope) := by
  have grouped := header.namesakes_grouped claims scope
  refine ⟨grouped.distinct, fun group member => ?_⟩
  obtain ⟨first, found, display⟩ := grouped.spelt group member
  have named := List.find?_some found
  exact ⟨first, List.mem_of_find?_eq_some found, (beq_iff_eq.mp named).symm, display⟩

end Unflatten
