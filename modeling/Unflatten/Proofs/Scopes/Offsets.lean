import Unflatten.Proofs.Flattening.Names
import Unflatten.Proofs.Scopes.Groups

/-!
# Offsets into folded names

An offset into the folded name of a column has a place in the name itself: behind as many characters
as it takes until their folds reach the offset. So the place never falls inside a character, it does
not go back as the offset goes on, and the slices of the name between such places fit together. A
slice between the folds of whole characters is what the part of the folded name there was folded
from.
-/

set_option autoImplicit false

namespace Unflatten

/-! ## Cutting text at bytes -/

namespace Text

/-- The bytes from `start` to `finish`, unless one of them falls inside a character or behind the
end. -/
def cutBytes? (start finish : Nat) (chars : List Char) : Option (List Char) :=
  (dropBytes? start chars).bind (takeBytes? (finish - start))

theorem takeBytes?_append (left right : List Char) :
    takeBytes? (byteLength left) (left ++ right) = some left := by
  induction left with
  | nil => simp [byteLength, takeBytes?]
  | cons c rest ih =>
      obtain ⟨count, size⟩ : ∃ count, c.utf8Size + byteLength rest = count + 1 :=
        Nat.exists_eq_succ_of_ne_zero (Nat.ne_of_gt (Nat.add_pos_left c.utf8Size_pos _))
      rw [byteLength, List.cons_append, size, takeBytes?, if_pos (by omega), ← size,
        Nat.add_sub_cancel_left, ih, Option.map_some]

theorem cutBytes?_append (left middle right : List Char) :
    cutBytes? (byteLength left) (byteLength (left ++ middle)) (left ++ (middle ++ right)) =
      some middle := by
  rw [cutBytes?, dropBytes?_append, Option.bind_some, byteLength_append, Nat.add_sub_cancel_left,
    takeBytes?_append]

theorem take_eq_append {first second : Nat} (order : first ≤ second) (chars : List Char) :
    chars.take second = chars.take first ++ (chars.take second).drop first := by
  have split := (List.take_append_drop first (chars.take second)).symm
  rwa [List.take_take, Nat.min_eq_left order] at split

theorem cutBytes?_take {first second : Nat} (order : first ≤ second) (chars : List Char) :
    cutBytes? (byteLength (chars.take first)) (byteLength (chars.take second)) chars =
      some ((chars.take second).drop first) := by
  have split := take_eq_append order chars
  have cut := cutBytes?_append (chars.take first) ((chars.take second).drop first)
    (chars.drop second)
  rwa [← split, ← List.append_assoc, ← split, List.take_append_drop] at cut

end Text

/-! ## Places in the name -/

namespace HeaderColumn

variable {column : HeaderColumn} {start middle finish : Nat}

/-- The offset stands between the folds of two characters of the name, or at either end. -/
def IsSeam (column : HeaderColumn) (bytes : Nat) : Prop :=
  ∃ left right, column.name.toList = left ++ right ∧ bytes = Text.loweredLength left

/-- The place of an offset: the least number of whole characters whose folds reach it. -/
structure EndsAt (column : HeaderColumn) (bytes : Nat) (left right : List Char) : Prop where
  split : column.name.toList = left ++ right
  offset : column.nameOffset bytes = Text.byteLength left
  enough : bytes ≤ Text.loweredLength left
  least : ∀ shorter, shorter <+: left → shorter ≠ left → Text.loweredLength shorter < bytes

/-- The spelling of a folded name is recovered from offsets into it. -/
structure RecoversName (column : HeaderColumn) : Prop where
  start : column.nameOffset 0 = 0
  finish : column.nameOffset (Text.byteLength column.folded.toList) =
    Text.byteLength column.name.toList
  mono : ∀ first second, first ≤ second → column.nameOffset first ≤ column.nameOffset second
  ends : ∀ bytes ≤ Text.byteLength column.folded.toList, ∃ left right,
    column.EndsAt bytes left right
  cut : ∀ start finish, Text.cutBytes? (column.nameOffset start)
    (max (column.nameOffset start) (column.nameOffset finish)) column.name.toList =
      some (column.nameSlice start finish).toList
  append : ∀ start middle finish, start ≤ middle → middle ≤ finish →
    column.nameSlice start middle ++ column.nameSlice middle finish =
      column.nameSlice start finish
  whole : column.nameSlice 0 (Text.byteLength column.folded.toList) = column.name
  folds : ∀ start finish, column.IsSeam start → column.IsSeam finish → start ≤ finish →
    ∃ folded, Text.cutBytes? start finish column.folded.toList = some folded ∧
      List.Forall₂ Text.SameLetter
        ((column.nameSlice start finish).toList.flatMap Text.lowerChar) folded

theorem nameOffset_mono (order : start ≤ finish) :
    column.nameOffset start ≤ column.nameOffset finish := by
  have fewer := countFolded_mono order column.name.toList
  exact Text.byteLength_le_of_prefix (List.take_prefix_take_left fewer)

theorem endsAt_take (inside : start ≤ Text.loweredLength column.name.toList) :
    column.EndsAt start (column.name.toList.take (countFolded start column.name.toList))
      (column.name.toList.drop (countFolded start column.name.toList)) := by
  refine ⟨(List.take_append_drop _ _).symm, rfl, le_loweredLength_take inside,
    fun shorter leads differs => ?_⟩
  have fewer : shorter.length < countFolded start column.name.toList := by
    have short := Nat.lt_of_le_of_ne leads.length_le fun same => differs (leads.eq_of_length same)
    rw [List.length_take] at short
    exact Nat.lt_of_lt_of_le short (Nat.min_le_left _ _)
  have isTake : shorter = column.name.toList.take shorter.length :=
    List.prefix_iff_eq_take.mp (leads.trans (List.take_prefix _ _))
  rw [isTake]
  exact loweredLength_take_lt fewer

/-- Where the places are the other way round, the slice is empty. -/
theorem cutBytes?_nameOffset (column : HeaderColumn) (start finish : Nat) :
    Text.cutBytes? (column.nameOffset start)
      (max (column.nameOffset start) (column.nameOffset finish)) column.name.toList =
        some (column.nameSlice start finish).toList := by
  rw [nameSlice, String.toList_ofList]
  rcases Nat.le_total start finish with order | order
  · rw [Nat.max_eq_right (nameOffset_mono order)]
    exact Text.cutBytes?_take (countFolded_mono order _) _
  · have empty : (column.name.toList.take (countFolded finish column.name.toList)).drop
        (countFolded start column.name.toList) = [] := by
      refine List.drop_eq_nil_of_le (Nat.le_trans (List.length_take_le _ _) ?_)
      exact countFolded_mono order _
    rw [Nat.max_eq_left (nameOffset_mono order), empty, nameOffset,
      Text.cutBytes?_take (Nat.le_refl _), List.drop_eq_nil_of_le (List.length_take_le _ _)]

theorem nameSlice_append (first : start ≤ middle) (second : middle ≤ finish) :
    column.nameSlice start middle ++ column.nameSlice middle finish =
      column.nameSlice start finish := by
  have left := countFolded_mono first column.name.toList
  have right := countFolded_mono second column.name.toList
  apply String.toList_injective
  rw [String.toList_append, nameSlice, nameSlice, nameSlice, String.toList_ofList,
    String.toList_ofList, String.toList_ofList]
  -- With what stands before the start, both sides are the name up to the same end.
  refine (List.append_right_inj
    (column.name.toList.take (countFolded start column.name.toList))).mp ?_
  rw [← List.append_assoc, ← Text.take_eq_append left, ← Text.take_eq_append right,
    ← Text.take_eq_append (Nat.le_trans left right)]

theorem nameSlice_folds (isFolded : column.IsFolded) (begins : column.IsSeam start)
    (ends : column.IsSeam finish) (order : start ≤ finish) :
    ∃ folded, Text.cutBytes? start finish column.folded.toList = some folded ∧
      List.Forall₂ Text.SameLetter
        ((column.nameSlice start finish).toList.flatMap Text.lowerChar) folded := by
  obtain ⟨left, rest, split, rfl⟩ := begins
  obtain ⟨lead, right, splitAgain, rfl⟩ := ends
  have leads : left <+: lead := by
    rcases List.prefix_or_prefix_of_prefix ⟨rest, split.symm⟩ ⟨right, splitAgain.symm⟩ with
      leads | ⟨more, rfl⟩
    · exact leads
    · rw [Text.loweredLength_append] at order
      have none : more = [] := by
        by_contra some
        have positive := Text.loweredLength_pos some
        omega
      exact ⟨[], by rw [none, List.append_nil, List.append_nil]⟩
  obtain ⟨middle, rfl⟩ := leads
  rw [List.append_assoc] at splitAgain
  have slice : (column.nameSlice (Text.loweredLength left)
      (Text.loweredLength (left ++ middle))).toList = middle := by
    rw [nameSlice, String.toList_ofList, splitAgain, countFolded_lead,
      ← List.append_assoc, countFolded_lead, List.take_left, List.drop_left]
  obtain ⟨first, whole, sameFirst⟩ := Text.lowerFrom_append [] left (middle ++ right)
  obtain ⟨folded, behind, same⟩ :=
    Text.lowerFrom_append (left.reverse ++ []) middle right
  have firstLength := Text.byteLength_sameLetters sameFirst
  have foldedLength := Text.byteLength_sameLetters same
  refine ⟨folded, ?_, by rwa [slice]⟩
  have cut := Text.cutBytes?_append first folded
    (Text.lowerFrom (middle.reverse ++ (left.reverse ++ [])) right)
  rw [Text.byteLength_append, firstLength, foldedLength, ← behind, ← whole] at cut
  rw [isFolded, foldName_toList, splitAgain, Text.lowerChars, Text.loweredLength_append]
  exact cut

end HeaderColumn

/-- Every column of a header recovers its name from offsets into the folded one. -/
theorem Header.ofColumns_recoversName {columns : List Column} {column : HeaderColumn}
    (member : column ∈ ofColumns columns) : column.RecoversName := by
  have isFolded := ofColumns_isFolded member
  refine ⟨?_, ?_, fun first second order => HeaderColumn.nameOffset_mono order,
    fun bytes inside => ?_, column.cutBytes?_nameOffset,
    fun start middle finish first second => HeaderColumn.nameSlice_append first second,
    isFolded.nameSlice,
    fun start finish begins ends order => HeaderColumn.nameSlice_folds isFolded begins ends order⟩
  · rw [HeaderColumn.nameOffset, countFolded_zero, List.take_zero, Text.byteLength]
  · rw [HeaderColumn.nameOffset, isFolded.byteLength, countFolded_all, List.take_length]
  · rw [isFolded.byteLength] at inside
    exact ⟨_, _, HeaderColumn.endsAt_take inside⟩

/-! ## Islands

The first letter has two bytes and its fold has three, and the sigma ends a word.
-/

namespace Islands

def columns : List Column :=
  [Column.declare "İΣ_Id" .string]

def islet : HeaderColumn :=
  ⟨0, "İΣ_Id", "i\u0307ς_id", .string, "string"⟩

example : [0, 1, 2, 3, 4, 5, 6].map islet.nameOffset = [0, 2, 2, 2, 4, 4, 5] := by
  decide

end Islands

theorem Islands.islet_recovered : Islands.islet ∈ Header.ofColumns Islands.columns ∧
    Islands.islet.RecoversName := by
  have header : Header.ofColumns Islands.columns = [Islands.islet] := by decide +kernel
  have member : Islands.islet ∈ Header.ofColumns Islands.columns := by simp [header]
  exact ⟨member, Header.ofColumns_recoversName member⟩

end Unflatten
