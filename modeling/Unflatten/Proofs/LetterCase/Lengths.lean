import Unflatten.Header
import Unflatten.Proofs.LetterCase.Surroundings

/-!
# Lengths of folded names

Every character is lowered to something, and either form of the small sigma is as long as the other.
So a text in lower case is as long as its characters are one by one, which is how the characters of a
name are counted that take up a number of bytes of the folded name.
-/

set_option autoImplicit false

namespace Unflatten

namespace Text

theorem lowerExpansions_some : ∀ entry ∈ lowerExpansions, entry.2 ≠ [] := by
  decide

theorem lowerChar_some (c : Char) : lowerChar c ≠ [] := by
  unfold lowerChar changed
  split
  · simp
  · split
    · rename_i codes found
      obtain ⟨before, after, split, -⟩ := List.lookup_eq_some_iff.mp found
      have some := lowerExpansions_some (c.toNat, codes) (by rw [split]; simp)
      simpa using some
    · simp

theorem byteLength_pos {chars : List Char} (some : chars ≠ []) : 0 < byteLength chars := by
  cases chars with
  | nil => exact absurd rfl some
  | cons c rest => exact Nat.add_pos_left c.utf8Size_pos _

theorem byteLength_le_of_prefix {lead chars : List Char} (leads : lead <+: chars) :
    byteLength lead ≤ byteLength chars := by
  obtain ⟨rest, rfl⟩ := leads
  rw [byteLength_append]
  exact Nat.le_add_right _ _

/-- The bytes of the characters, each in lower case on its own. -/
def loweredLength (chars : List Char) : Nat :=
  byteLength (chars.flatMap lowerChar)

theorem loweredLength_cons (c : Char) (rest : List Char) :
    loweredLength (c :: rest) = byteLength (lowerChar c) + loweredLength rest := by
  rw [loweredLength, List.flatMap_cons, byteLength_append, loweredLength]

theorem loweredLength_append (left right : List Char) :
    loweredLength (left ++ right) = loweredLength left + loweredLength right := by
  rw [loweredLength, List.flatMap_append, byteLength_append, loweredLength, loweredLength]

theorem loweredLength_pos {chars : List Char} (some : chars ≠ []) : 0 < loweredLength chars := by
  cases chars with
  | nil => exact absurd rfl some
  | cons c rest =>
      rw [loweredLength_cons]
      exact Nat.add_pos_left (byteLength_pos (lowerChar_some c)) _

theorem byteLength_lowerFrom (before chars : List Char) :
    byteLength (lowerFrom before chars) = loweredLength chars := by
  obtain ⟨lowered, whole, same⟩ := lowerFrom_append before chars []
  rw [List.append_nil, lowerFrom, List.append_nil] at whole
  rw [whole, byteLength_sameLetters same, loweredLength]

end Text

/-! ## Folded names -/

theorem foldName_toList (name : String) : (foldName name).toList = Text.lowerChars name.toList :=
  String.toList_ofList

theorem byteLength_foldName (name : String) :
    Text.byteLength (foldName name).toList = Text.loweredLength name.toList := by
  rw [foldName_toList, Text.lowerChars, Text.byteLength_lowerFrom]

/-- The bytes of a name as it is compared. -/
def foldedLength (name : String) : Nat :=
  Text.byteLength (foldName name).toList

theorem foldedLength_pos {name : String} (some : name ≠ "") : 0 < foldedLength name := by
  rw [foldedLength, byteLength_foldName]
  exact Text.loweredLength_pos fun none => some (String.toList_eq_nil_iff.mp none)

theorem foldName_some {name : String} (some : name ≠ "") : (foldName name).toList ≠ [] := by
  intro none
  have positive := foldedLength_pos some
  rw [foldedLength, none] at positive
  exact Nat.lt_irrefl 0 positive

/-! ## Counting characters -/

theorem countFolded_cons {bytes : Nat} (some : 0 < bytes) (c : Char) (rest : List Char) :
    countFolded bytes (c :: rest) =
      countFolded (bytes - Text.byteLength (Text.lowerChar c)) rest + 1 := by
  obtain ⟨count, rfl⟩ := Nat.exists_eq_succ_of_ne_zero (Nat.ne_of_gt some)
  rfl

theorem countFolded_zero (chars : List Char) : countFolded 0 chars = 0 := by
  rw [countFolded]

theorem countFolded_lead (left right : List Char) :
    countFolded (Text.loweredLength left) (left ++ right) = left.length := by
  induction left with
  | nil => exact countFolded_zero right
  | cons c rest ih =>
      have positive := Text.loweredLength_pos (List.cons_ne_nil c rest)
      rw [List.cons_append, countFolded_cons positive, Text.loweredLength_cons,
        Nat.add_sub_cancel_left, ih, List.length_cons]

theorem countFolded_all (chars : List Char) :
    countFolded (Text.loweredLength chars) chars = chars.length := by
  have counted := countFolded_lead chars []
  rwa [List.append_nil] at counted

theorem countFolded_mono {first second : Nat} (order : first ≤ second) (chars : List Char) :
    countFolded first chars ≤ countFolded second chars := by
  induction chars generalizing first second with
  | nil =>
      cases first with
      | zero => simp [countFolded]
      | succ => simp [countFolded]
  | cons c rest ih =>
      rcases Nat.eq_zero_or_pos first with rfl | positive
      · rw [countFolded_zero]
        exact Nat.zero_le _
      · rw [countFolded_cons positive, countFolded_cons (Nat.lt_of_lt_of_le positive order)]
        exact Nat.succ_le_succ (ih (Nat.sub_le_sub_right order _))

theorem le_loweredLength_take {bytes : Nat} {chars : List Char}
    (enough : bytes ≤ Text.loweredLength chars) :
    bytes ≤ Text.loweredLength (chars.take (countFolded bytes chars)) := by
  induction chars generalizing bytes with
  | nil => rwa [List.take_nil]
  | cons c rest ih =>
      rcases Nat.eq_zero_or_pos bytes with rfl | positive
      · exact Nat.zero_le _
      · rw [Text.loweredLength_cons] at enough
        have behind := ih (Nat.sub_le_iff_le_add'.mpr enough)
        rw [countFolded_cons positive, List.take_succ_cons, Text.loweredLength_cons]
        omega

theorem loweredLength_take_lt {bytes count : Nat} {chars : List Char}
    (fewer : count < countFolded bytes chars) : Text.loweredLength (chars.take count) < bytes := by
  induction chars generalizing bytes count with
  | nil =>
      cases bytes with
      | zero => simp [countFolded] at fewer
      | succ => simp [countFolded] at fewer
  | cons c rest ih =>
      rcases Nat.eq_zero_or_pos bytes with rfl | positive
      · rw [countFolded_zero] at fewer
        exact absurd fewer (Nat.not_lt_zero _)
      · cases count with
        | zero => exact positive
        | succ count =>
            rw [countFolded_cons positive] at fewer
            have behind := ih (Nat.lt_of_succ_lt_succ fewer)
            rw [List.take_succ_cons, Text.loweredLength_cons]
            omega

end Unflatten
