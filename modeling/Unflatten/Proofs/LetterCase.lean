import Mathlib.Data.List.Pairwise
import Unflatten.Header
import Unflatten.Target.Basic

/-!
# Names and letter case

Names that are equal up to the case of their ASCII letters have the same fold, and names that
consist of ASCII characters are folded character by character.
-/

set_option autoImplicit false

namespace Unflatten

namespace Text

theorem equalIgnoringCase_refl (text : String) : equalIgnoringCase text text = true := by
  rw [equalIgnoringCase_iff]

theorem equalIgnoringCase_symm {left right : String} (same : equalIgnoringCase left right = true) :
    equalIgnoringCase right left = true := by
  rw [equalIgnoringCase_iff] at same ⊢
  exact same.symm

theorem equalIgnoringCase_comm (left right : String) :
    equalIgnoringCase left right = equalIgnoringCase right left := by
  rw [Bool.eq_iff_iff]
  exact ⟨equalIgnoringCase_symm, equalIgnoringCase_symm⟩

theorem equalIgnoringCase_trans {left middle right : String}
    (first : equalIgnoringCase left middle = true)
    (second : equalIgnoringCase middle right = true) : equalIgnoringCase left right = true := by
  rw [equalIgnoringCase_iff] at first second ⊢
  exact first.trans second

theorem lowerFrom_ascii {before chars : List Char} (ascii : ∀ c ∈ chars, c.toNat < 0x80) :
    lowerFrom before chars = chars.map Char.toLower := by
  induction chars generalizing before with
  | nil => rfl
  | cons c rest ih =>
      have low := ascii c (by simp)
      have plain : c ≠ 'Σ' := by
        rintro rfl
        exact absurd low (by decide)
      rw [lowerFrom, if_neg plain, lowerChar, if_pos low, ih fun other member =>
        ascii other (by simp [member])]
      rfl

/-! ## The case of ASCII letters -/

/-- Whether two characters are treated alike in lower case, the letters around them included. -/
structure SameCase (c d : Char) : Prop where
  cased : isCased c = isCased d
  ignorable : isIgnorable c = isIgnorable d
  lowered : lowerChar c = lowerChar d
  sigma : c = 'Σ' ↔ d = 'Σ'

theorem ignorableRanges_letters : ∀ range ∈ ignorableRanges,
    range.2 < 0x41 ∨ (0x5A < range.1 ∧ range.2 < 0x61) ∨ 0x7A < range.1 := by
  decide +kernel

theorem code_of_upper {c : Char} (upper : c.isUpper = true) :
    0x41 ≤ c.toNat ∧ c.toNat ≤ 0x5A :=
  of_decide_eq_true upper

theorem code_of_lower {c : Char} (lower : c.isLower = true) :
    0x61 ≤ c.toNat ∧ c.toNat ≤ 0x7A := by
  obtain ⟨first, last⟩ := Bool.and_eq_true_iff.mp lower
  exact ⟨of_decide_eq_true first, of_decide_eq_true last⟩

theorem isIgnorable_letter {c : Char} (letter : c.isAlpha = true) : isIgnorable c = false := by
  rw [isIgnorable, InRanges, List.any_eq_false]
  intro range member inside
  have apart := ignorableRanges_letters range member
  simp only [Bool.and_eq_true, decide_eq_true_eq] at inside
  rcases Bool.or_eq_true_iff.mp letter with upper | lower
  · have bounds := code_of_upper upper
    omega
  · have bounds := code_of_lower lower
    omega

theorem toLower_capital : ∀ code : Fin 128, (Char.ofNat code).isUpper = true →
    (Char.ofNat code).isAlpha = true ∧ (Char.ofNat code).toLower.isAlpha = true ∧
      isCased (Char.ofNat code).toLower = isCased (Char.ofNat code) ∧
      lowerChar (Char.ofNat code).toLower = lowerChar (Char.ofNat code) ∧
      ((Char.ofNat code).toLower = 'Σ' ↔ Char.ofNat code = 'Σ') := by
  decide +kernel

theorem toLower_sameCase (c : Char) : SameCase c.toLower c := by
  by_cases capital : c.isUpper = true
  · have low : c.toNat < 128 := by
      have bounds := code_of_upper capital
      omega
    have facts := toLower_capital ⟨c.toNat, low⟩
    simp only [Char.ofNat_toNat] at facts
    obtain ⟨letter, lowLetter, cased, lowered, sigma⟩ := facts capital
    have ignorable : isIgnorable c.toLower = isIgnorable c := by
      rw [isIgnorable_letter letter, isIgnorable_letter lowLetter]
    exact ⟨cased, ignorable, lowered, sigma⟩
  · have kept : c.toLower = c := dif_neg fun upper => capital (decide_eq_true upper)
    rw [kept]
    exact ⟨rfl, rfl, rfl, Iff.rfl⟩

theorem leadsToCased_toLower (chars : List Char) :
    leadsToCased (chars.map Char.toLower) = leadsToCased chars := by
  unfold leadsToCased
  induction chars with
  | nil => rfl
  | cons c rest ih =>
      have same := toLower_sameCase c
      rw [List.map_cons, List.dropWhile_cons, List.dropWhile_cons, same.ignorable]
      by_cases skipped : isIgnorable c = true
      · rw [if_pos skipped, if_pos skipped]
        exact ih
      · rw [if_neg skipped, if_neg skipped]
        exact same.cased

theorem lowerFrom_toLower (before chars : List Char) :
    lowerFrom (before.map Char.toLower) (chars.map Char.toLower) = lowerFrom before chars := by
  induction chars generalizing before with
  | nil => rfl
  | cons c rest ih =>
      have same := toLower_sameCase c
      have others := ih (c :: before)
      rw [List.map_cons] at others
      rw [List.map_cons, lowerFrom, lowerFrom, others]
      simp only [leadsToCased_toLower, same.sigma, same.lowered]

theorem lower_asciiLower (text : String) : lower (asciiLower text) = lower text := by
  rw [lower, lower, asciiLower, String.toList_ofList, lowerChars, lowerChars]
  exact congrArg String.ofList (lowerFrom_toLower [] text.toList)

end Text

theorem foldName_congr {name other : String}
    (same : Text.equalIgnoringCase name other = true) : foldName name = foldName other := by
  rw [Text.equalIgnoringCase_iff] at same
  rw [foldName, foldName, ← Text.lower_asciiLower, same, Text.lower_asciiLower]

theorem foldName_ascii {name : String} (ascii : ∀ c ∈ name.toList, c.toNat < 0x80) :
    (foldName name).toList = name.toList.map Char.toLower := by
  rw [foldName, Text.lower, String.toList_ofList, Text.lowerChars, Text.lowerFrom_ascii ascii]

theorem Text.eq_of_distinct {α : Type} {name : α → String} {items : List α} {one other : α}
    (distinct : items.Pairwise fun one other =>
      equalIgnoringCase (name one) (name other) = false)
    (isOne : one ∈ items) (isOther : other ∈ items)
    (same : equalIgnoringCase (name one) (name other) = true) : one = other := by
  by_cases identical : one = other
  · exact identical
  · have apart : Std.Symm fun one other : α =>
        equalIgnoringCase (name one) (name other) = false := by
      exact ⟨fun one other differs => (equalIgnoringCase_comm _ _).trans differs⟩
    rw [distinct.forall isOne isOther identical] at same
    cases same

theorem PropertyOf.eq_of_distinct {properties : List Property} {one other : Property}
    (distinct : properties.Pairwise fun one other =>
      Text.equalIgnoringCase one.name other.name = false)
    (isOne : one ∈ properties) (isOther : other ∈ properties)
    (same : Text.equalIgnoringCase one.name other.name = true) : one = other :=
  Text.eq_of_distinct distinct isOne isOther same

end Unflatten
