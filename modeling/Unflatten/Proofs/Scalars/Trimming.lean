import Mathlib.Data.List.DropRight
import Unflatten.Proofs.LetterCase
import Unflatten.Proofs.Scalars.Integers

/-!
# Blanks and letter case around text

Trimming takes away the blanks in front of a text and behind it, and nothing else. It does not
depend on the case of letters.
-/

set_option autoImplicit false

namespace Unflatten

namespace Text

variable {before core behind chars digits : List Char}

/-! ## Blanks -/

theorem trimStart_blanks (blank : ∀ c ∈ before, isBlank c = true) (rest : List Char) :
    trimStart (before ++ rest) = trimStart rest :=
  List.dropWhile_append_of_pos blank

theorem trimEnd_blanks (blank : ∀ c ∈ behind, isBlank c = true) (front : List Char) :
    trimEnd (front ++ behind) = trimEnd front := by
  unfold trimEnd
  rw [List.reverse_append, List.dropWhile_append_of_pos]
  intro c member
  exact blank c (List.mem_reverse.mp member)

theorem trimChars_surrounded (blankBefore : ∀ c ∈ before, isBlank c = true)
    (blankBehind : ∀ c ∈ behind, isBlank c = true) :
    trimChars (before ++ core ++ behind) = trimChars core := by
  rw [trimChars, trimChars, List.append_assoc, trimStart_blanks blankBefore, trimStart, trimStart,
    List.dropWhile_append]
  split
  · rename_i allBlank
    have nothing : behind.dropWhile isBlank = [] := List.dropWhile_eq_nil_iff.mpr blankBehind
    rw [nothing, List.isEmpty_iff.mp allBlank]
  · exact trimEnd_blanks blankBehind _

theorem dropWhile_none {p : Char → Bool} (none : ∀ c ∈ chars, p c = false) :
    chars.dropWhile p = chars := by
  refine List.dropWhile_eq_self_iff.mpr fun inside => ?_
  simp [none _ (List.getElem_mem inside)]

theorem dropWhile_none_reverse {p : Char → Bool} (none : ∀ c ∈ chars, p c = false) :
    (chars.reverse.dropWhile p).reverse = chars := by
  rw [dropWhile_none fun c member => none c (List.mem_reverse.mp member), List.reverse_reverse]

theorem trimChars_solid (solid : ∀ c ∈ chars, isBlank c = false) : trimChars chars = chars := by
  rw [trimChars, trimStart, dropWhile_none solid, trimEnd, dropWhile_none_reverse solid]

theorem trimChars_between (front : before ≠ []) (solidFront : ∀ c ∈ before, isBlank c = false)
    (back : behind ≠ []) (solidBack : ∀ c ∈ behind, isBlank c = false) (middle : List Char) :
    trimChars (before ++ middle ++ behind) = before ++ middle ++ behind := by
  have start : trimStart (before ++ middle ++ behind) = before ++ middle ++ behind := by
    cases before with
    | nil => exact absurd rfl front
    | cons c more =>
      have solid := solidFront c (by simp)
      simp [trimStart, solid]
  have finish : trimEnd (before ++ middle ++ behind) = before ++ middle ++ behind := by
    refine List.rdropWhile_eq_self_iff.mpr fun some => ?_
    rw [List.getLast_append_of_ne_nil some back]
    simp [solidBack _ (List.getLast_mem back)]
  rw [trimChars, start, finish]

/-! ## Letter case -/

theorem isBlank_graphic {c : Char} (first : 0x21 ≤ c.toNat) (last : c.toNat ≤ 0x7E) :
    isBlank c = false := by
  simp [isBlank, InRanges, blankRanges]
  omega

theorem code_of_letter {c : Char} (letter : c.isAlpha = true) :
    (0x41 ≤ c.toNat ∧ c.toNat ≤ 0x5A) ∨ 0x61 ≤ c.toNat ∧ c.toNat ≤ 0x7A := by
  rcases Bool.or_eq_true_iff.mp letter with upper | lower
  · exact Or.inl (code_of_upper upper)
  · exact Or.inr (code_of_lower lower)

theorem isBlank_letter {c : Char} (letter : c.isAlpha = true) : isBlank c = false := by
  have code := code_of_letter letter
  exact isBlank_graphic (by omega) (by omega)

/-- A capital and its small letter are letters; every other character is its own lower case. -/
theorem toLower_cases (c : Char) :
    c.isAlpha = true ∧ c.toLower.isAlpha = true ∨ c.toLower = c := by
  by_cases capital : c.isUpper = true
  · have low : c.toNat < 128 := by
      have bounds := code_of_upper capital
      omega
    have facts := toLower_capital ⟨c.toNat, low⟩
    simp only [Char.ofNat_toNat] at facts
    exact Or.inl ⟨(facts capital).1, (facts capital).2.1⟩
  · exact Or.inr (dif_neg fun upper => capital (decide_eq_true upper))

theorem isBlank_toLower (c : Char) : isBlank c.toLower = isBlank c := by
  rcases toLower_cases c with ⟨letter, lowLetter⟩ | kept
  · rw [isBlank_letter letter, isBlank_letter lowLetter]
  · rw [kept]

theorem eq_of_toLower {c d : Char} (same : c.toLower = d.toLower) (other : d.isAlpha = false) :
    c = d := by
  rcases toLower_cases d with ⟨letter, -⟩ | keptOther
  · rw [other] at letter
    cases letter
  · rcases toLower_cases c with ⟨-, lowLetter⟩ | kept
    · rw [same, keptOther, other] at lowLetter
      cases lowLetter
    · rw [← kept, same, keptOther]

theorem trimChars_toLower (chars : List Char) :
    trimChars (chars.map Char.toLower) = (trimChars chars).map Char.toLower := by
  have same : isBlank ∘ Char.toLower = isBlank := funext isBlank_toLower
  unfold trimChars trimEnd trimStart
  rw [List.dropWhile_map, same, ← List.map_reverse, List.dropWhile_map, same, List.map_reverse]

theorem eq_of_sameLower (same : chars.map Char.toLower = digits.map Char.toLower)
    (letterless : ∀ c ∈ digits, c.isAlpha = false) : chars = digits := by
  induction chars generalizing digits with
  | nil => simpa using same
  | cons c rest ih =>
    cases digits with
    | nil => simp at same
    | cons d others =>
      obtain ⟨here, there⟩ := List.cons.inj same
      rw [eq_of_toLower here (letterless d (by simp)),
        ih there fun e member => letterless e (by simp [member])]

end Text

/-! ## The text of numbers -/

namespace Digits

theorem isAlpha_digit {c : Char} (digit : isDigit c = true) : c.isAlpha = false := by
  have bounds := isDigit_iff.mp digit
  rw [Bool.eq_false_iff]
  intro letter
  have code := Text.code_of_letter letter
  omega

theorem isBlank_digit {c : Char} (digit : isDigit c = true) : Text.isBlank c = false := by
  have bounds := isDigit_iff.mp digit
  exact Text.isBlank_graphic (by omega) (by omega)

theorem mem_ofInt {n : Int} {c : Char} (member : c ∈ ofInt n) : c = '-' ∨ isDigit c = true := by
  unfold ofInt at member
  split at member
  · rcases List.mem_cons.mp member with sign | digit
    · exact Or.inl sign
    · exact Or.inr (isDigit_of_mem_ofNat digit)
  · exact Or.inr (isDigit_of_mem_ofNat member)

theorem ofInt_letterless (n : Int) : ∀ c ∈ ofInt n, c.isAlpha = false := by
  intro c member
  rcases mem_ofInt member with rfl | digit
  · rfl
  · exact isAlpha_digit digit

theorem trimChars_ofInt (n : Int) : Text.trimChars (ofInt n) = ofInt n := by
  apply Text.trimChars_solid
  intro c member
  rcases mem_ofInt member with rfl | digit
  · rfl
  · exact isBlank_digit digit

end Digits

end Unflatten
