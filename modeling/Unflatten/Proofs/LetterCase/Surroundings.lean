import Mathlib.Data.List.Chain
import Mathlib.Data.List.Forall2
import Unflatten.Proofs.LetterCase

/-!
# Letter case and its surroundings

Characters are lowered one by one, but for the form of the capital sigma. A character has letter
case, or is looked through on the way to a sigma, exactly if this holds of what it is lowered to; of
the one character that is lowered to two, the second one is looked through. So what is in lower case
already tells as much about a sigma behind it as the characters that it came from.

A text is lowered like its pieces exactly if every sigma ends a word in the text and in its piece
alike. A character that is neither a letter with case nor looked through hides what is behind it, and
pieces that have such characters between them are lowered each on its own.
-/

set_option autoImplicit false

namespace Unflatten.Text

/-! ## Ranges of codes -/

section Ranges

variable {low high code : Nat} {ranges : List (Nat × Nat)}

/-- Whether one of the ranges holds all codes from `low` to `high`. -/
def holdAll (low high : Nat) (ranges : List (Nat × Nat)) : Bool :=
  ranges.any fun range => range.1.ble low && high.ble range.2

/-- Whether ascending ranges hold no code from `low` to `high`. -/
def leaveOut (low high : Nat) : List (Nat × Nat) → Bool
  | [] => true
  | range :: rest => bif range.2.blt low then leaveOut low high rest else high.blt range.1

theorem inRanges_of_holdAll (held : holdAll low high ranges = true) (first : low ≤ code)
    (last : code ≤ high) : InRanges ranges code = true := by
  obtain ⟨range, member, holds⟩ := List.any_eq_true.mp held
  refine List.any_eq_true.mpr ⟨range, member, ?_⟩
  simp only [Bool.and_eq_true, decide_eq_true_eq, Nat.ble_eq] at holds ⊢
  omega

theorem inRanges_of_leaveOut (ascending : ranges.Pairwise fun one other => one.1 ≤ other.1)
    (out : leaveOut low high ranges = true) (first : low ≤ code) (last : code ≤ high) :
    InRanges ranges code = false := by
  induction ranges with
  | nil => rfl
  | cons range rest ih =>
      obtain ⟨least, ascendingRest⟩ := List.pairwise_cons.mp ascending
      rw [leaveOut] at out
      rw [InRanges, List.any_eq_false]
      intro other member inside
      simp only [Bool.and_eq_true, decide_eq_true_eq] at inside
      cases below : range.2.blt low with
      | true =>
        rw [below, cond_true] at out
        have below := Nat.blt_eq.mp below
        rcases List.mem_cons.mp member with rfl | isRest
        · omega
        · refine List.any_eq_false.mp (ih ascendingRest out) other isRest ?_
          simpa using inside
      | false =>
        rw [below, cond_false] at out
        have above := Nat.blt_eq.mp out
        rcases List.mem_cons.mp member with rfl | isRest
        · omega
        · have further := least other isRest
          omega

end Ranges

/-! ## The tables of letters -/

theorem ignorableRanges_ascending :
    ignorableRanges.Pairwise fun one other => one.1 ≤ other.1 := by
  have transitive : IsTrans (Nat × Nat) fun one other => one.1 ≤ other.1 :=
    ⟨fun _ _ _ first second => Nat.le_trans first second⟩
  have chain : ignorableRanges.IsChain fun one other => one.1 ≤ other.1 := by
    decide +kernel
  exact List.isChain_iff_pairwise.mp chain

theorem casedRanges_checked : ∀ range ∈ casedRanges,
    (range.2 < 0xD800 ∨ 0xDFFF < range.1 ∧ range.2 < 0x110000) ∧
      (range.1 < 0x80 → ∀ code ≤ range.2, range.1 ≤ code → (Char.ofNat code).isAlpha = true) := by
  decide +kernel

/-- What a run lowers has letter case before and after, and is never looked through. -/
structure CaseRun.KeepsClass (run : CaseRun) : Prop where
  cased : holdAll run.first run.last casedRanges = true ∨
    ∀ count < (run.last - run.first) / run.step + 1,
      InRanges casedRanges (run.first + run.step * count) = true
  loweredCased :
    holdAll (run.first + run.shift).toNat (run.last + run.shift).toNat casedRanges = true
  firm : leaveOut run.first run.last ignorableRanges = true
  loweredFirm :
    leaveOut (run.first + run.shift).toNat (run.last + run.shift).toNat ignorableRanges = true

instance (run : CaseRun) : Decidable run.KeepsClass :=
  decidable_of_iff (_ ∧ _ ∧ _ ∧ _)
    ⟨fun holds => ⟨holds.1, holds.2.1, holds.2.2.1, holds.2.2.2⟩,
      fun keeps => ⟨keeps.cased, keeps.loweredCased, keeps.firm, keeps.loweredFirm⟩⟩

theorem lowerRuns_keepClass : ∀ run ∈ lowerRuns, run.KeepsClass := by
  decide +kernel

/-! ## Single characters -/

/-- The characters count alike on the way to a sigma. -/
def SameClass (c d : Char) : Prop :=
  isCased c = isCased d ∧ isIgnorable c = isIgnorable d

theorem isIgnorable_of_leaveOut {c : Char}
    (out : leaveOut c.toNat c.toNat ignorableRanges = true) : isIgnorable c = false :=
  inRanges_of_leaveOut ignorableRanges_ascending out (Nat.le_refl _) (Nat.le_refl _)

theorem SameClass.of_leaveOut {c d : Char} (cased : isCased c = isCased d)
    (first : leaveOut c.toNat c.toNat ignorableRanges = true)
    (second : leaveOut d.toNat d.toNat ignorableRanges = true) : SameClass c d :=
  ⟨cased, (isIgnorable_of_leaveOut first).trans (isIgnorable_of_leaveOut second).symm⟩

theorem isCased_of_ranges {c : Char} (cased : InRanges casedRanges c.toNat = true) :
    isCased c = true := by
  rw [isCased]
  split
  · rename_i ascii
    obtain ⟨range, isRange, inside⟩ := List.any_eq_true.mp cased
    simp only [Bool.and_eq_true, decide_eq_true_eq] at inside
    have letter := (casedRanges_checked range isRange).2 (Nat.lt_of_le_of_lt inside.1 ascii)
      c.toNat inside.2 inside.1
    rwa [Char.ofNat_toNat] at letter
  · exact cased

theorem CaseRun.covered {run : CaseRun} {code : Nat} (covers : run.covers code = true) :
    run.first ≤ code ∧ code ≤ run.last ∧
      ∃ count < (run.last - run.first) / run.step + 1, code = run.first + run.step * count := by
  simp only [CaseRun.covers, Bool.and_eq_true, decide_eq_true_eq, beq_iff_eq] at covers
  obtain ⟨⟨first, last⟩, stepped⟩ := covers
  refine ⟨first, last, (code - run.first) / run.step, ?_, ?_⟩
  · exact Nat.lt_succ_of_le (Nat.div_le_div_right (Nat.sub_le_sub_right last _))
  · rw [Nat.mul_div_cancel' (Nat.dvd_of_mod_eq_zero stepped)]
    omega

theorem shiftedBy_class (c : Char) : SameClass (shiftedBy lowerRuns c) c := by
  unfold shiftedBy
  split
  · rename_i run found
    have member := List.mem_of_find?_eq_some found
    have covers := List.find?_some found
    obtain ⟨first, last, count, few, isStep⟩ := CaseRun.covered covers
    have bounds : (run.first + run.shift).toNat ≤ (c.toNat + run.shift).toNat ∧
        (c.toNat + run.shift).toNat ≤ (run.last + run.shift).toNat := by
      constructor
      · exact Int.toNat_le_toNat (by omega)
      · exact Int.toNat_le_toNat (by omega)
    have keeps := lowerRuns_keepClass run member
    have loweredCased := inRanges_of_holdAll keeps.loweredCased bounds.1 bounds.2
    have code : (Char.ofNat (c.toNat + run.shift).toNat).toNat = (c.toNat + run.shift).toNat := by
      obtain ⟨range, isRange, inside⟩ := List.any_eq_true.mp loweredCased
      have valid := (casedRanges_checked range isRange).1
      simp only [Bool.and_eq_true, decide_eq_true_eq] at inside
      rw [Char.ofNat, dif_pos (by unfold Nat.isValidChar; omega)]
      rfl
    have cased : InRanges casedRanges c.toNat = true := by
      rcases keeps.cased with held | each
      · exact inRanges_of_holdAll held first last
      · rw [isStep]
        exact each count few
    refine ⟨?_, ?_⟩
    · rw [isCased_of_ranges cased, isCased_of_ranges (by rwa [code])]
    · rw [isIgnorable, isIgnorable, code,
        inRanges_of_leaveOut ignorableRanges_ascending keeps.firm first last,
        inRanges_of_leaveOut ignorableRanges_ascending keeps.loweredFirm bounds.1 bounds.2]
  · exact ⟨rfl, rfl⟩

theorem lowerChar_cases (c : Char) :
    c = 'İ' ∨ ∃ d, lowerChar c = [d] ∧ SameClass d c := by
  unfold lowerChar changed
  split
  · have same := toLower_sameCase c
    exact Or.inr ⟨_, rfl, same.cased, same.ignorable⟩
  · split
    · rename_i codes found
      refine Or.inl ?_
      have isKey : c.toNat = 0x130 := by
        by_contra differs
        rw [lowerExpansions, List.lookup_cons, beq_false_of_ne differs] at found
        cases found
      rw [← Char.ofNat_toNat c, isKey]
    · exact Or.inr ⟨_, rfl, shiftedBy_class c⟩

theorem lowerChar_dotted : lowerChar 'İ' = ['i', '\u0307'] := by
  decide

/-! ## Texts -/

section Texts

variable {chars others : List Char}

theorem leadsToCased_cons {c d : Char} (same : SameClass d c)
    (behind : leadsToCased chars = leadsToCased others) :
    leadsToCased (d :: chars) = leadsToCased (c :: others) := by
  unfold leadsToCased at behind ⊢
  rw [List.dropWhile_cons, List.dropWhile_cons, same.2]
  by_cases skipped : isIgnorable c = true
  · rw [if_pos skipped, if_pos skipped]
    exact behind
  · rw [if_neg skipped, if_neg skipped]
    exact same.1

theorem leadsToCased_append (before : List Char)
    (behind : leadsToCased chars = leadsToCased others) :
    leadsToCased (before ++ chars) = leadsToCased (before ++ others) := by
  induction before with
  | nil => exact behind
  | cons c rest ih => exact leadsToCased_cons ⟨rfl, rfl⟩ ih

theorem leadsToCased_lowerChar (c : Char) (chars : List Char) :
    leadsToCased ((lowerChar c).reverse ++ chars) = leadsToCased (c :: chars) := by
  rcases lowerChar_cases c with rfl | ⟨d, lowered, same⟩
  · have skipped : isIgnorable '\u0307' = true := by decide
    have letters : SameClass 'i' 'İ' := SameClass.of_leaveOut (by decide) (by decide) (by decide)
    have behind : leadsToCased ('\u0307' :: 'i' :: chars) = leadsToCased ('i' :: chars) := by
      rw [leadsToCased, List.dropWhile_cons, if_pos skipped, leadsToCased]
    rw [lowerChar_dotted]
    exact behind.trans (leadsToCased_cons letters rfl)
  · rw [lowered]
    exact leadsToCased_cons same rfl

/-- The characters are the same, but for a sigma that ends a word. -/
def SameLetter (c d : Char) : Prop :=
  d = c ∨ c = 'σ' ∧ d = 'ς'

theorem SameLetter.sameClass {c d : Char} (same : SameLetter c d) : SameClass d c := by
  rcases same with rfl | ⟨rfl, rfl⟩
  · exact ⟨rfl, rfl⟩
  · exact SameClass.of_leaveOut (by decide) (by decide) (by decide)

theorem SameLetter.utf8Size {c d : Char} (same : SameLetter c d) : d.utf8Size = c.utf8Size := by
  rcases same with rfl | ⟨rfl, rfl⟩
  · rfl
  · rfl

theorem sameLetters_refl (chars : List Char) : List.Forall₂ SameLetter chars chars :=
  List.forall₂_same.mpr fun _ _ => Or.inl rfl

theorem byteLength_sameLetters (same : List.Forall₂ SameLetter chars others) :
    byteLength others = byteLength chars := by
  induction same with
  | nil => rfl
  | cons letter _ ih => rw [byteLength, byteLength, letter.utf8Size, ih]

theorem leadsToCased_sameLetters (same : List.Forall₂ SameLetter chars others)
    (further : List Char) : leadsToCased (others ++ further) = leadsToCased (chars ++ further) := by
  induction same with
  | nil => rfl
  | cons letter _ ih => exact leadsToCased_cons letter.sameClass ih

theorem leadsToCased_flatMap (chars further : List Char) :
    leadsToCased ((chars.flatMap lowerChar).reverse ++ further) =
      leadsToCased (chars.reverse ++ further) := by
  induction chars generalizing further with
  | nil => rfl
  | cons c chars ih =>
      rw [List.flatMap_cons, List.reverse_append, List.append_assoc, ih, List.reverse_cons,
        List.append_assoc]
      exact leadsToCased_append _ (leadsToCased_lowerChar c further)

theorem leadsToCased_lowered {lowered : List Char}
    (same : List.Forall₂ SameLetter (chars.flatMap lowerChar) lowered) (further : List Char) :
    leadsToCased (lowered.reverse ++ further) = leadsToCased (chars.reverse ++ further) := by
  rw [leadsToCased_sameLetters (List.forall₂_reverse_iff.mpr same), leadsToCased_flatMap]

/-- Whether a capital sigma between the two texts is the last letter of a word, the text to the left
with its last character first. -/
def endsWord (before after : List Char) : Bool :=
  leadsToCased before && !leadsToCased after

theorem lowerFrom_sigma (before rest : List Char) : lowerFrom before ('Σ' :: rest) =
    (if endsWord before rest then 'ς' else 'σ') :: lowerFrom ('Σ' :: before) rest := by
  rw [lowerFrom, if_pos rfl, endsWord]
  split
  · rfl
  · rfl

theorem lowerFrom_other {c : Char} (other : c ≠ 'Σ') (before rest : List Char) :
    lowerFrom before (c :: rest) = lowerChar c ++ lowerFrom (c :: before) rest := by
  rw [lowerFrom, if_neg other]

theorem lowerFrom_cons (before : List Char) (c : Char) (rest : List Char) : ∃ first,
    lowerFrom before (c :: rest) = first ++ lowerFrom (c :: before) rest ∧
      List.Forall₂ SameLetter (lowerChar c) first := by
  by_cases sigma : c = 'Σ'
  · subst sigma
    have single : lowerChar 'Σ' = ['σ'] := by decide
    rw [lowerFrom_sigma, single]
    refine ⟨[_], rfl, List.Forall₂.cons ?_ List.Forall₂.nil⟩
    split
    · exact Or.inr ⟨rfl, rfl⟩
    · exact Or.inl rfl
  · exact ⟨_, lowerFrom_other sigma before rest, sameLetters_refl _⟩

/-- Wherever they stand, characters become what each becomes on its own, but for the form of the
sigmas. -/
theorem lowerFrom_append (before chars rest : List Char) : ∃ lowered,
    lowerFrom before (chars ++ rest) = lowered ++ lowerFrom (chars.reverse ++ before) rest ∧
      List.Forall₂ SameLetter (chars.flatMap lowerChar) lowered := by
  induction chars generalizing before with
  | nil => exact ⟨[], rfl, List.Forall₂.nil⟩
  | cons c chars ih =>
      obtain ⟨lowered, whole, same⟩ := ih (c :: before)
      obtain ⟨first, split, sameFirst⟩ := lowerFrom_cons before c (chars ++ rest)
      refine ⟨first ++ lowered, ?_, List.rel_append sameFirst same⟩
      rw [List.cons_append, split, whole, List.append_assoc, List.reverse_cons, List.append_assoc]
      rfl

/-- A text becomes the same behind two others of which the sigmas in it can see as much. -/
theorem lowerFrom_congr {before others : List Char}
    (sees : leadsToCased before = leadsToCased others) (chars : List Char) :
    lowerFrom before chars = lowerFrom others chars := by
  induction chars generalizing before others with
  | nil => rfl
  | cons c rest ih =>
      rw [lowerFrom, lowerFrom, sees, ih (leadsToCased_cons ⟨rfl, rfl⟩ sees)]

end Texts

/-! ## Texts in pieces -/

/-- Each capital sigma of the pieces ends a word in its own piece exactly if it does so in the whole
text, which has `before` to the left of the pieces. -/
def SigmasKept (before : List Char) : List (List Char) → Prop
  | [] => True
  | piece :: rest =>
    (∀ stem tail, piece = stem ++ 'Σ' :: tail →
      endsWord (stem.reverse ++ before) (tail ++ rest.flatten) = endsWord stem.reverse tail) ∧
    SigmasKept (piece.reverse ++ before) rest

theorem sigmaForm_inj {one other : Bool} :
    (if one then 'ς' else 'σ') = (if other then 'ς' else 'σ') ↔ one = other := by
  revert one other
  decide

theorem forall_sigma_cons {c : Char} {chars : List Char} {holds : List Char → List Char → Prop} :
    (∀ stem tail, c :: chars = stem ++ 'Σ' :: tail → holds stem tail) ↔
      (c = 'Σ' → holds [] chars) ∧
        ∀ stem tail, chars = stem ++ 'Σ' :: tail → holds (c :: stem) tail := by
  constructor
  · intro each
    refine ⟨fun sigma => each [] chars (by rw [sigma]; rfl), fun stem tail split => ?_⟩
    exact each (c :: stem) tail (by rw [split]; rfl)
  · rintro ⟨here, behind⟩ stem tail split
    cases stem with
    | nil =>
        obtain ⟨sigma, rfl⟩ := List.cons.inj split
        exact here sigma
    | cons first stem =>
        rw [List.cons_append, List.cons.injEq] at split
        obtain ⟨rfl, split⟩ := split
        exact behind stem tail split

theorem lowerFrom_append_eq_iff {before own chars after others : List Char} :
    lowerFrom before (chars ++ after) = lowerFrom own chars ++ others ↔
      (∀ stem tail, chars = stem ++ 'Σ' :: tail →
        endsWord (stem.reverse ++ before) (tail ++ after) = endsWord (stem.reverse ++ own) tail) ∧
      lowerFrom (chars.reverse ++ before) after = others := by
  induction chars generalizing before own with
  | nil => simp [lowerFrom]
  | cons c chars ih =>
      have inside (side : List Char) : (c :: chars).reverse ++ side = chars.reverse ++ c :: side := by
        simp
      have insideStem (stem side : List Char) :
          (c :: stem).reverse ++ side = stem.reverse ++ c :: side := by
        simp
      rw [forall_sigma_cons, inside, List.cons_append]
      simp only [insideStem, List.reverse_nil, List.nil_append]
      by_cases sigma : c = 'Σ'
      · subst sigma
        rw [lowerFrom_sigma, lowerFrom_sigma, List.cons_append, List.cons.injEq, sigmaForm_inj, ih,
          and_assoc]
        simp
      · rw [lowerFrom_other sigma, lowerFrom_other sigma, List.append_assoc,
          List.append_cancel_left_eq, ih]
        simp [sigma]

/-- A text is lowered piece by piece exactly if no sigma changes its form. -/
theorem lowerFrom_flatten_iff {before : List Char} {pieces : List (List Char)} :
    lowerFrom before pieces.flatten = pieces.flatMap lowerChars ↔ SigmasKept before pieces := by
  induction pieces generalizing before with
  | nil => simp [lowerFrom, SigmasKept]
  | cons piece rest ih =>
      rw [List.flatten_cons, List.flatMap_cons, lowerChars, lowerFrom_append_eq_iff, ih, SigmasKept]
      simp only [List.append_nil]

/-! ## Walls -/

/-- Characters that have no letter case and are not looked through either. -/
def isNeutral (c : Char) : Bool :=
  !isCased c && !isIgnorable c

/-- No letter is seen through the text. -/
def IsWall (text : List Char) : Prop :=
  ∀ lead, leadsToCased (lead ++ text) = leadsToCased lead

theorem isWall_nil : IsWall [] := by
  intro lead
  rw [List.append_nil]

theorem isWall_cons {c : Char} (neutral : isNeutral c = true) (rest : List Char) :
    IsWall (c :: rest) := by
  simp only [isNeutral, Bool.and_eq_true, Bool.not_eq_true'] at neutral
  intro lead
  have none : leadsToCased (c :: rest) = leadsToCased [] := by
    simp [leadsToCased, neutral.1, neutral.2]
  rw [leadsToCased_append lead none, List.append_nil]

theorem leadsToCased_of_mem {c : Char} {lead : List Char} (member : c ∈ lead)
    (neutral : isNeutral c = true) (rest : List Char) :
    leadsToCased (lead ++ rest) = leadsToCased lead := by
  obtain ⟨front, back, rfl⟩ := List.append_of_mem member
  rw [List.append_assoc, List.cons_append, isWall_cons neutral, isWall_cons neutral]

theorem endsWord_walls {before after : List Char} (left : IsWall before) (right : IsWall after)
    (stem tail : List Char) :
    endsWord (stem ++ before) (tail ++ after) = endsWord stem tail := by
  rw [endsWord, endsWord, left, right]

end Unflatten.Text
