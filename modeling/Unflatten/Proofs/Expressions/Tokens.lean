import Unflatten.Shape.Basic
import Unflatten.Target.Expression

/-!
# Blanks and names in type expressions

The lexemes of an expression do not depend on the blanks between its tokens. A token is a run of
name characters, which no blank may divide, or a single mark. The names in an expression are its
tokens: runs of name characters that neither go on to the left nor to the right. The pieces of a
text between cuts are found by where they stand.
-/

set_option autoImplicit false

namespace Unflatten

/-! ## Blanks are no name characters -/

namespace Text

theorem blanks_apart_from_words : ∀ blank ∈ blankRanges, ∀ word ∈ wordRanges,
    blank.2 < word.1 ∨ word.2 < blank.1 := by
  decide +kernel

theorem blanks_apart_from_ascii : ∀ code < 0x80, InRanges blankRanges code = true →
    (Char.ofNat code).isAlphanum = false ∧ Char.ofNat code ∉ ['_', '-', '.'] := by
  decide +kernel

end Text

namespace TypeExpression

theorem isNameChar_of_blank {c : Char} (blank : Text.isBlank c = true) : isNameChar c = false := by
  have facts := Text.blanks_apart_from_ascii c.toNat
  rw [Char.ofNat_toNat] at facts
  by_cases ascii : c.toNat < 0x80
  · obtain ⟨noWord, noJoiner⟩ := facts ascii blank
    simp only [List.mem_cons, List.not_mem_nil, or_false, not_or] at noJoiner
    simp [isNameChar, Text.isWord, ascii, noWord, noJoiner]
  · have noWord : Text.isWord c = false := by
      rw [Text.isWord, if_neg ascii, Text.InRanges, List.any_eq_false]
      obtain ⟨range, member, inside⟩ := List.any_eq_true.mp blank
      intro word isWord within
      have apart := Text.blanks_apart_from_words range member word isWord
      simp only [Bool.and_eq_true, decide_eq_true_eq] at inside within
      omega
    have noJoiner : c ≠ '_' ∧ c ≠ '-' ∧ c ≠ '.' := by
      refine ⟨?_, ?_, ?_⟩ <;> (rintro rfl; exact ascii (by decide))
    simp [isNameChar, noWord, noJoiner]

/-! ## Spacings -/

def AllBlank (chars : List Char) : Prop :=
  ∀ c ∈ chars, Text.isBlank c = true

def AllName (chars : List Char) : Prop :=
  ∀ c ∈ chars, isNameChar c = true

instance AllBlank.decidable (chars : List Char) : Decidable (AllBlank chars) :=
  List.decidableBAll (fun c => Text.isBlank c = true) chars

instance AllName.decidable (chars : List Char) : Decidable (AllName chars) :=
  List.decidableBAll (fun c => isNameChar c = true) chars

/-- No name goes on at the start of the text. -/
def EndsName (text : List Char) : Prop :=
  ∀ c, text.head? = some c → isNameChar c = false

/-- The text is the expression with blanks added before, behind and between its tokens. -/
inductive Spaced : List Char → List Char → Prop where
  | blanks {gap : List Char} (blank : AllBlank gap) : Spaced [] gap
  | mark {gap expression text : List Char} {c : Char} (blank : AllBlank gap)
      (noName : isNameChar c = false) (noBlank : Text.isBlank c = false)
      (rest : Spaced expression text) : Spaced (c :: expression) (gap ++ c :: text)
  | word {gap word expression text : List Char} (blank : AllBlank gap) (some : word ≠ [])
      (isName : AllName word) (ends : EndsName expression) (rest : Spaced expression text) :
      Spaced (word ++ expression) (gap ++ word ++ text)

variable {chars gap word text expression : List Char} {c : Char} {offset : Nat}

theorem EndsName.nil : EndsName [] := by
  rintro c ⟨⟩

theorem EndsName.cons (noName : isNameChar c = false) : EndsName (c :: text) := by
  rintro _ ⟨⟩
  exact noName

theorem EndsName.append (blank : AllBlank gap) (ends : EndsName text) : EndsName (gap ++ text) := by
  cases gap with
  | nil => exact ends
  | cons first rest => exact .cons (isNameChar_of_blank (blank first (by simp)))

theorem EndsName.spaced (ends : EndsName expression) (spaced : Spaced expression text) :
    EndsName text := by
  cases spaced with
  | blanks blank =>
      have ends := EndsName.append blank .nil
      rwa [List.append_nil] at ends
  | mark blank noName _ _ => exact .append blank (.cons noName)
  | word blank some isName _ _ =>
      obtain ⟨first, rest, rfl⟩ := List.exists_cons_of_ne_nil some
      have noName := ends first rfl
      rw [isName first (by simp)] at noName
      cases noName

/-! ## Lexemes -/

/-- The lexemes without their offsets. -/
def kinds (offset : Nat) (chars : List Char) : List Lexeme :=
  (lexemes offset chars).map Prod.snd

theorem lexemes_blank (blank : Text.isBlank c = true) :
    lexemes offset (c :: text) = lexemes (offset + c.utf8Size) text := by
  rw [lexemes]
  simp [isNameChar_of_blank blank, blank]

theorem lexemes_mark (noName : isNameChar c = false) (noBlank : Text.isBlank c = false) :
    lexemes offset (c :: text) = (offset, .mark c) :: lexemes (offset + c.utf8Size) text := by
  rw [lexemes]
  simp [noName, noBlank]

theorem le_of_mem_lexemes {entry : Nat × Lexeme} (member : entry ∈ lexemes offset text) :
    offset ≤ entry.1 := by
  induction text generalizing offset entry with
  | nil => cases member
  | cons c rest ih =>
      have later {entry : Nat × Lexeme} (member : entry ∈ lexemes (offset + c.utf8Size) rest) :
          offset ≤ entry.1 :=
        Nat.le_trans (Nat.le_add_right _ _) (ih member)
      rw [lexemes] at member
      split at member
      · split at member
        · rename_i start chars others same
          have behind : ∀ entry ∈ others, offset ≤ entry.1 :=
            fun entry isOther => later (by rw [same]; exact List.mem_cons_of_mem _ isOther)
          split at member
          · rcases List.mem_cons.mp member with rfl | member
            · exact Nat.le_refl _
            · exact behind entry member
          · rcases List.mem_cons.mp member with rfl | member
            · exact Nat.le_refl _
            · exact later member
        · rcases List.mem_cons.mp member with rfl | member
          · exact Nat.le_refl _
          · exact later member
      · split at member
        · exact later member
        · rcases List.mem_cons.mp member with rfl | member
          · exact Nat.le_refl _
          · exact later member

theorem EndsName.no_word {start : Nat} {others : List (Nat × Lexeme)} (ends : EndsName text)
    (same : lexemes offset text = (start, .word chars) :: others) : start ≠ offset := by
  cases text with
  | nil => cases same
  | cons c rest =>
      have noName := ends c rfl
      cases blank : Text.isBlank c with
      | true =>
          rw [lexemes_blank blank] at same
          have first : (start, Lexeme.word chars) ∈ lexemes (offset + c.utf8Size) rest := by
            rw [same]
            exact List.mem_cons_self
          have behind : offset + c.utf8Size ≤ start := le_of_mem_lexemes first
          have := c.utf8Size_pos
          omega
      | false =>
          rw [lexemes_mark noName blank] at same
          cases same

theorem lexemes_word (some : word ≠ []) (isName : AllName word) (ends : EndsName text) :
    lexemes offset (word ++ text) =
      (offset, .word word) :: lexemes (offset + Text.byteLength word) text := by
  induction word generalizing offset with
  | nil => exact absurd rfl some
  | cons c rest ih =>
      have isNameHere : isNameChar c = true := isName c (by simp)
      rw [List.cons_append, lexemes, if_pos isNameHere]
      by_cases last : rest = []
      · subst last
        have size : Text.byteLength [c] = c.utf8Size := by simp [Text.byteLength]
        rw [size, List.nil_append]
        split
        · rename_i start chars others same
          rw [if_neg (ends.no_word same)]
        · rfl
      · rw [ih last fun c member => isName c (List.mem_cons_of_mem _ member)]
        dsimp only
        rw [if_pos rfl, Text.byteLength, Nat.add_assoc]

theorem Spaced.kinds_eq {other : Nat} (spaced : Spaced expression text) :
    kinds offset text = kinds other expression := by
  have skip {gap : List Char} (blank : AllBlank gap) (text : List Char) (offset : Nat) :
      ∃ later, kinds offset (gap ++ text) = kinds later text := by
    induction gap generalizing offset with
    | nil => exact ⟨offset, rfl⟩
    | cons c rest ih =>
        rw [List.cons_append, kinds, lexemes_blank (blank c (by simp))]
        exact ih (fun c member => blank c (List.mem_cons_of_mem _ member)) _
  induction spaced generalizing offset other with
  | blanks blank =>
      obtain ⟨later, same⟩ := skip blank [] offset
      rw [List.append_nil] at same
      rw [same]
      rfl
  | mark blank noName noBlank rest ih =>
      obtain ⟨later, same⟩ := skip blank _ offset
      rw [same, kinds, kinds, lexemes_mark noName noBlank, lexemes_mark noName noBlank,
        List.map_cons, List.map_cons]
      exact congrArg _ ih
  | word blank some isName ends rest ih =>
      obtain ⟨later, same⟩ := skip blank _ offset
      rw [List.append_assoc, same, kinds, kinds, lexemes_word some isName ends,
        lexemes_word some isName (ends.spaced rest), List.map_cons, List.map_cons]
      exact congrArg _ ih

end TypeExpression

/-! ## Pieces of a text -/

namespace Text

variable {isCut : Char → Bool} {chars piece behind : List Char}

/-- A text that is empty or starts with a cut. -/
def StartsCut (isCut : Char → Bool) (chars : List Char) : Prop :=
  ∀ c, chars.head? = some c → isCut c = true

def Uncut (isCut : Char → Bool) (chars : List Char) : Prop :=
  ∀ c ∈ chars, isCut c = false

theorem splitChars_some (isCut : Char → Bool) (chars : List Char) :
    ∃ first rest, splitChars isCut chars = first :: rest := by
  cases chars with
  | nil => exact ⟨[], [], rfl⟩
  | cons c later =>
      rw [splitChars]
      split
      · exact ⟨_, _, rfl⟩
      · split <;> exact ⟨_, _, rfl⟩

theorem splitChars_cut {c : Char} (cut : isCut c = true) :
    splitChars isCut (c :: chars) = [] :: splitChars isCut chars := by
  rw [splitChars, if_pos cut]

theorem splitChars_uncut {c : Char} {first : List Char} {rest : List (List Char)}
    (uncut : isCut c = false) (split : splitChars isCut chars = first :: rest) :
    splitChars isCut (c :: chars) = (c :: first) :: rest := by
  rw [splitChars, if_neg (by simp [uncut]), split]

theorem splitChars_pieces {first : List Char} {rest : List (List Char)}
    (split : splitChars isCut chars = first :: rest) :
    (∃ behind, chars = first ++ behind ∧ Uncut isCut first ∧ StartsCut isCut behind) ∧
    ∀ piece ∈ rest, ∃ before c behind, chars = before ++ c :: (piece ++ behind) ∧
      isCut c = true ∧ Uncut isCut piece ∧ StartsCut isCut behind := by
  induction chars generalizing first rest with
  | nil =>
      cases split
      exact ⟨⟨[], rfl, by simp [Uncut], by simp [StartsCut]⟩, by simp⟩
  | cons c later ih =>
      obtain ⟨next, others, splitLater⟩ := splitChars_some isCut later
      obtain ⟨⟨behind, same, uncut, ends⟩, inside⟩ := ih splitLater
      have further : ∀ piece ∈ others, ∃ before cut behind,
          c :: later = before ++ cut :: (piece ++ behind) ∧ isCut cut = true ∧
            Uncut isCut piece ∧ StartsCut isCut behind := by
        intro piece member
        obtain ⟨before, cut, behind, same, facts⟩ := inside piece member
        exact ⟨c :: before, cut, behind, by rw [same]; rfl, facts⟩
      cases isCutHere : isCut c with
      | true =>
          rw [splitChars_cut isCutHere, splitLater] at split
          cases split
          refine ⟨⟨c :: later, rfl, by simp [Uncut], by simpa [StartsCut] using isCutHere⟩, ?_⟩
          exact List.forall_mem_cons.mpr
            ⟨⟨[], c, behind, by rw [same]; rfl, isCutHere, uncut, ends⟩, further⟩
      | false =>
          rw [splitChars_uncut isCutHere splitLater] at split
          cases split
          exact ⟨⟨behind, by rw [same]; rfl, List.forall_mem_cons.mpr ⟨isCutHere, uncut⟩, ends⟩,
            further⟩

theorem splitChars_lead (uncut : Uncut isCut piece) (ends : StartsCut isCut behind) :
    ∃ rest, splitChars isCut (piece ++ behind) = piece :: rest := by
  induction piece with
  | nil =>
      cases behind with
      | nil => exact ⟨[], rfl⟩
      | cons c later => exact ⟨_, splitChars_cut (ends c rfl)⟩
  | cons c piece ih =>
      obtain ⟨uncutHere, uncutLater⟩ := List.forall_mem_cons.mp uncut
      obtain ⟨rest, split⟩ := ih uncutLater
      exact ⟨rest, splitChars_uncut uncutHere split⟩

theorem mem_splitChars_behind {before : List Char} {c : Char} (cut : isCut c = true)
    (member : piece ∈ splitChars isCut chars) :
    piece ∈ (splitChars isCut (before ++ c :: chars)).tail := by
  induction before with
  | nil =>
      rw [List.nil_append, splitChars_cut cut]
      exact member
  | cons other before ih =>
      obtain ⟨first, rest, split⟩ := splitChars_some isCut (before ++ c :: chars)
      cases isCutHere : isCut other with
      | true =>
          rw [List.cons_append, splitChars_cut isCutHere]
          exact List.mem_of_mem_tail ih
      | false =>
          rw [List.cons_append, splitChars_uncut isCutHere split]
          rw [split] at ih
          exact ih

end Text

/-! ## Tokens -/

namespace TypeExpression

/-- The token stands in the expression, and no name character stands next to it. -/
def IsToken (expression token : String) : Prop :=
  token ≠ "" ∧ AllName token.toList ∧ ∃ before behind : List Char,
    expression.toList = before ++ token.toList ++ behind ∧ EndsName before.reverse ∧
      EndsName behind

end TypeExpression

open TypeExpression in
theorem Shape.mem_namesIn {expression token : String} :
    token ∈ namesIn expression ↔ IsToken expression token := by
  have starts {chars : List Char} :
      Text.StartsCut (fun c => !isNameChar c) chars ↔ EndsName chars := by
    simp [Text.StartsCut, EndsName]
  have uncut {chars : List Char} : Text.Uncut (fun c => !isNameChar c) chars ↔ AllName chars := by
    simp [Text.Uncut, AllName]
  have isSome : (!token.isEmpty) = true ↔ token ≠ "" := by simp
  rw [namesIn, List.mem_filter, isSome, Text.splitOn, List.mem_map, IsToken, and_comm]
  refine and_congr_right fun _ => ⟨?_, ?_⟩
  · rintro ⟨piece, member, rfl⟩
    rw [String.toList_ofList]
    obtain ⟨first, rest, split⟩ := Text.splitChars_some (fun c => !isNameChar c) expression.toList
    obtain ⟨⟨behind, same, isName, ends⟩, inside⟩ := Text.splitChars_pieces split
    rw [split] at member
    rcases List.mem_cons.mp member with rfl | member
    · exact ⟨uncut.mp isName, [], behind, same, .nil, starts.mp ends⟩
    · obtain ⟨before, c, behind, same, cut, isName, ends⟩ := inside piece member
      refine ⟨uncut.mp isName, before ++ [c], behind, by simp [same], ?_, starts.mp ends⟩
      rw [List.reverse_append]
      exact .cons (by simpa using cut)
  · rintro ⟨isName, before, behind, same, begins, ends⟩
    refine ⟨token.toList, ?_, String.ofList_toList⟩
    obtain ⟨rest, lead⟩ := Text.splitChars_lead (uncut.mpr isName) (starts.mpr ends)
    have here : token.toList ∈
        Text.splitChars (fun c => !isNameChar c) (token.toList ++ behind) := by
      rw [lead]
      exact List.mem_cons_self
    rw [same, List.append_assoc]
    rcases List.eq_nil_or_concat before with rfl | ⟨lead, c, rfl⟩
    · exact here
    · have cut : isNameChar c = false := begins c (by simp)
      rw [List.concat_append]
      exact List.mem_of_mem_tail (Text.mem_splitChars_behind (by simp [cut]) here)

end Unflatten
