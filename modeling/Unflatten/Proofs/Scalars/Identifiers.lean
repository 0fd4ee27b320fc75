import Unflatten.Proofs.Scalars.Bytes
import Unflatten.Proofs.Scalars.Trimming

/-!
# Identifiers as text

An identifier is written as five groups of digits, which read back as the identifier.
-/

set_option autoImplicit false

namespace Unflatten

/-! ## Pieces -/

namespace Text

variable {piece rest : List Char} {isCut : Char → Bool}

theorem splitChars_single (whole : ∀ c ∈ piece, isCut c = false) :
    splitChars isCut piece = [piece] := by
  induction piece with
  | nil => rfl
  | cons c more ih =>
    rw [splitChars, whole c (by simp), if_neg (by simp),
      ih fun d member => whole d (by simp [member])]

theorem splitChars_append {cut : Char} (isTheCut : isCut cut = true)
    (whole : ∀ c ∈ piece, isCut c = false) (rest : List Char) :
    splitChars isCut (piece ++ cut :: rest) = piece :: splitChars isCut rest := by
  induction piece with
  | nil => rw [List.nil_append, splitChars, if_pos isTheCut]
  | cons c more ih =>
    rw [List.cons_append, splitChars, whole c (by simp), if_neg (by simp),
      ih fun d member => whole d (by simp [member])]

theorem byteLength_ascii (ascii : ∀ c ∈ piece, c.utf8Size = 1) :
    byteLength piece = piece.length := by
  induction piece with
  | nil => rfl
  | cons c more ih =>
    rw [byteLength, ascii c (by simp), ih fun d member => ascii d (by simp [member]),
      List.length_cons, Nat.add_comm]

end Text

namespace Guid

variable {digits : List Char} {bytes : List UInt8}

theorem hexBytes?_of_spells (spells : Hex.Spells digits bytes) : hexBytes? digits = some bytes := by
  induction digits using Hex.signless.induct generalizing bytes with
  | case1 =>
    cases bytes with
    | nil => rfl
    | cons byte bytes => simp [Hex.Spells] at spells
  | case2 c => exact absurd spells (Hex.not_spells_single c bytes)
  | case3 high low rest ih =>
    cases bytes with
    | nil => exact absurd spells (Hex.not_spells_nil _ _)
    | cons byte bytes =>
      obtain ⟨⟨isHigh, isLow⟩, spells⟩ := Hex.spells_cons_cons.mp spells
      have halves := byte.toNat_lt
      have same : UInt8.ofNat (16 * (byte.toNat / 16) + byte.toNat % 16) = byte :=
        (Hex.ofHalves_iff (by omega) (by omega)).mpr ⟨rfl, rfl⟩
      rw [hexBytes?, isHigh, isLow, ih spells]
      simp only [same]

theorem chars_groups (guid : Guid) :
    ∃ a b c d e, guid.chars = a ++ '-' :: (b ++ '-' :: (c ++ '-' :: (d ++ '-' :: e))) ∧
      a ++ b ++ c ++ d ++ e = Hex.encode guid.bytes ∧
      a.length = 8 ∧ b.length = 4 ∧ c.length = 4 ∧ d.length = 4 ∧ e.length = 12 := by
  have length : (Hex.encode guid.bytes).length = 32 := by
    rw [(Hex.spells_encode guid.bytes).length_eq, guid.length_eq]
  unfold chars
  generalize Hex.encode guid.bytes = digits at length ⊢
  refine ⟨digits.take 8, (digits.drop 8).take 4, ((digits.drop 8).drop 4).take 4,
    (((digits.drop 8).drop 4).drop 4).take 4, (((digits.drop 8).drop 4).drop 4).drop 4,
    ?_, ?_, ?_⟩
  · simp [grouped, List.intercalate]
  · simp only [List.append_assoc, List.take_append_drop]
  · simp only [List.length_take, List.length_drop]
    omega

theorem ofBytes?_bytes (guid : Guid) : ofBytes? guid.bytes = some guid :=
  dif_pos guid.length_eq

theorem not_hyphen {c : Char} (digit : (Digits.hexValue? c).isSome = true) : (c = '-') = False := by
  rw [eq_iff_iff, iff_false]
  rintro rfl
  cases digit

theorem mem_chars {guid : Guid} {c : Char} (member : c ∈ guid.chars) :
    c = '-' ∨ (Digits.hexValue? c).isSome = true := by
  obtain ⟨p, q, r, s, t, shape, digits, -⟩ := guid.chars_groups
  have each := (Hex.spells_encode guid.bytes).isDigit
  rw [← digits] at each
  rw [shape] at member
  simp only [List.mem_append, List.mem_cons] at member each
  rcases member with one | rfl | two | rfl | three | rfl | four | rfl | five
  · exact Or.inr (each c (by simp [one]))
  · exact Or.inl rfl
  · exact Or.inr (each c (by simp [two]))
  · exact Or.inl rfl
  · exact Or.inr (each c (by simp [three]))
  · exact Or.inl rfl
  · exact Or.inr (each c (by simp [four]))
  · exact Or.inl rfl
  · exact Or.inr (each c (by simp [five]))

theorem readHyphenated?_chars (guid : Guid) : readHyphenated? guid.chars = some guid := by
  obtain ⟨p, q, r, s, t, shape, digits, lengths⟩ := guid.chars_groups
  have spells := Hex.spells_encode guid.bytes
  have each := spells.isDigit
  rw [← digits] at spells each
  have whole : ∀ group : List Char, (∀ c ∈ group, c ∈ p ++ q ++ r ++ s ++ t) →
      ∀ c ∈ group, decide (c = '-') = false := by
    intro group inside c member
    simp [not_hyphen (each c (inside c member))]
  have pieces : Text.splitChars (· = '-') guid.chars = [p, q, r, s, t] := by
    rw [shape,
      Text.splitChars_append (by rfl) (whole p (by simp +contextual)),
      Text.splitChars_append (by rfl) (whole q (by simp +contextual)),
      Text.splitChars_append (by rfl) (whole r (by simp +contextual)),
      Text.splitChars_append (by rfl) (whole s (by simp +contextual)),
      Text.splitChars_single (whole t (by simp +contextual))]
  rw [readHyphenated?, pieces]
  simp only [lengths, and_self, if_true, hexBytes?_of_spells spells]
  exact guid.ofBytes?_bytes

theorem byteLength_chars (guid : Guid) : Text.byteLength guid.chars = 36 := by
  have ascii : ∀ c ∈ guid.chars, c.utf8Size = 1 := by
    intro c member
    rcases mem_chars member with rfl | digit
    · rfl
    · exact Hex.utf8Size_digit digit
  obtain ⟨p, q, r, s, t, shape, -, lengths⟩ := guid.chars_groups
  rw [Text.byteLength_ascii ascii, shape]
  simp only [List.length_append, List.length_cons]
  omega

theorem chars_solid {guid : Guid} {c : Char} (member : c ∈ guid.chars) :
    Text.isBlank c = false ∧ isBrace c = false := by
  rcases mem_chars member with rfl | digit
  · exact ⟨rfl, rfl⟩
  · obtain ⟨n, isDigit⟩ := Option.isSome_iff_exists.mp digit
    have bounds := Digits.hexValue?_bounds isDigit
    refine ⟨Text.isBlank_graphic (by omega) (by omega), ?_⟩
    rw [isBrace, Bool.or_eq_false_iff, decide_eq_false_iff_not, decide_eq_false_iff_not]
    constructor
    · rintro rfl
      cases digit
    · rintro rfl
      cases digit

theorem trimChars_chars (guid : Guid) : Text.trimChars guid.chars = guid.chars :=
  Text.trimChars_solid fun _ member => (chars_solid member).1

theorem read_chars (guid : Guid) : read guid.chars = .ok guid := by
  have unbraced : trimBraces guid.chars = guid.chars := by
    have none : ∀ c ∈ guid.chars, isBrace c = false := fun _ member => (chars_solid member).2
    rw [trimBraces, Text.dropWhile_none none, Text.dropWhile_none_reverse none]
  have found : read? guid.chars = some guid := by
    rw [read?, byteLength_chars, if_neg (by decide), if_pos rfl, readHyphenated?_chars]
  simp only [read, trimChars_chars, unbraced, found]

end Guid

end Unflatten
