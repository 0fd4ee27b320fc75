import Unflatten.Proofs.Conversion
import Unflatten.Proofs.Scalars.Integers

/-!
# Bytes as text

Text of an even number of hexadecimal digits, behind a lead `0x` or without one, is read as the
bytes that it spells. A step of two bytes is read as a number of base sixteen, so that a plus sign
counts as a zero in the first place of a step. Where a step would end inside a character there is
no answer of either kind.
-/

set_option autoImplicit false

namespace Unflatten

namespace Digits

theorem hexValue?_hexDigit : ∀ n < 16, hexValue? (hexDigit n) = some n := by
  decide

theorem hexValue?_bounds {c : Char} {n : Nat} (digit : hexValue? c = some n) :
    n < 16 ∧ 48 ≤ c.toNat ∧ c.toNat ≤ 102 := by
  unfold hexValue? at digit
  split at digit
  · rename_i decimal
    have bounds := isDigit_iff.mp decimal
    cases digit
    simp only [value, Char.reduceToNat]
    omega
  · split at digit
    · rename_i lower
      rw [Bool.and_eq_true, decide_eq_true_eq, decide_eq_true_eq] at lower
      have bounds : 97 ≤ c.toNat ∧ c.toNat ≤ 102 := lower
      cases digit
      simp only [Char.reduceToNat]
      omega
    · split at digit
      · rename_i upper
        rw [Bool.and_eq_true, decide_eq_true_eq, decide_eq_true_eq] at upper
        have bounds : 65 ≤ c.toNat ∧ c.toNat ≤ 70 := upper
        cases digit
        simp only [Char.reduceToNat]
        omega
      · cases digit

end Digits

namespace Hex

/-- What stands behind the lead `0x`, of which there may be one. -/
def digitsOf : List Char → List Char
  | '0' :: 'x' :: digits => digits
  | digits => digits

/-- Two digits for every byte, that of the high half first. -/
def Spells (digits : List Char) (bytes : List UInt8) : Prop :=
  digits.map Digits.hexValue? =
    bytes.flatMap fun byte => [some (byte.toNat / 16), some (byte.toNat % 16)]

/-- A plus sign in the first place of a step counts as a zero. -/
def signless : List Char → List Char
  | [] => []
  | [high] => [high]
  | high :: low :: rest => (if high = '+' then '0' else high) :: low :: signless rest

/-- The next two bytes are no whole number of characters. -/
def IsCut (chars : List Char) : Prop :=
  chars ≠ [] ∧ ∀ front back, chars = front ++ back → Text.byteLength front ≠ 2

variable {digits chars rest : List Char} {bytes : List UInt8} {byte : UInt8} {high low : Char}

/-! ## Spelling -/

theorem spells_cons_cons :
    Spells (high :: low :: rest) (byte :: bytes) ↔
      (Digits.hexValue? high = some (byte.toNat / 16) ∧
        Digits.hexValue? low = some (byte.toNat % 16)) ∧ Spells rest bytes := by
  simp [Spells, and_assoc]

theorem Spells.length_eq (spells : Spells digits bytes) : digits.length = 2 * bytes.length := by
  have lengths := congrArg List.length spells
  rw [List.length_map, List.length_flatMap] at lengths
  simpa [List.map_const', Nat.mul_comm] using lengths

theorem Spells.isDigit (spells : Spells digits bytes) :
    ∀ c ∈ digits, (Digits.hexValue? c).isSome = true := by
  intro c member
  have inside : Digits.hexValue? c ∈ digits.map Digits.hexValue? := List.mem_map_of_mem member
  rw [show digits.map Digits.hexValue? = _ from spells] at inside
  simp only [List.mem_flatMap, List.mem_cons, List.not_mem_nil, or_false] at inside
  obtain ⟨byte, -, high | low⟩ := inside
  · rw [high]
    rfl
  · rw [low]
    rfl

theorem toNat_ofHalves {first second : Nat} (high : first < 16) (low : second < 16) :
    (UInt8.ofNat (16 * first + second)).toNat / 16 = first ∧
      (UInt8.ofNat (16 * first + second)).toNat % 16 = second := by
  rw [UInt8.toNat_ofNat_of_lt' (by simp only [UInt8.size]; omega)]
  omega

theorem exists_spells (even : digits.length % 2 = 0)
    (each : ∀ c ∈ digits, (Digits.hexValue? c).isSome = true) : ∃ bytes, Spells digits bytes := by
  induction digits using signless.induct with
  | case1 => exact ⟨[], rfl⟩
  | case2 high => simp at even
  | case3 high low rest ih =>
    obtain ⟨bytes, spells⟩ := ih (by simp only [List.length_cons] at even; omega)
      (fun c member => each c (by simp [member]))
    obtain ⟨first, isFirst⟩ := Option.isSome_iff_exists.mp (each high (by simp))
    obtain ⟨second, isSecond⟩ := Option.isSome_iff_exists.mp (each low (by simp))
    have halves := toNat_ofHalves (Digits.hexValue?_bounds isFirst).1
      (Digits.hexValue?_bounds isSecond).1
    refine ⟨UInt8.ofNat (16 * first + second) :: bytes, spells_cons_cons.mpr ⟨?_, spells⟩⟩
    rw [halves.1, halves.2]
    exact ⟨isFirst, isSecond⟩

/-! ## Steps -/

theorem decode_eq (chars : List Char) :
    decode chars =
      if Text.byteLength (digitsOf chars) % 2 = 0 then decodeSteps (digitsOf chars)
      else .error .oddLength := by
  have same : (Text.afterLead? ['0', 'x'] chars).getD chars = digitsOf chars := by
    unfold digitsOf
    split
    · rfl
    · rename_i other
      have refused : (['0', 'x'].isPrefixOf chars) = false := by
        rw [Bool.eq_false_iff]
        intro lead
        obtain ⟨digits, rfl⟩ := List.isPrefixOf_iff_prefix.mp lead
        exact other digits rfl
      simp [Text.afterLead?, refused]
  rw [decode, same]

theorem ofHalves_iff {first second : Nat} (high : first < 16) (low : second < 16) :
    UInt8.ofNat (16 * first + second) = byte ↔
      first = byte.toNat / 16 ∧ second = byte.toNat % 16 := by
  obtain ⟨top, bottom⟩ := toNat_ofHalves high low
  constructor
  · rintro rfl
    exact ⟨top.symm, bottom.symm⟩
  · rintro ⟨isFirst, isSecond⟩
    apply UInt8.toNat_inj.mp
    omega

theorem decodeStep_iff :
    decodeStep high low = .ok byte ↔
      Digits.hexValue? (if high = '+' then '0' else high) = some (byte.toNat / 16) ∧
        Digits.hexValue? low = some (byte.toNat % 16) := by
  unfold decodeStep
  by_cases sign : high = '+'
  · have zero : Digits.hexValue? '0' = some 0 := by rfl
    rw [if_pos sign, if_pos sign, zero]
    cases isSecond : Digits.hexValue? low with
    | none => simp
    | some second =>
      have halves : UInt8.ofNat (16 * 0 + second) = byte ↔
          0 = byte.toNat / 16 ∧ second = byte.toNat % 16 :=
        ofHalves_iff (by omega) (Digits.hexValue?_bounds isSecond).1
      simpa using halves
  · rw [if_neg sign, if_neg sign]
    cases isFirst : Digits.hexValue? high with
    | none => simp
    | some first =>
      cases isSecond : Digits.hexValue? low with
      | none => simp
      | some second =>
        have halves : UInt8.ofNat (16 * first + second) = byte ↔
            first = byte.toNat / 16 ∧ second = byte.toNat % 16 :=
          ofHalves_iff (Digits.hexValue?_bounds isFirst).1 (Digits.hexValue?_bounds isSecond).1
        simpa using halves

theorem utf8Size_ascii {c : Char} (ascii : c.toNat < 128) : c.utf8Size = 1 := by
  rw [Char.utf8Size_eq_one_iff, UInt32.le_iff_toNat_le]
  have bound : c.val.toNat < 128 := ascii
  have last : (127 : UInt32).toNat = 127 := rfl
  omega

theorem utf8Size_digit {c : Char} (digit : (Digits.hexValue? c).isSome = true) :
    c.utf8Size = 1 := by
  obtain ⟨n, isDigit⟩ := Option.isSome_iff_exists.mp digit
  have bounds := Digits.hexValue?_bounds isDigit
  exact utf8Size_ascii (by omega)

theorem utf8Size_step (step : decodeStep high low = .ok byte) :
    high.utf8Size = 1 ∧ low.utf8Size = 1 := by
  obtain ⟨isFirst, isSecond⟩ := decodeStep_iff.mp step
  have lowSize : low.utf8Size = 1 := utf8Size_digit (by rw [isSecond]; rfl)
  by_cases sign : high = '+'
  · rw [sign]
    exact ⟨rfl, lowSize⟩
  · rw [if_neg sign] at isFirst
    exact ⟨utf8Size_digit (by rw [isFirst]; rfl), lowSize⟩

theorem decodeSteps_step (step : decodeStep high low = .ok byte) (rest : List Char) :
    decodeSteps (high :: low :: rest) = (decodeSteps rest).map (byte :: ·) := by
  obtain ⟨highSize, lowSize⟩ := utf8Size_step step
  rw [decodeSteps, if_neg (by omega), if_pos ⟨highSize, lowSize⟩, step]

theorem decodeSteps_refused {fault : IntFault} (refused : decodeStep high low = .error fault)
    (rest : List Char) (bytes : List UInt8) : decodeSteps (high :: low :: rest) ≠ .ok bytes := by
  intro given
  rw [decodeSteps, refused] at given
  split at given
  · cases given
  · split at given
    · cases given
    · cases given

theorem not_spells_single (c : Char) (bytes : List UInt8) : ¬ Spells [c] bytes := by
  intro spells
  have lengths := spells.length_eq
  simp only [List.length_cons, List.length_nil] at lengths
  omega

theorem not_spells_nil (c : Char) (rest : List Char) : ¬ Spells (c :: rest) [] := by
  simp [Spells]

theorem decodeSteps_ok_iff : decodeSteps chars = .ok bytes ↔ Spells (signless chars) bytes := by
  induction chars using signless.induct generalizing bytes with
  | case1 =>
    cases bytes with
    | nil => exact ⟨fun _ => rfl, fun _ => rfl⟩
    | cons byte bytes => simp [decodeSteps, Spells, signless]
  | case2 high =>
    refine ⟨fun given => ?_, fun spells => absurd spells (not_spells_single high bytes)⟩
    rw [decodeSteps] at given
    split at given
    · cases given
    · cases given
  | case3 high low rest ih =>
    rw [signless]
    cases step : decodeStep high low with
    | error fault =>
      refine ⟨fun given => absurd given (decodeSteps_refused step rest bytes), fun spells => ?_⟩
      cases bytes with
      | nil => exact absurd spells (not_spells_nil _ _)
      | cons byte bytes =>
        have read := decodeStep_iff.mpr (spells_cons_cons.mp spells).1
        rw [step] at read
        cases read
    | ok byte =>
      rw [decodeSteps_step step]
      constructor
      · intro given
        obtain ⟨others, read, rfl⟩ := Except.map_eq_ok given
        exact spells_cons_cons.mpr ⟨decodeStep_iff.mp step, ih.mp read⟩
      · intro spells
        cases bytes with
        | nil => exact absurd spells (not_spells_nil _ _)
        | cons other others =>
          obtain ⟨halves, spells⟩ := spells_cons_cons.mp spells
          have same : byte = other := by
            have read := step.symm.trans (decodeStep_iff.mpr halves)
            exact Except.ok.inj read
          rw [ih.mpr spells, same]
          rfl

/-! ## Steps that end inside a character -/

theorem isCut_cons (c : Char) (rest : List Char) :
    IsCut (c :: rest) ↔
      c.utf8Size ≠ 2 ∧ ¬ (c.utf8Size = 1 ∧ ∃ d more, rest = d :: more ∧ d.utf8Size = 1) := by
  constructor
  · rintro ⟨-, cut⟩
    constructor
    · simpa [Text.byteLength] using cut [c] rest rfl
    · rintro ⟨cSize, d, more, rfl, dSize⟩
      apply cut [c, d] more rfl
      simp [Text.byteLength, cSize, dSize]
  · rintro ⟨notTwo, notBoth⟩
    refine ⟨by simp, fun front back same two => ?_⟩
    cases front with
    | nil => simp [Text.byteLength] at two
    | cons first front =>
      obtain ⟨rfl, split⟩ := List.cons.inj same
      have some := c.utf8Size_pos
      rw [Text.byteLength] at two
      cases front with
      | nil =>
        rw [Text.byteLength] at two
        omega
      | cons d more =>
        have others := d.utf8Size_pos
        rw [Text.byteLength] at two
        exact notBoth ⟨by omega, d, more ++ back, split, by omega⟩

theorem decodeSteps_isCut (cut : IsCut chars) : decodeSteps chars = .error .cutCharacter := by
  cases chars with
  | nil => exact absurd rfl cut.1
  | cons high rest =>
    obtain ⟨notTwo, notBoth⟩ := (isCut_cons high rest).mp cut
    cases rest with
    | nil => rw [decodeSteps, if_neg notTwo]
    | cons low rest =>
      rw [decodeSteps, if_neg notTwo, if_neg fun both => notBoth ⟨both.1, low, rest, rfl, both.2⟩]

theorem isCut_of_unread (given : decodeSteps chars = .error .cutCharacter)
    (unread : ∀ high low rest, chars = high :: low :: rest →
      ∀ byte, decodeStep high low ≠ .ok byte) :
    IsCut chars := by
  cases chars with
  | nil => cases given
  | cons high rest =>
    rw [isCut_cons]
    constructor
    · intro two
      cases rest with
      | nil =>
        rw [decodeSteps, if_pos two] at given
        cases given
      | cons low rest =>
        rw [decodeSteps, if_pos two] at given
        cases given
    · rintro ⟨highSize, low, rest, rfl, lowSize⟩
      cases step : decodeStep high low with
      | ok byte => exact unread high low rest rfl byte step
      | error fault =>
        rw [decodeSteps, step, if_neg (by omega), if_pos ⟨highSize, lowSize⟩] at given
        cases given

theorem decodeSteps_step_cut (step : decodeStep high low = .ok byte) :
    decodeSteps (high :: low :: rest) = .error .cutCharacter ↔
      decodeSteps rest = .error .cutCharacter := by
  rw [decodeSteps_step step]
  cases decodeSteps rest with
  | ok bytes => simp [Except.map]
  | error fault => simp [Except.map]

theorem decodeSteps_append_cut {front back : List Char} (spells : Spells (signless front) bytes) :
    decodeSteps (front ++ back) = .error .cutCharacter ↔
      decodeSteps back = .error .cutCharacter := by
  induction front using signless.induct generalizing bytes with
  | case1 => rw [List.nil_append]
  | case2 high => exact absurd spells (not_spells_single high bytes)
  | case3 high low rest ih =>
    cases bytes with
    | nil => exact absurd spells (not_spells_nil _ _)
    | cons byte bytes =>
      obtain ⟨halves, spells⟩ := spells_cons_cons.mp spells
      rw [List.cons_append, List.cons_append, decodeSteps_step_cut (decodeStep_iff.mpr halves),
        ih spells]

theorem decodeSteps_cut_iff :
    decodeSteps chars = .error .cutCharacter ↔
      ∃ front back bytes, chars = front ++ back ∧ Spells (signless front) bytes ∧ IsCut back := by
  constructor
  · intro given
    induction chars using signless.induct with
    | case1 => cases given
    | case2 high => exact ⟨[], [high], [], rfl, rfl, isCut_of_unread given (by simp)⟩
    | case3 high low rest ih =>
      cases step : decodeStep high low with
      | ok byte =>
        obtain ⟨front, back, bytes, rfl, spells, cut⟩ := ih ((decodeSteps_step_cut step).mp given)
        refine ⟨high :: low :: front, back, byte :: bytes, rfl, ?_, cut⟩
        exact spells_cons_cons.mpr ⟨decodeStep_iff.mp step, spells⟩
      | error fault =>
        refine ⟨[], high :: low :: rest, [], rfl, rfl, isCut_of_unread given ?_⟩
        rintro _ _ _ same byte read
        cases same
        rw [step] at read
        cases read
  · rintro ⟨front, back, bytes, rfl, spells, cut⟩
    rw [decodeSteps_append_cut spells]
    exact decodeSteps_isCut cut

/-! ## Digits without signs -/

theorem signless_of_unsigned (unsigned : ∀ c ∈ digits, c ≠ '+') : signless digits = digits := by
  induction digits using signless.induct with
  | case1 => rfl
  | case2 high => rfl
  | case3 high low rest ih =>
    rw [signless, if_neg (unsigned high (by simp)),
      ih fun c member => unsigned c (by simp [member])]

theorem Spells.unsigned (spells : Spells digits bytes) : ∀ c ∈ digits, c ≠ '+' := by
  rintro c member rfl
  exact absurd (spells.isDigit '+' member) (by decide)

theorem byteLength_even (spells : Spells (signless chars) bytes) :
    Text.byteLength chars % 2 = 0 := by
  induction chars using signless.induct generalizing bytes with
  | case1 => rfl
  | case2 high => exact absurd spells (not_spells_single high bytes)
  | case3 high low rest ih =>
    cases bytes with
    | nil => exact absurd spells (not_spells_nil _ _)
    | cons byte bytes =>
      obtain ⟨halves, spells⟩ := spells_cons_cons.mp spells
      have sizes := utf8Size_step (decodeStep_iff.mpr halves)
      have others := ih spells
      rw [Text.byteLength, Text.byteLength]
      omega

/-! ## Bytes that are written -/

theorem spells_encode (bytes : List UInt8) : Spells (encode bytes) bytes := by
  induction bytes with
  | nil => rfl
  | cons byte bytes ih =>
    have bound := byte.toNat_lt
    have digits : encode (byte :: bytes) =
        Digits.hexDigit (byte.toNat / 16) :: Digits.hexDigit (byte.toNat % 16) :: encode bytes :=
      rfl
    rw [digits, spells_cons_cons]
    exact ⟨⟨Digits.hexValue?_hexDigit _ (by omega), Digits.hexValue?_hexDigit _ (by omega)⟩, ih⟩

theorem Spells.digitsOf (spells : Spells digits bytes) : digitsOf digits = digits := by
  unfold Hex.digitsOf
  split
  · exact absurd (spells.isDigit 'x' (by simp)) (by decide)
  · rfl

/-! ## Decoding -/

theorem decode_ok_iff : decode chars = .ok bytes ↔ Spells (signless (digitsOf chars)) bytes := by
  rw [decode_eq]
  by_cases even : Text.byteLength (digitsOf chars) % 2 = 0
  · rw [if_pos even]
    exact decodeSteps_ok_iff
  · rw [if_neg even]
    exact ⟨fun given => (by cases given), fun spells => absurd (byteLength_even spells) even⟩

theorem decode_encode (bytes : List UInt8) : decode (encode bytes) = .ok bytes := by
  have spells := spells_encode bytes
  rw [decode_ok_iff, spells.digitsOf, signless_of_unsigned spells.unsigned]
  exact spells

theorem decode_cut_iff :
    decode chars = .error .cutCharacter ↔
      Text.byteLength (digitsOf chars) % 2 = 0 ∧ ∃ front back bytes,
        digitsOf chars = front ++ back ∧ Spells (signless front) bytes ∧ IsCut back := by
  rw [decode_eq]
  by_cases even : Text.byteLength (digitsOf chars) % 2 = 0
  · rw [if_pos even, decodeSteps_cut_iff]
    exact ⟨fun stops => ⟨even, stops⟩, fun stops => stops.2⟩
  · rw [if_neg even]
    exact ⟨fun given => (by cases given), fun stops => absurd stops.1 even⟩

end Hex

/-! ## Cells -/

/-- The trimmed text behind its lead. -/
def Hex.digitsIn (text : String) : List Char :=
  digitsOf (Text.trimChars text.toList)

section Cells

variable {text : String}

theorem readCell_decode (notEmpty : text ≠ "") :
    readCell .binary text =
      match Hex.decode (Text.trimChars text.toList) with
      | .ok bytes => .ok (some (.binary bytes))
      | .error fault => .error ⟨Text.trim text, .binary fault⟩ := by
  have isThere : text.isEmpty = false := by simpa using notEmpty
  simp only [readCell, isThere, readScalar, Bool.false_eq_true, if_false]
  cases Hex.decode (Text.trimChars text.toList) with
  | ok bytes => rfl
  | error fault => rfl

theorem readCell_binary_ok_iff (notEmpty : text ≠ "") {cell : Option Value} :
    readCell .binary text = .ok cell ↔
      ∃ bytes, cell = some (.binary bytes) ∧
        Hex.Spells (Hex.signless (Hex.digitsIn text)) bytes := by
  rw [readCell_decode notEmpty]
  cases outcome : Hex.decode (Text.trimChars text.toList) with
  | ok bytes =>
    constructor
    · intro given
      cases given
      exact ⟨bytes, rfl, Hex.decode_ok_iff.mp outcome⟩
    · rintro ⟨others, rfl, spells⟩
      rw [Hex.decode_ok_iff.mpr spells] at outcome
      cases outcome
      rfl
  | error fault =>
    refine ⟨fun given => (by cases given), ?_⟩
    rintro ⟨bytes, -, spells⟩
    rw [Hex.decode_ok_iff.mpr spells] at outcome
    cases outcome

theorem readCell_binary_cut_iff (notEmpty : text ≠ "") :
    readCell .binary text = .error ⟨Text.trim text, .binary .cutCharacter⟩ ↔
      Hex.decode (Text.trimChars text.toList) = .error .cutCharacter := by
  rw [readCell_decode notEmpty]
  cases Hex.decode (Text.trimChars text.toList) with
  | ok bytes => simp
  | error fault => simp

/-- Text spells bytes exactly if it is read as them and holds no plus sign. With plus signs the
bytes are those that it spells with zeros in their places. Reading breaks off inside a character
exactly if the steps in front of it are read and the next two bytes cut it. -/
theorem readCell_binary (notEmpty : text ≠ "") :
    ((∃ bytes, Hex.Spells (Hex.digitsIn text) bytes) ↔
      (Hex.digitsIn text).length % 2 = 0 ∧
        ∀ c ∈ Hex.digitsIn text, (Digits.hexValue? c).isSome = true) ∧
    (∀ bytes, Hex.Spells (Hex.digitsIn text) bytes ↔
      readCell .binary text = .ok (some (.binary bytes)) ∧ ∀ c ∈ Hex.digitsIn text, c ≠ '+') ∧
    (∀ cell, readCell .binary text = .ok cell ↔
      ∃ bytes, cell = some (.binary bytes) ∧
        Hex.Spells (Hex.signless (Hex.digitsIn text)) bytes) ∧
    (readCell .binary text = .error ⟨Text.trim text, .binary .cutCharacter⟩ ↔
      Text.byteLength (Hex.digitsIn text) % 2 = 0 ∧ ∃ front back bytes,
        Hex.digitsIn text = front ++ back ∧ Hex.Spells (Hex.signless front) bytes ∧
          Hex.IsCut back) := by
  refine ⟨⟨?_, fun ⟨even, each⟩ => Hex.exists_spells even each⟩, fun bytes => ⟨?_, ?_⟩,
    fun _ => readCell_binary_ok_iff notEmpty,
    (readCell_binary_cut_iff notEmpty).trans Hex.decode_cut_iff⟩
  · rintro ⟨bytes, spells⟩
    have lengths := spells.length_eq
    exact ⟨by omega, spells.isDigit⟩
  · intro spells
    have unsigned := spells.unsigned
    refine ⟨(readCell_binary_ok_iff notEmpty).mpr ⟨bytes, rfl, ?_⟩, unsigned⟩
    rwa [Hex.signless_of_unsigned unsigned]
  · rintro ⟨given, unsigned⟩
    obtain ⟨others, same, spells⟩ := (readCell_binary_ok_iff notEmpty).mp given
    cases same
    rwa [Hex.signless_of_unsigned unsigned] at spells

end Cells

/-! ### Dumps -/

namespace Dumps

theorem marked_read :
    " 0x0aFF " ≠ "" ∧ readCell .binary " 0x0aFF " = .ok (some (.binary [10, 255])) := by
  have notEmpty : " 0x0aFF " ≠ "" := by decide
  have spells : Hex.Spells (Hex.digitsIn " 0x0aFF ") [10, 255] := by rfl
  exact ⟨notEmpty, (((readCell_binary notEmpty).2.1 [10, 255]).mp spells).1⟩

/-- A sign is read, and there is no answer where a step cuts a letter. -/
theorem sign_read :
    readCell .binary "+f" = .ok (some (.binary [15])) ∧ Digits.hexValue? '+' = none ∧
      readCell .binary "aéb" = .error ⟨"aéb", .binary .cutCharacter⟩ := by
  refine ⟨?_, ?_, ?_⟩
  · rfl
  · rfl
  · rfl

end Dumps

end Unflatten
