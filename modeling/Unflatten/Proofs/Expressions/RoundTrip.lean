import Unflatten.Proofs.Expressions.Tokens
import Unflatten.Proofs.Flattening.Names

/-!
# Type expressions are read back

The name of a target is an expression for it. However blanks are put between the tokens of the name,
reading it gives the target itself, if the names of custom types are no keywords and are looked up
to these types.
-/

set_option autoImplicit false

namespace Unflatten

/-- Types of the caller's own, which are written as their names. -/
def Target.isCustom : Target → Bool
  | enum _ | object _ | reference _ | sequence _ | dictionary _ => true
  | scalar _ | nullable _ | any | dynamic | list _ | map _ | array _ | tuple _ => false

namespace TypeExpression

/-- A name of name characters that is no keyword. -/
structure IsCustomName (name : String) : Prop where
  some : name ≠ ""
  isName : AllName name.toList
  free : keyword? name = none

/-- Targets whose custom types are looked up by their names, while the names of scalar types are
looked up to nothing. -/
inductive Legible (lookup : String → Option Target) : Target → Prop where
  | scalar (type : ScalarType) (free : lookup type.name = none) : Legible lookup (.scalar type)
  | any : Legible lookup .any
  | dynamic : Legible lookup .dynamic
  | custom {target : Target} (isCustom : target.isCustom = true)
      (isName : IsCustomName target.typeName) (found : lookup target.typeName = some target) :
      Legible lookup target
  | nullable {inner : Target} (legible : Legible lookup inner) : Legible lookup (.nullable inner)
  | list {element : Target} (legible : Legible lookup element) : Legible lookup (.list element)
  | array {element : Target} (legible : Legible lookup element) : Legible lookup (.array element)
  | map {value : Target} (legible : Legible lookup value) : Legible lookup (.map value)
  | tuple {slots : List Target} (some : slots ≠ []) (few : slots.length ≤ greatestArity)
      (each : ∀ slot ∈ slots, Legible lookup slot) : Legible lookup (.tuple slots)

variable {lookup : String → Option Target} {target : Target}

/-! ## Offsets tell faults apart only -/

section Offsets

variable {state next : State} {lexeme : Lexeme} {offset other : Nat}

theorem stepAfterType_offset {type : Target} {frames : List Frame}
    (stepped : stepAfterType lookup type frames offset lexeme = .ok next) :
    stepAfterType lookup type frames other lexeme = .ok next := by
  unfold stepAfterType at stepped ⊢
  split at stepped
  · exact stepped
  · exact stepped
  · exact stepped
  · exact stepped
  · cases stepped
  · cases stepped

theorem step_offset (stepped : step lookup state offset lexeme = .ok next) :
    step lookup state other lexeme = .ok next := by
  unfold step at stepped ⊢
  split at stepped
  · split at stepped
    · exact stepped
    · cases stepped
  · split at stepped
    · rename_i isOpen
      rw [if_pos isOpen]
      exact stepped
    · rename_i isOpen
      rw [if_neg isOpen]
      split at stepped
      · exact stepAfterType_offset stepped
      · cases stepped
  · exact stepAfterType_offset stepped
  · split at stepped
    · rename_i isClose
      rw [if_pos isClose]
      exact stepped
    · cases stepped

theorem finish_offset (finished : finish lookup state offset = .ok target) :
    finish lookup state other = .ok target := by
  obtain ⟨mode, frames⟩ := state
  cases mode with
  | expectName => cases finished
  | afterName name =>
      simp only [finish] at finished ⊢
      cases built : build lookup name [] with
      | error fault =>
          rw [built] at finished
          cases finished
      | ok type =>
          rw [built] at finished
          cases frames with
          | nil => exact finished
          | cons => cases finished
  | afterType type =>
      cases frames with
      | nil => exact finished
      | cons => cases finished
  | inBrackets type => cases finished

theorem run_kinds {entries others : List (Nat × Lexeme)}
    (same : others.map Prod.snd = entries.map Prod.snd)
    (ran : run lookup state offset entries = .ok target) :
    run lookup state other others = .ok target := by
  induction entries generalizing others state with
  | nil =>
      obtain rfl := List.map_eq_nil_iff.mp same
      exact finish_offset ran
  | cons entry rest ih =>
      obtain ⟨⟨place, lexeme⟩, later, rfl, sameFirst, sameRest⟩ := List.map_eq_cons_iff.mp same
      obtain ⟨start, first⟩ := entry
      obtain rfl : lexeme = first := sameFirst
      rw [run] at ran ⊢
      cases stepped : step lookup state start lexeme with
      | error fault =>
          rw [stepped] at ran
          cases ran
      | ok next =>
          rw [stepped] at ran
          rw [step_offset stepped]
          exact ih sameRest ran

end Offsets

theorem read_spaced {name text : String} (spaced : Spaced name.toList text.toList)
    (ran : read lookup name = .ok target) : read lookup text = .ok target :=
  run_kinds spaced.kinds_eq ran

/-! ## Names within expressions -/

/-- What may stand behind a complete type. -/
def Closes (rest : List Char) : Prop :=
  ∀ c, rest.head? = some c → c = '?' ∨ c = ',' ∨ c = '>'

/-- The name is read as the target wherever it is followed by the end or by a mark. -/
def Reads (lookup : String → Option Target) (target : Target) : Prop :=
  ∀ (rest : List Char) (frames : List Frame) (offset final : Nat), Closes rest →
    ∃ later,
      run lookup ⟨.expectName, frames⟩ final (lexemes offset (target.typeName.toList ++ rest)) =
        run lookup ⟨.afterType target, frames⟩ final (lexemes later rest)

section Reading

variable {rest : List Char} {frames : List Frame} {offset final : Nat} {c : Char} {name : String}

theorem Closes.cons (mark : c = '?' ∨ c = ',' ∨ c = '>') : Closes (c :: rest) := by
  rintro _ ⟨⟩
  exact mark

theorem Closes.noName (mark : c = '?' ∨ c = ',' ∨ c = '>') :
    isNameChar c = false ∧ Text.isBlank c = false ∧ c ≠ '<' := by
  rcases mark with rfl | rfl | rfl <;> decide +kernel

theorem Closes.endsName (closes : Closes rest) : EndsName rest :=
  fun c head => (Closes.noName (closes c head)).1

theorem run_word (some : name ≠ "") (isName : AllName name.toList) (closes : Closes rest)
    (built : build lookup name [] = .ok target) :
    ∃ later, run lookup ⟨.expectName, frames⟩ final (lexemes offset (name.toList ++ rest)) =
      run lookup ⟨.afterType target, frames⟩ final (lexemes later rest) := by
  have some : name.toList ≠ [] := by simpa using some
  refine ⟨offset + Text.byteLength name.toList, ?_⟩
  rw [lexemes_word some isName closes.endsName, run, step]
  simp only [String.ofList_toList]
  cases rest with
  | nil => simp only [lexemes, run, finish, built]
  | cons c rest =>
      obtain ⟨noName, noBlank, noOpen⟩ := Closes.noName (closes c rfl)
      have isMark : Lexeme.mark c ≠ .mark '<' := fun same => noOpen (Lexeme.mark.inj same)
      rw [lexemes_mark noName noBlank, run, run, step, step]
      simp only [if_neg isMark, built]

theorem run_open (some : name ≠ "") (isName : AllName name.toList) (frames : List Frame)
    (offset final : Nat) (rest : List Char) :
    ∃ later, run lookup ⟨.expectName, frames⟩ final (lexemes offset (name.toList ++ '<' :: rest)) =
      run lookup ⟨.expectName, ⟨name, []⟩ :: frames⟩ final (lexemes later rest) := by
  have some : name.toList ≠ [] := by simpa using some
  have noName : isNameChar '<' = false := by decide +kernel
  refine ⟨offset + Text.byteLength name.toList + '<'.utf8Size, ?_⟩
  rw [lexemes_word some isName (.cons noName), lexemes_mark noName (by decide +kernel), run, step]
  simp only [String.ofList_toList]
  rw [run, step]
  simp only [↓reduceIte]

theorem run_mark {state : State} (mark : c = '?' ∨ c = ',' ∨ c = '>')
    (stepped : ∀ offset, stepAfterType lookup target frames offset (.mark c) = .ok state)
    (offset final : Nat) (rest : List Char) :
    ∃ later, run lookup ⟨.afterType target, frames⟩ final (lexemes offset (c :: rest)) =
      run lookup state final (lexemes later rest) := by
  obtain ⟨noName, noBlank, -⟩ := Closes.noName mark
  refine ⟨offset + c.utf8Size, ?_⟩
  rw [lexemes_mark noName noBlank, run, step]
  simp only [stepped]

/-- Arguments up to the closing bracket, those before them being read already. -/
theorem run_arguments {slots read : List Target} (some : slots ≠ [])
    (each : ∀ slot ∈ slots, Reads lookup slot)
    (built : build lookup name (read.reverse ++ slots) = .ok target) (frames : List Frame)
    (offset final : Nat) (rest : List Char) :
    ∃ later, run lookup ⟨.expectName, ⟨name, read⟩ :: frames⟩ final
        (lexemes offset ((Text.join "," (Target.typeNames slots)).toList ++ '>' :: rest)) =
      run lookup ⟨.afterType target, frames⟩ final (lexemes later rest) := by
  have comma : "," = ','.toString := rfl
  induction slots generalizing read offset with
  | nil => exact absurd rfl some
  | cons slot slots ih =>
      obtain ⟨reads, eachRest⟩ := List.forall_mem_cons.mp each
      by_cases last : slots = []
      · subst last
        rw [Target.typeNames, Target.typeNames, comma, Text.join_single]
        obtain ⟨behind, typed⟩ := reads ('>' :: rest) (⟨name, read⟩ :: frames) offset final
          (.cons (Or.inr (Or.inr rfl)))
        have closed (offset : Nat) :
            stepAfterType lookup slot (⟨name, read⟩ :: frames) offset (.mark '>') =
              .ok ⟨.afterType target, frames⟩ := by
          simp only [stepAfterType, List.reverse_cons, built]
        obtain ⟨later, ends⟩ := run_mark (Or.inr (Or.inr rfl)) closed behind final rest
        exact ⟨later, typed.trans ends⟩
      · have more : Target.typeNames slots ≠ [] := by
          obtain ⟨next, others, rfl⟩ := List.exists_cons_of_ne_nil last
          rw [Target.typeNames]
          simp
        rw [Target.typeNames, comma, Text.join_cons more, ← comma, List.append_assoc,
          List.cons_append]
        obtain ⟨behind, typed⟩ := reads
          (',' :: ((Text.join "," (Target.typeNames slots)).toList ++ '>' :: rest))
          (⟨name, read⟩ :: frames) offset final (.cons (Or.inr (Or.inl rfl)))
        have parted (offset : Nat) :
            stepAfterType lookup slot (⟨name, read⟩ :: frames) offset (.mark ',') =
              .ok ⟨.expectName, ⟨name, slot :: read⟩ :: frames⟩ := rfl
        obtain ⟨next, moved⟩ := run_mark (Or.inr (Or.inl rfl)) parted behind final
          ((Text.join "," (Target.typeNames slots)).toList ++ '>' :: rest)
        have builtRest : build lookup name ((slot :: read).reverse ++ slots) = .ok target := by
          simpa using built
        obtain ⟨later, ends⟩ := ih last eachRest builtRest next
        exact ⟨later, typed.trans (moved.trans ends)⟩

end Reading

/-! ## All targets -/

section Targets

variable {name : String} {slots : List Target}

theorem Reads.word (some : name ≠ "") (isName : AllName name.toList)
    (named : target.typeName = name) (built : build lookup name [] = .ok target) :
    Reads lookup target := by
  intro rest frames offset final closes
  rw [named]
  exact run_word some isName closes built

theorem Reads.arguments (isKeyword : name ≠ "" ∧ AllName name.toList) (some : slots ≠ [])
    (each : ∀ slot ∈ slots, Reads lookup slot)
    (named : target.typeName.toList =
      name.toList ++ '<' :: ((Text.join "," (Target.typeNames slots)).toList ++ ['>']))
    (built : build lookup name slots = .ok target) : Reads lookup target := by
  intro rest frames offset final _
  obtain ⟨inner, opened⟩ := run_open isKeyword.1 isKeyword.2 frames offset final
    ((Text.join "," (Target.typeNames slots)).toList ++ '>' :: rest)
  have builtAll : build lookup name (List.reverse [] ++ slots) = .ok target := built
  obtain ⟨later, closed⟩ := run_arguments some each builtAll frames inner final rest
  refine ⟨later, ?_⟩
  rw [named]
  simp only [List.append_assoc, List.cons_append, List.nil_append]
  exact opened.trans closed

theorem toList_bracketed (name : String) (element : Target) :
    (name ++ "<" ++ element.typeName ++ ">").toList =
      name.toList ++ '<' :: ((Text.join "," (Target.typeNames [element])).toList ++ ['>']) := by
  simp [Target.typeNames, Text.join]

theorem Reads.single {element : Target} (isKeyword : name ≠ "" ∧ AllName name.toList)
    (reads : Reads lookup element)
    (named : target.typeName = name ++ "<" ++ element.typeName ++ ">")
    (built : build lookup name [element] = .ok target) : Reads lookup target := by
  refine .arguments isKeyword (List.cons_ne_nil element []) (by simpa using reads) ?_ built
  rw [named]
  exact toList_bracketed name element

theorem Reads.nullable {inner : Target} (reads : Reads lookup inner) :
    Reads lookup (.nullable inner) := by
  intro rest frames offset final _
  have named : (Target.nullable inner).typeName.toList ++ rest =
      inner.typeName.toList ++ '?' :: rest := by
    rw [Target.typeName, String.toList_append, List.append_assoc]
    rfl
  obtain ⟨behind, typed⟩ := reads ('?' :: rest) frames offset final (.cons (Or.inl rfl))
  have marked (offset : Nat) : stepAfterType lookup inner frames offset (.mark '?') =
      .ok ⟨.afterType (.nullable inner), frames⟩ := by
    cases frames <;> rfl
  obtain ⟨later, ends⟩ := run_mark (Or.inl rfl) marked behind final rest
  refine ⟨later, ?_⟩
  rw [named]
  exact typed.trans ends

theorem scalar_isName : ∀ type ∈ ScalarType.all, type.name ≠ "" ∧ AllName type.name.toList ∧
    keyword? type.name = none ∧ ScalarType.ofName? type.name = some type := by
  decide +kernel

theorem keyword_isName : ∀ name ∈ ["any", "dynamic", "list", "array", "map", "tuple"],
    name ≠ "" ∧ AllName name.toList := by
  decide +kernel

theorem Legible.reads (legible : Legible lookup target) : Reads lookup target := by
  induction legible with
  | scalar type free =>
      obtain ⟨some, isName, noKeyword, found⟩ := scalar_isName type type.mem_all
      refine .word some isName rfl ?_
      simp [build, noKeyword, free, found]
  | any =>
      obtain ⟨some, isName⟩ := keyword_isName "any" (by decide)
      exact .word some isName rfl rfl
  | dynamic =>
      obtain ⟨some, isName⟩ := keyword_isName "dynamic" (by decide)
      exact .word some isName rfl rfl
  | custom isCustom isName found =>
      refine .word isName.some isName.isName rfl ?_
      simp [build, isName.free, found]
  | nullable legible ih => exact ih.nullable
  | @list element legible ih =>
      exact .single (keyword_isName "list" (by decide)) ih rfl rfl
  | @array element legible ih =>
      exact .single (keyword_isName "array" (by decide)) ih rfl rfl
  | @map value legible ih =>
      exact .single (keyword_isName "map" (by decide)) ih rfl rfl
  | @tuple slots some few each ih =>
      refine .arguments (keyword_isName "tuple" (by decide)) some ih ?_ ?_
      · simp [Target.typeName]
      · have isKeyword : keyword? "tuple" = Option.some .tuple := rfl
        simp [build, isKeyword, some, Nat.not_lt.mpr few]

end Targets

/-- The name of a target, with any blanks between its tokens, is read as the target. -/
theorem read_typeName (legible : Legible lookup target) {text : String}
    (spaced : Spaced target.typeName.toList text.toList) : read lookup text = .ok target := by
  refine read_spaced spaced ?_
  obtain ⟨later, ran⟩ := legible.reads [] [] 0 (Text.byteLength target.typeName.toList)
    (by rintro c ⟨⟩)
  rw [List.append_nil] at ran
  rw [read, ran]
  rfl

namespace Orders

def order : Target :=
  .object (ObjectTypeOf.declare 0 "Order" false [] 1 [])

def known (name : String) : Option Target :=
  if name = "Order" then some order else none

def book : Target :=
  .map (.tuple [.nullable order, .array (.scalar .string)])

theorem isCustomName : IsCustomName "Order" :=
  ⟨by decide, by decide +kernel, by decide +kernel⟩

theorem book_legible : Legible known book := by
  have order : Legible known (.nullable order) := .nullable (.custom rfl isCustomName rfl)
  have others : Legible known (.array (.scalar .string)) :=
    .array (.scalar .string (by decide))
  exact .map (.tuple (by simp) (by decide) (by simp [order, others]))

theorem book_spaced :
    Spaced book.typeName.toList " map <tuple\t<Order ? , array<string>>\n> ".toList := by
  have word (gap word : String) (c : Char) (token : AllBlank gap.toList ∧ word.toList ≠ [] ∧
      AllName word.toList ∧ isNameChar c = false) {rest text : List Char}
      (spaced : Spaced (c :: rest) text) :
      Spaced (word.toList ++ c :: rest) (gap.toList ++ word.toList ++ text) :=
    .word token.1 token.2.1 token.2.2.1 (.cons token.2.2.2) spaced
  have mark (gap : String) (c : Char)
      (token : AllBlank gap.toList ∧ isNameChar c = false ∧ Text.isBlank c = false)
      {rest text : List Char} (spaced : Spaced rest text) :
      Spaced (c :: rest) (gap.toList ++ c :: text) :=
    .mark token.1 token.2.1 token.2.2 spaced
  exact
    word " " "map" '<' (by decide +kernel) <|
    mark " " '<' (by decide +kernel) <|
    word "" "tuple" '<' (by decide +kernel) <|
    mark "\t" '<' (by decide +kernel) <|
    word "" "Order" '?' (by decide +kernel) <|
    mark " " '?' (by decide +kernel) <|
    mark " " ',' (by decide +kernel) <|
    word " " "array" '<' (by decide +kernel) <|
    mark "" '<' (by decide +kernel) <|
    word "" "string" '>' (by decide +kernel) <|
    mark "" '>' (by decide +kernel) <|
    mark "" '>' (by decide +kernel) <|
    mark "\n" '>' (by decide +kernel) <|
    .blanks (by decide +kernel : AllBlank [' '])

theorem book_read : Legible known book ∧
    Spaced book.typeName.toList " map <tuple\t<Order ? , array<string>>\n> ".toList ∧
    read known " map <tuple\t<Order ? , array<string>>\n> " = .ok book :=
  ⟨book_legible, book_spaced, read_typeName book_legible book_spaced⟩

end Orders

end TypeExpression

end Unflatten
