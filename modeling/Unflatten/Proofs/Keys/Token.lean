import Unflatten.Proofs.Flattening.Names
import Unflatten.Proofs.Keys.Reach
import Unflatten.Target.Token

/-!
# Identities and the words of tokens

An identity stands for one thing at a time: a descriptor, a constructor, a factory, a predicate or a
rule. What is held at its own identity is determined by it, so the identity of settings determines
the settings. The token of a target consists of words with marks between them. Nullable targets end
in a mark of their own and containers in a bracket; any other token ends in a word, which is either
the identity of a descriptor or stands for itself. Names may hold any text, marks included.
-/

set_option autoImplicit false

namespace Unflatten

/-! ## Identities -/

inductive Allocation where
  | descriptor (target : Target)
  | constructor (constructor : Constructor)
  | factory (factory : Factory)
  | predicate (accepts : Row → Bool)
  | rule (rule : CustomRule)

/-- What stands at each identity. -/
abbrev Memory := Nat → Option Allocation

/-- The identity of a descriptor. -/
def Target.ident? : Target → Option Nat
  | .enum type => some type.ident
  | .object type => some type.ident
  | .sequence type => some type.ident
  | .dictionary type => some type.ident
  | _ => none

/-- Every descriptor that is reached stands at its identity. -/
def Target.Held (memory : Memory) (bindings : Bindings) (settings : Settings)
    (target : Target) : Prop :=
  ∀ inner ident, target.Reaches bindings settings inner → inner.ident? = some ident →
    memory ident = some (.descriptor inner)

def SubtypeChoice.allocation : SubtypeChoice → Allocation
  | .type concrete => .descriptor (.object concrete)
  | .factory maker => .factory maker

structure TypePolicy.Held (memory : Memory) (policy : TypePolicy) : Prop where
  preferred : ∀ constructor, policy.preferred = some constructor →
    memory constructor.ident = some (.constructor constructor)
  default : ∀ type, policy.default = some type →
    memory type.ident = some (.descriptor (.object type))
  factory : ∀ maker, policy.factory = some maker → memory maker.ident = some (.factory maker)
  subtypes : ∀ rule ∈ policy.subtypes, memory rule.ident = some (.predicate rule.accepts) ∧
    memory rule.target.ident = some rule.target.allocation

structure Settings.Held (memory : Memory) (settings : Settings) : Prop where
  rules : ∀ rule ∈ settings.rules, memory rule.ident = some (.rule rule)
  types : ∀ entry ∈ settings.types, entry.2.Held memory

/-! ## What an identity determines -/

section Determined

variable {memory : Memory} {α : Type} {ident : α → Nat} {allocation : α → Allocation}

theorem Memory.same_of_ident
    (injective : ∀ one other, allocation one = allocation other → one = other)
    {one other : α} (held : memory (ident one) = some (allocation one))
    (alsoHeld : memory (ident other) = some (allocation other)) (same : ident one = ident other) :
    one = other := by
  rw [same, alsoHeld] at held
  exact (injective other one (Option.some.inj held)).symm

theorem Memory.option_of_ident
    (injective : ∀ one other, allocation one = allocation other → one = other)
    {one other : Option α} (held : ∀ a, one = some a → memory (ident a) = some (allocation a))
    (alsoHeld : ∀ a, other = some a → memory (ident a) = some (allocation a))
    (same : one.map ident = other.map ident) : one = other := by
  cases one with
  | none =>
      cases other with
      | none => rfl
      | some b => cases same
  | some a =>
      cases other with
      | none => cases same
      | some b =>
          exact congrArg some (same_of_ident injective (held a rfl) (alsoHeld b rfl)
            (Option.some.inj same))

theorem Memory.list_of_ident
    (injective : ∀ one other, allocation one = allocation other → one = other)
    {some others : List α} (held : ∀ a ∈ some, memory (ident a) = .some (allocation a))
    (alsoHeld : ∀ a ∈ others, memory (ident a) = .some (allocation a))
    (same : some.map ident = others.map ident) : some = others := by
  induction some generalizing others with
  | nil =>
      cases others with
      | nil => rfl
      | cons b rest => cases same
  | cons a rest ih =>
      cases others with
      | nil => cases same
      | cons b others =>
          obtain ⟨sameHead, sameRest⟩ := List.cons.inj same
          obtain rfl := same_of_ident injective (held a (by simp)) (alsoHeld b (by simp)) sameHead
          rw [ih (fun c member => held c (by simp [member]))
            (fun c member => alsoHeld c (by simp [member])) sameRest]

end Determined

theorem SubtypeChoice.allocation_injective (one other : SubtypeChoice)
    (same : one.allocation = other.allocation) : one = other := by
  cases one with
  | type concrete =>
      cases other with
      | type another =>
          cases same
          rfl
      | factory maker => cases same
  | factory maker =>
      cases other with
      | type another => cases same
      | factory another =>
          cases same
          rfl

section Policies

variable {memory : Memory}

theorem SubtypeCase.eq_of_idents {one other : List SubtypeCase}
    (held : ∀ rule ∈ one, memory rule.ident = some (.predicate rule.accepts) ∧
      memory rule.target.ident = some rule.target.allocation)
    (alsoHeld : ∀ rule ∈ other, memory rule.ident = some (.predicate rule.accepts) ∧
      memory rule.target.ident = some rule.target.allocation)
    (same : (one.flatMap fun rule => [some rule.ident, some rule.target.ident]) =
      other.flatMap fun rule => [some rule.ident, some rule.target.ident]) : one = other := by
  induction one generalizing other with
  | nil =>
      cases other with
      | nil => rfl
      | cons rule rest => cases same
  | cons rule rest ih =>
      cases other with
      | nil => cases same
      | cons another others =>
          obtain ⟨sameRule, sameTail⟩ := List.cons.inj same
          obtain ⟨sameTarget, sameRest⟩ := List.cons.inj sameTail
          obtain ⟨isRule, isTarget⟩ := held rule (by simp)
          obtain ⟨isOther, isOtherTarget⟩ := alsoHeld another (by simp)
          have targets : rule.target = another.target :=
            Memory.same_of_ident SubtypeChoice.allocation_injective isTarget isOtherTarget
              (Option.some.inj sameTarget)
          have idents := Option.some.inj sameRule
          have accepts : another.accepts = rule.accepts := by
            rw [idents, isOther] at isRule
            exact Allocation.predicate.inj (Option.some.inj isRule)
          have rules : rule = another := by
            obtain ⟨ident, test, target⟩ := rule
            obtain ⟨otherIdent, otherTest, otherTarget⟩ := another
            simp only at idents accepts targets
            rw [idents, ← accepts, targets]
          rw [rules, ih (fun earlier member => held earlier (by simp [member]))
            (fun earlier member => alsoHeld earlier (by simp [member])) sameRest]

theorem TypePolicy.eq_of_idents {one other : TypePolicy} (held : one.Held memory)
    (alsoHeld : other.Held memory) (same : one.idents = other.idents) : one = other := by
  obtain ⟨preferred, default, factory, subtypes⟩ := one
  obtain ⟨otherPreferred, otherDefault, otherFactory, otherSubtypes⟩ := other
  simp only [idents, List.cons_append, List.nil_append, List.cons.injEq] at same
  obtain ⟨samePreferred, sameDefault, sameFactory, sameSubtypes⟩ := same
  have isPreferred : preferred = otherPreferred :=
    Memory.option_of_ident (fun _ _ same => by cases same; rfl) held.preferred alsoHeld.preferred
      samePreferred
  have isDefault : default = otherDefault :=
    @Memory.option_of_ident memory ObjectType ObjectTypeOf.ident
      (fun type => .descriptor (.object type)) (fun _ _ same => by cases same; rfl) _ _
      held.default alsoHeld.default sameDefault
  have isFactory : factory = otherFactory :=
    Memory.option_of_ident (fun _ _ same => by cases same; rfl) held.factory alsoHeld.factory
      sameFactory
  have isSubtypes := SubtypeCase.eq_of_idents held.subtypes alsoHeld.subtypes sameSubtypes
  simp only at isSubtypes
  rw [isPreferred, isDefault, isFactory, isSubtypes]

theorem Settings.eq_of_identity {one other : Settings} (held : one.Held memory)
    (alsoHeld : other.Held memory) (same : one.identity = other.identity) : one = other := by
  obtain ⟨separator, sentinel, rules, types⟩ := one
  obtain ⟨otherSeparator, otherSentinel, otherRules, otherTypes⟩ := other
  simp only [identity, SettingsIdentity.mk.injEq] at same
  obtain ⟨rfl, rfl, sameRules, sameTypes⟩ := same
  have isRules : rules = otherRules :=
    Memory.list_of_ident (fun _ _ same => by cases same; rfl) held.rules alsoHeld.rules sameRules
  have isTypes : types = otherTypes := by
    have heldTypes := held.types
    have alsoHeldTypes := alsoHeld.types
    simp only at heldTypes alsoHeldTypes
    clear held alsoHeld
    induction types generalizing otherTypes with
    | nil =>
        cases otherTypes with
        | nil => rfl
        | cons entry rest => cases sameTypes
    | cons entry rest ih =>
        cases otherTypes with
        | nil => cases sameTypes
        | cons another others =>
            obtain ⟨name, policy⟩ := entry
            obtain ⟨otherName, otherPolicy⟩ := another
            simp only [List.map_cons, List.cons.injEq, Prod.mk.injEq] at sameTypes
            obtain ⟨⟨rfl, sameIdents⟩, sameRest⟩ := sameTypes
            have policies : policy = otherPolicy :=
              TypePolicy.eq_of_idents (heldTypes (name, policy) (by simp))
                (alsoHeldTypes (name, otherPolicy) (by simp)) sameIdents
            have rests := ih others sameRest
              (fun entry member => heldTypes entry (by simp [member]))
              (fun entry member => alsoHeldTypes entry (by simp [member]))
            rw [policies, rests]
  rw [isRules, isTypes]

end Policies

/-! ## Words -/

namespace Text

/-- The characters that end the words of a token. -/
def marks : List Char :=
  ['#', '<', '>', ',', '?']

def IsPlain (chars : List Char) : Prop :=
  ∀ c ∈ chars, c ∉ marks

instance IsPlain.decidable (chars : List Char) : Decidable (IsPlain chars) :=
  List.decidableBAll (fun c => c ∉ marks) chars

def EndsInMark (chars : List Char) : Prop :=
  ∀ c, chars.getLast? = some c → c ∈ marks

section Words

variable {one other word text rest : List Char}

theorem EndsInMark.plain_end (ends : EndsInMark (one ++ rest)) (plain : IsPlain rest) :
    rest = [] := by
  rcases List.eq_nil_or_concat rest with same | ⟨init, last, same⟩
  · exact same
  · have lastOf : (one ++ rest).getLast? = some last := by
      rw [same, List.concat_eq_append, ← List.append_assoc, List.getLast?_concat]
    have member : last ∈ rest := by
      rw [same]
      simp
    exact absurd (ends last lastOf) (plain last member)

theorem word_unique (ends : EndsInMark one) (alsoEnds : EndsInMark other) (plain : IsPlain word)
    (alsoPlain : IsPlain text) (same : one ++ word = other ++ text) :
    one = other ∧ word = text := by
  rcases List.append_eq_append_iff.mp same with ⟨rest, rfl, rfl⟩ | ⟨rest, rfl, rfl⟩
  · have empty := alsoEnds.plain_end fun c member => plain c (by simp [member])
    simp [empty]
  · have empty := ends.plain_end fun c member => alsoPlain c (by simp [member])
    simp [empty]

theorem leadOf_eq_join {separator : Char} {path : List String} (some : path ≠ []) :
    leadOf separator path = (join separator.toString path).toList ++ [separator] := by
  rcases List.eq_nil_or_concat path with empty | ⟨init, last, rfl⟩
  · exact absurd empty some
  · rw [List.concat_eq_append, join_append (by simp), join_single]
    simp [leadOf]

end Words

end Text

/-! ## Identities in tokens -/

section Identities

/-- The number that digits in base sixteen stand for. -/
def identityOf (digits : List Char) : Nat :=
  digits.foldl (fun count c => 16 * count + (Digits.hexValue? c).getD 0) 0

theorem digitChar_facts : ∀ digit < 16,
    (Digits.hexValue? (Nat.digitChar digit)).getD 0 = digit ∧
      Nat.digitChar digit ∉ Text.marks := by
  decide

theorem identityOf_toDigits (ident : Nat) : identityOf (Nat.toDigits 16 ident) = ident := by
  induction ident using Nat.strongRecOn with
  | ind ident ih =>
      by_cases small : ident < 16
      · rw [Nat.toDigits_of_lt_base small]
        simpa [identityOf] using (digitChar_facts ident small).1
      · have smaller := ih (ident / 16) (Nat.div_lt_self (by omega) (by omega))
        have last := (digitChar_facts (ident % 16) (Nat.mod_lt _ (by omega))).1
        rw [Nat.toDigits_of_base_le (by omega) (by omega), identityOf, List.foldl_append,
          ← identityOf, smaller]
        simp only [List.foldl_cons, List.foldl_nil, last]
        omega

theorem identityText_plain (ident : Nat) : Text.IsPlain (identityText ident).toList := by
  rw [identityText, String.toList_ofList]
  induction ident using Nat.strongRecOn with
  | ind ident ih =>
      intro c member
      by_cases small : ident < 16
      · rw [Nat.toDigits_of_lt_base small, List.mem_singleton] at member
        rw [member]
        exact (digitChar_facts ident small).2
      · rw [Nat.toDigits_of_base_le (by omega) (by omega), List.mem_append,
          List.mem_singleton] at member
        rcases member with earlier | rfl
        · exact ih (ident / 16) (Nat.div_lt_self (by omega) (by omega)) c earlier
        · exact (digitChar_facts (ident % 16) (Nat.mod_lt _ (by omega))).2

theorem identityText_some (ident : Nat) : (identityText ident).toList ≠ [] := by
  rw [identityText, String.toList_ofList]
  exact Nat.toDigits_ne_nil

theorem identityText_injective {ident other : Nat}
    (same : (identityText ident).toList = (identityText other).toList) : ident = other := by
  rw [identityText, identityText, String.toList_ofList, String.toList_ofList] at same
  rw [← identityOf_toDigits ident, same, identityOf_toDigits]

end Identities

namespace Target

/-! ## Spelling -/

def descriptorStem (kind name : String) : List Char :=
  kind.toList ++ ":".toList ++ name.toList ++ ['#']

/-- What stands in the token of a descriptor before its identity. -/
def stem : Target → List Char
  | enum type => descriptorStem "enum" type.name
  | object type => descriptorStem "object" type.name
  | sequence type => descriptorStem "collection" type.name
  | dictionary type => descriptorStem "concrete-map" type.name
  | scalar _ | nullable _ | any | dynamic | reference _ | list _ | map _ | array _ | tuple _ => []

/-- The identity of a descriptor or the word that stands for a target without one. -/
def word : Target → List Char
  | scalar type => type.name.toList
  | nullable _ => []
  | enum type => (identityText type.ident).toList
  | any => "any".toList
  | dynamic => "dynamic".toList
  | object type => (identityText type.ident).toList
  | reference ref => "unbound:".toList ++ ref.name.toList
  | list _ => "list".toList
  | sequence type => (identityText type.ident).toList
  | map _ => "map".toList
  | dictionary type => (identityText type.ident).toList
  | array _ => "array".toList
  | tuple _ => "tuple".toList

/-- The mark at the end of a token. -/
def closing : Target → Option Char
  | nullable _ => some '?'
  | list _ | sequence _ | map _ | dictionary _ | array _ | tuple _ => some '>'
  | scalar _ | enum _ | any | dynamic | object _ | reference _ => none

def spelled (bindings : Bindings) (target : Target) : List Char :=
  (target.token bindings).toList

/-- The tokens inside a target with commas between them. -/
def spelledInside (bindings : Bindings) (targets : List Target) : List Char :=
  (Text.join "," (targets.map (token bindings))).toList

section Spelling

variable {bindings : Bindings} {target : Target}

theorem toList_descriptorToken (kind name : String) (ident : Nat) :
    (descriptorToken kind name ident).toList =
      descriptorStem kind name ++ (identityText ident).toList := by
  simp only [descriptorToken, descriptorStem, String.toList_append]
  rfl

theorem tokens_eq_map (targets : List Target) :
    tokens bindings targets = targets.map (token bindings) := by
  induction targets with
  | nil => rfl
  | cons target rest ih => rw [tokens, ih, List.map_cons]

theorem token_resolve (target : Target) :
    (target.resolve bindings).token bindings = target.token bindings := by
  cases target with
  | reference ref =>
      rw [resolve]
      split
      · rename_i type found
        rw [token, token, found]
      · rfl
  | _ => rfl

theorem spelledInside_single (target : Target) :
    spelledInside bindings [target] = target.spelled bindings :=
  @Text.join_single ',' _

theorem spelled_nullable (inner : Target) :
    (nullable inner).spelled bindings = inner.spelled bindings ++ ['?'] := by
  rw [spelled, token, String.toList_append]
  rfl

theorem spelled_bare (bare : target.closing = none) (resolved : target.resolve bindings = target) :
    target.spelled bindings = target.stem ++ target.word := by
  cases target with
  | reference ref =>
      rw [resolve] at resolved
      split at resolved
      · cases resolved
      · rename_i unbound
        have spelling : token bindings (reference ref) = "unbound:" ++ ref.name := by
          rw [token, unbound]
        rw [spelled, spelling, String.toList_append]
        rfl
  | scalar | any | dynamic => rfl
  | enum | object => exact toList_descriptorToken _ _ _
  | _ => simp [closing] at bare

theorem spelled_applied (applied : target.closing = some '>') :
    target.spelled bindings =
      target.stem ++ target.word ++ ['<'] ++ spelledInside bindings target.inside ++ ['>'] := by
  cases target with
  | list | map | array =>
    rw [spelled, token, String.toList_append, String.toList_append, inside, spelledInside_single]
    rfl
  | sequence | dictionary =>
    rw [spelled, token, String.toList_append, String.toList_append, String.toList_append,
      toList_descriptorToken, inside, spelledInside_single]
    rfl
  | tuple slots =>
    rw [spelled, token, String.toList_append, String.toList_append, tokens_eq_map]
    rfl
  | _ => simp [closing] at applied

end Spelling

/-! ## Words -/

section Words

variable {bindings : Bindings} {target : Target}

theorem ScalarType.name_plain (type : ScalarType) : Text.IsPlain type.name.toList := by
  have each : ∀ type ∈ ScalarType.all, Text.IsPlain type.name.toList := by decide
  exact each type type.mem_all

theorem ScalarType.name_some (type : ScalarType) : type.name.toList ≠ [] := by
  have each : ∀ type ∈ ScalarType.all, type.name.toList ≠ [] := by decide
  exact each type type.mem_all

theorem ScalarType.name_injective {type other : ScalarType}
    (same : type.name.toList = other.name.toList) : type = other := by
  have each : ∀ type ∈ ScalarType.all, ∀ other ∈ ScalarType.all,
      type.name.toList = other.name.toList → type = other := by decide
  exact each type type.mem_all other other.mem_all same

theorem ScalarType.name_apart (type : ScalarType) :
    type.name.toList ≠ "any".toList ∧ type.name.toList ≠ "dynamic".toList ∧
      ¬ "unbound:".toList <+: type.name.toList := by
  have each : ∀ type ∈ ScalarType.all, type.name.toList ≠ "any".toList ∧
      type.name.toList ≠ "dynamic".toList ∧ ¬ "unbound:".toList <+: type.name.toList := by decide
  exact each type type.mem_all

theorem fixedWord_plain :
    ∀ text ∈ ["", "any", "dynamic", "list", "map", "array", "tuple", "unbound:"],
      Text.IsPlain text.toList := by
  decide

theorem fixedWord_some :
    ∀ text ∈ ["any", "dynamic", "list", "map", "array", "tuple", "unbound:"],
      text.toList ≠ [] := by
  decide

theorem word_plain (plain : ∀ ref, target = reference ref → Text.IsPlain ref.name.toList) :
    Text.IsPlain target.word := by
  cases target with
  | scalar type => exact ScalarType.name_plain type
  | enum | object | sequence | dictionary => exact identityText_plain _
  | reference ref =>
      intro c member
      rcases List.mem_append.mp member with lead | name
      · exact fixedWord_plain "unbound:" (by simp) c lead
      · exact plain ref rfl c name
  | nullable => exact fixedWord_plain "" (by simp)
  | any => exact fixedWord_plain "any" (by simp)
  | dynamic => exact fixedWord_plain "dynamic" (by simp)
  | list => exact fixedWord_plain "list" (by simp)
  | map => exact fixedWord_plain "map" (by simp)
  | array => exact fixedWord_plain "array" (by simp)
  | tuple => exact fixedWord_plain "tuple" (by simp)

theorem word_some (named : target.closing ≠ some '?') : target.word ≠ [] := by
  cases target with
  | scalar type => exact ScalarType.name_some type
  | enum | object | sequence | dictionary => exact identityText_some _
  | nullable => exact absurd rfl named
  | reference ref =>
      exact List.append_ne_nil_of_left_ne_nil (fixedWord_some "unbound:" (by simp)) ref.name.toList
  | any => exact fixedWord_some "any" (by simp)
  | dynamic => exact fixedWord_some "dynamic" (by simp)
  | list => exact fixedWord_some "list" (by simp)
  | map => exact fixedWord_some "map" (by simp)
  | array => exact fixedWord_some "array" (by simp)
  | tuple => exact fixedWord_some "tuple" (by simp)

theorem last_mark (before : List Char) (resolved : target.resolve bindings = target)
    (plain : ∀ ref, target = reference ref → Text.IsPlain ref.name.toList) :
    ((before ++ target.spelled bindings).getLast?.filter fun c => decide (c ∈ Text.marks)) =
      target.closing := by
  cases closes : target.closing with
  | none =>
      have named : target.closing ≠ some '?' := by
        rw [closes]
        decide
      obtain ⟨init, last, ends⟩ :=
        (List.eq_nil_or_concat target.word).resolve_left (word_some named)
      have notMark : last ∉ Text.marks := word_plain plain last (by simp [ends])
      rw [spelled_bare closes resolved, ends, List.concat_eq_append, ← List.append_assoc,
        ← List.append_assoc, List.getLast?_concat]
      simp [notMark]
  | some c =>
      have ends : ∃ init, target.spelled bindings = init ++ [c] ∧ c ∈ Text.marks := by
        cases target with
        | nullable inner =>
            obtain rfl := Option.some.inj closes
            exact ⟨_, spelled_nullable inner, by decide⟩
        | list | sequence | map | dictionary | array | tuple =>
            obtain rfl := Option.some.inj closes
            exact ⟨_, spelled_applied rfl, by decide⟩
        | scalar | enum | any | dynamic | object | reference => cases closes
      obtain ⟨init, spelling, isMark⟩ := ends
      rw [spelling, ← List.append_assoc, List.getLast?_concat]
      simp [isMark]

end Words

end Target

end Unflatten
