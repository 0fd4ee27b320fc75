import Mathlib.Data.List.Induction
import Unflatten.Proofs.Keys.Token

/-!
# Tokens determine targets

The names in a token may hold any text, brackets and commas included, so a token is read from its
end. Its last mark tells nullable targets, containers and others apart, and the word behind the
last mark is either the identity of a descriptor, which determines all that stands before it, or a
word that stands for itself.
-/

set_option autoImplicit false

namespace Unflatten

namespace Target

/-- Every descriptor that is reached stands at its identity, and the names of unbound references
have no marks in them. -/
structure Readable (memory : Memory) (bindings : Bindings) (settings : Settings)
    (target : Target) : Prop where
  held : target.Held memory bindings settings
  plain : ∀ ref, target.Reaches bindings settings (.reference ref) → bindings.find? ref = none →
    Text.IsPlain ref.name.toList

/-- Two readable targets for which no object type that both reach has references bound in two
ways. -/
structure Comparable (memory : Memory) (bindings later : Bindings) (settings : Settings)
    (one other : Target) : Prop where
  readable : one.Readable memory bindings settings
  alsoReadable : other.Readable memory later settings
  steady : ∀ type, one.Reaches bindings settings (.object type) →
    other.Reaches later settings (.object type) →
    (Target.object type).Steady bindings later settings

/-- A token may start here. -/
def Opens (before : List Char) : Prop :=
  ∀ c, before.getLast? = some c → c = '<' ∨ c = ','

section Decoding

variable {memory : Memory} {bindings later : Bindings} {settings : Settings}
variable {one other whole inner : Target} {before start : List Char}

theorem Readable.reached (readable : whole.Readable memory bindings settings)
    (reached : whole.Reaches bindings settings inner) :
    inner.Readable memory bindings settings :=
  ⟨fun deep ident further => readable.held deep ident (reached.trans further),
    fun ref further => readable.plain ref (reached.trans further)⟩

theorem Comparable.reached {deep : Target}
    (comparable : Comparable memory bindings later settings one other)
    (reached : one.Reaches bindings settings inner)
    (alsoReached : other.Reaches later settings deep) :
    Comparable memory bindings later settings inner deep :=
  ⟨comparable.readable.reached reached, comparable.alsoReadable.reached alsoReached,
    fun type further alsoFurther =>
      comparable.steady type (reached.trans further) (alsoReached.trans alsoFurther)⟩

theorem Opens.endsInMark (opens : Opens before) : Text.EndsInMark before := by
  intro c last
  rcases opens c last with rfl | rfl
  · decide
  · decide

theorem Opens.not_ended (opens : Opens (before ++ ['#'])) : False := by
  rcases opens '#' List.getLast?_concat with same | same
  · exact absurd same (by decide)
  · exact absurd same (by decide)

theorem stem_of_descriptor {ident : Nat} (described : one.ident? = some ident) :
    ∃ front, one.stem = front ++ ['#'] ∧ one.word = (identityText ident).toList := by
  cases one with
  | enum | object | sequence | dictionary =>
    obtain rfl := Option.some.inj described
    exact ⟨_, rfl, rfl⟩
  | scalar | nullable | any | dynamic | reference | list | map | array | tuple => cases described

theorem stem_of_word (undescribed : one.ident? = none) : one.stem = [] := by
  cases one with
  | enum | object | sequence | dictionary => cases undescribed
  | scalar | nullable | any | dynamic | reference | list | map | array | tuple => rfl

theorem Opens.stem (opens : Opens before) : Text.EndsInMark (before ++ one.stem) := by
  cases described : one.ident? with
  | none =>
      rw [stem_of_word described, List.append_nil]
      exact opens.endsInMark
  | some ident =>
      obtain ⟨front, same, -⟩ := stem_of_descriptor described
      intro c last
      rw [same, ← List.append_assoc, List.getLast?_concat, Option.some.injEq] at last
      rw [← last]
      decide

theorem head_unique (held : one.Held memory bindings settings)
    (alsoHeld : other.Held memory later settings)
    (plain : Text.IsPlain one.word) (alsoPlain : Text.IsPlain other.word)
    (opens : Opens before) (alsoOpens : Opens start)
    (same : before ++ one.stem ++ one.word = start ++ other.stem ++ other.word) :
    before = start ∧ one.word = other.word ∧ one.ident? = other.ident? ∧
      (one.ident?.isSome = true → one = other) := by
  obtain ⟨stems, words⟩ := Text.word_unique opens.stem alsoOpens.stem plain alsoPlain same
  cases described : one.ident? with
  | none =>
      rw [stem_of_word described, List.append_nil] at stems
      cases alsoDescribed : other.ident? with
      | none =>
          rw [stem_of_word alsoDescribed, List.append_nil] at stems
          exact ⟨stems, words, rfl, fun impossible => by cases impossible⟩
      | some ident =>
          obtain ⟨front, spelling, -⟩ := stem_of_descriptor alsoDescribed
          rw [spelling, ← List.append_assoc] at stems
          rw [stems] at opens
          exact opens.not_ended.elim
  | some ident =>
      obtain ⟨front, spelling, identity⟩ := stem_of_descriptor described
      cases alsoDescribed : other.ident? with
      | none =>
          rw [stem_of_word alsoDescribed, List.append_nil, spelling, ← List.append_assoc] at stems
          rw [← stems] at alsoOpens
          exact alsoOpens.not_ended.elim
      | some another =>
          obtain ⟨-, -, alsoIdentity⟩ := stem_of_descriptor alsoDescribed
          rw [identity, alsoIdentity] at words
          obtain rfl := identityText_injective words
          have stored := held one ident Relation.ReflTransGen.refl described
          rw [alsoHeld other ident Relation.ReflTransGen.refl alsoDescribed] at stored
          obtain rfl := Allocation.descriptor.inj (Option.some.inj stored)
          exact ⟨List.append_cancel_right stems, rfl, rfl, fun _ => rfl⟩

theorem closing_cases (target : Target) :
    target.closing = none ∨ target.closing = some '?' ∨ target.closing = some '>' := by
  cases target with
  | nullable => exact Or.inr (Or.inl rfl)
  | list | sequence | map | dictionary | array | tuple => exact Or.inr (Or.inr rfl)
  | scalar | enum | any | dynamic | object | reference => exact Or.inl rfl

theorem Alike.of_bare_word (undescribed : one.ident? = none)
    (alsoUndescribed : other.ident? = none) (bare : one.closing = none)
    (alsoBare : other.closing = none) (words : one.word = other.word) :
    Alike bindings later settings one other := by
  cases one with
  | enum | object | sequence | dictionary => cases undescribed
  | nullable | list | map | array | tuple => cases bare
  | scalar type =>
      obtain ⟨notAny, notDynamic, notUnbound⟩ := ScalarType.name_apart type
      cases other with
      | scalar another =>
          obtain rfl := ScalarType.name_injective words
          exact Alike.scalar type
      | any => exact absurd words notAny
      | dynamic => exact absurd words notDynamic
      | reference ref => exact absurd ⟨ref.name.toList, words.symm⟩ notUnbound
      | enum | object | sequence | dictionary => cases alsoUndescribed
      | nullable | list | map | array | tuple => cases alsoBare
  | any =>
      cases other with
      | any => exact Alike.any
      | scalar type => exact absurd words.symm (ScalarType.name_apart type).1
      | dynamic | reference => cases words
      | enum | object | sequence | dictionary => cases alsoUndescribed
      | nullable | list | map | array | tuple => cases alsoBare
  | dynamic =>
      cases other with
      | dynamic => exact Alike.dynamic
      | scalar type => exact absurd words.symm (ScalarType.name_apart type).2.1
      | any | reference => cases words
      | enum | object | sequence | dictionary => cases alsoUndescribed
      | nullable | list | map | array | tuple => cases alsoBare
  | reference ref =>
      cases other with
      | reference another =>
          exact Alike.unbound (String.toList_inj.mp (List.append_cancel_left words))
      | scalar type =>
          exact absurd ⟨ref.name.toList, words⟩ (ScalarType.name_apart type).2.2
      | any | dynamic => cases words
      | enum | object | sequence | dictionary => cases alsoUndescribed
      | nullable | list | map | array | tuple => cases alsoBare

theorem Alike.of_applied_word (undescribed : one.ident? = none)
    (alsoUndescribed : other.ident? = none) (applied : one.closing = some '>')
    (alsoApplied : other.closing = some '>') (words : one.word = other.word)
    (alike : List.Forall₂ (fun slot other =>
      Alike bindings later settings (slot.resolve bindings) (other.resolve later))
      one.inside other.inside) :
    Alike bindings later settings one other := by
  cases one with
  | enum | object | sequence | dictionary => cases undescribed
  | nullable | scalar | any | dynamic | reference => cases applied
  | list element =>
      cases other with
      | list another =>
          cases alike with
          | cons elements _ => exact Alike.list elements
      | map | array | tuple => cases words
      | enum | object | sequence | dictionary => cases alsoUndescribed
      | nullable | scalar | any | dynamic | reference => cases alsoApplied
  | map value =>
      cases other with
      | map another =>
          cases alike with
          | cons values _ => exact Alike.map values
      | list | array | tuple => cases words
      | enum | object | sequence | dictionary => cases alsoUndescribed
      | nullable | scalar | any | dynamic | reference => cases alsoApplied
  | array element =>
      cases other with
      | array another =>
          cases alike with
          | cons elements _ => exact Alike.array elements
      | list | map | tuple => cases words
      | enum | object | sequence | dictionary => cases alsoUndescribed
      | nullable | scalar | any | dynamic | reference => cases alsoApplied
  | tuple slots =>
      cases other with
      | tuple others => exact Alike.tuple alike
      | list | map | array => cases words
      | enum | object | sequence | dictionary => cases alsoUndescribed
      | nullable | scalar | any | dynamic | reference => cases alsoApplied

theorem Alike.of_word (undescribed : one.ident? = none) (alsoUndescribed : other.ident? = none)
    (named : one.closing ≠ some '?') (closings : one.closing = other.closing)
    (words : one.word = other.word)
    (alike : List.Forall₂ (fun slot other =>
      Alike bindings later settings (slot.resolve bindings) (other.resolve later))
      one.inside other.inside) :
    Alike bindings later settings one other := by
  rcases closing_cases one with bare | nullable | applied
  · exact Alike.of_bare_word undescribed alsoUndescribed bare (closings.symm.trans bare) words
  · exact absurd nullable named
  · exact Alike.of_applied_word undescribed alsoUndescribed applied (closings.symm.trans applied)
      words alike

/-- Equal tokens at the ends of two texts are tokens of alike targets. -/
def Decodes (memory : Memory) (bindings later : Bindings) (settings : Settings)
    (one : Target) : Prop :=
  ∀ (other : Target) (before start : List Char),
    Comparable memory bindings later settings one other → Opens before → Opens start →
    before ++ one.spelled bindings = start ++ other.spelled later →
      before = start ∧
        Alike bindings later settings (one.resolve bindings) (other.resolve later)

theorem Readable.last_mark (readable : one.Readable memory bindings settings)
    (resolved : one.resolve bindings = one) (before : List Char) :
    ((before ++ one.spelled bindings).getLast?.filter fun c => decide (c ∈ Text.marks)) =
      one.closing := by
  refine Target.last_mark before resolved fun ref same => ?_
  subst same
  refine readable.plain ref Relation.ReflTransGen.refl ?_
  rw [Target.resolve] at resolved
  split at resolved
  · cases resolved
  · assumption

theorem spelled_resolve (target : Target) :
    (target.resolve bindings).spelled bindings = target.spelled bindings := by
  rw [spelled, spelled, token_resolve]

theorem Readable.not_opens (readable : one.Readable memory bindings settings)
    (opens : Opens (before ++ one.spelled bindings)) (some : before ++ one.spelled bindings ≠ []) :
    False := by
  have known := readable.reached (Reaches.resolve one)
  have marked := known.last_mark (resolve_resolve one) before
  rw [spelled_resolve] at marked
  obtain ⟨init, last, ends⟩ := (List.eq_nil_or_concat _).resolve_left some
  rw [List.concat_eq_append] at ends
  rw [ends] at opens marked
  rw [List.getLast?_concat] at marked
  have closes : ∀ c, (one.resolve bindings).closing = .some c → c = '?' ∨ c = '>' := by
    intro c closing
    cases shape : one.resolve bindings with
    | nullable =>
        rw [shape] at closing
        exact Or.inl (Option.some.inj closing).symm
    | list | sequence | map | dictionary | array | tuple =>
        rw [shape] at closing
        exact Or.inr (Option.some.inj closing).symm
    | scalar | enum | any | dynamic | object | reference =>
        rw [shape] at closing
        cases closing
  rcases opens last List.getLast?_concat with rfl | rfl
  · rcases closes '<' marked.symm with same | same
    · exact absurd same (by decide)
    · exact absurd same (by decide)
  · rcases closes ',' marked.symm with same | same
    · exact absurd same (by decide)
    · exact absurd same (by decide)

theorem spelledInside_snoc (slots : List Target) (slot : Target) :
    spelledInside bindings (slots ++ [slot]) =
      Text.leadOf ',' (slots.map (token bindings)) ++ slot.spelled bindings := by
  rw [spelledInside, List.map_append, List.map_singleton]
  exact (@Text.join_append ',' _ _ (by simp)).trans
    (congrArg _ (@Text.join_single ',' _))

theorem leadOf_tokens {slots : List Target} (some : slots ≠ []) :
    Text.leadOf ',' (slots.map (token bindings)) = spelledInside bindings slots ++ [','] :=
  Text.leadOf_eq_join (by simpa using some)

theorem Opens.bracket : Opens (before ++ ['<']) := by
  intro c last
  rw [List.getLast?_concat, Option.some.injEq] at last
  exact Or.inl last.symm

theorem Opens.lead (slots : List Target) :
    Opens (before ++ ['<'] ++ Text.leadOf ',' (slots.map (token bindings))) := by
  by_cases empty : slots = []
  · subst empty
    simpa [Text.leadOf] using Opens.bracket
  · intro c last
    rw [leadOf_tokens empty, ← List.append_assoc, List.getLast?_concat, Option.some.injEq] at last
    exact Or.inr last.symm

theorem bracket_ne_lead {text : List Char} (same : before ++ ['<'] = text ++ [',']) : False := by
  have ends := congrArg List.getLast? same
  rw [List.getLast?_concat, List.getLast?_concat] at ends
  exact absurd ends (by decide)

theorem leads_unique {slots others : List Target}
    (same : before ++ ['<'] ++ Text.leadOf ',' (slots.map (token bindings)) =
      start ++ ['<'] ++ Text.leadOf ',' (others.map (token later))) :
    before ++ ['<'] ++ spelledInside bindings slots =
      start ++ ['<'] ++ spelledInside later others := by
  have empty : ∀ some, Text.leadOf ',' (([] : List Target).map (token some)) = [] := fun _ => rfl
  by_cases none : slots = []
  · subst none
    by_cases alsoNone : others = []
    · subst alsoNone
      exact same
    · rw [leadOf_tokens alsoNone, empty, List.append_nil, ← List.append_assoc] at same
      exact (bracket_ne_lead same).elim
  · by_cases alsoNone : others = []
    · subst alsoNone
      rw [leadOf_tokens none, empty, List.append_nil, ← List.append_assoc] at same
      exact (bracket_ne_lead same.symm).elim
    · rw [leadOf_tokens none, leadOf_tokens alsoNone, ← List.append_assoc,
        ← List.append_assoc] at same
      exact List.append_cancel_right same

/-- The tokens between brackets are read from the last to the first. -/
theorem inside_unique {slots others : List Target}
    (decodes : ∀ slot ∈ slots, Decodes memory bindings later settings slot)
    (comparable : ∀ slot ∈ slots, ∀ another ∈ others,
      Comparable memory bindings later settings slot another)
    (readable : ∀ slot ∈ slots, slot.Readable memory bindings settings)
    (alsoReadable : ∀ another ∈ others, another.Readable memory later settings)
    (same : before ++ ['<'] ++ spelledInside bindings slots =
      start ++ ['<'] ++ spelledInside later others) :
    before = start ∧ List.Forall₂ (fun slot another =>
      Alike bindings later settings (slot.resolve bindings) (another.resolve later))
      slots others := by
  have empty : ∀ some, spelledInside some [] = [] := fun _ => rfl
  induction slots using List.reverseRecOn generalizing others with
  | nil =>
      rcases List.eq_nil_or_concat others with rfl | ⟨rest, another, rfl⟩
      · exact ⟨by simpa [empty] using same, List.Forall₂.nil⟩
      · rw [empty, List.append_nil, List.concat_eq_append, spelledInside_snoc,
          ← List.append_assoc] at same
        have opens : Opens (before ++ ['<']) := Opens.bracket
        rw [same] at opens
        exact ((alsoReadable another (by simp)).not_opens opens (by simp)).elim
  | append_singleton slots slot ih =>
      rcases List.eq_nil_or_concat others with rfl | ⟨rest, another, rfl⟩
      · rw [empty, List.append_nil, spelledInside_snoc, ← List.append_assoc] at same
        have opens : Opens (start ++ ['<']) := Opens.bracket
        rw [← same] at opens
        exact ((readable slot (by simp)).not_opens opens (by simp)).elim
      · rw [List.concat_eq_append] at comparable alsoReadable same ⊢
        rw [spelledInside_snoc, spelledInside_snoc, ← List.append_assoc,
          ← List.append_assoc] at same
        obtain ⟨leads, last⟩ := decodes slot (by simp) another _ _
          (comparable slot (by simp) another (by simp)) (Opens.lead slots) (Opens.lead rest) same
        obtain ⟨heads, alike⟩ := ih (fun other member => decodes other (by simp [member]))
          (fun other member more isMore => comparable other (by simp [member]) more
            (by simp [isMore]))
          (fun other member => readable other (by simp [member]))
          (fun other member => alsoReadable other (by simp [member])) (leads_unique leads)
        exact ⟨heads, List.rel_append alike (List.Forall₂.cons last List.Forall₂.nil)⟩

theorem Alike.of_head (comparable : Comparable memory bindings later settings one other)
    (named : one.closing ≠ some '?') (closings : one.closing = other.closing)
    (words : one.word = other.word) (idents : one.ident? = other.ident?)
    (identical : one.ident?.isSome = true → one = other)
    (alike : List.Forall₂ (fun slot other =>
      Alike bindings later settings (slot.resolve bindings) (other.resolve later))
      one.inside other.inside) :
    Alike bindings later settings one other := by
  cases described : one.ident? with
  | none => exact Alike.of_word described (idents ▸ described) named closings words alike
  | some ident =>
      obtain rfl := identical (by rw [described]; rfl)
      cases one with
      | enum type => exact Alike.enum type
      | object type =>
          exact Alike.object type
            (comparable.steady type Relation.ReflTransGen.refl Relation.ReflTransGen.refl)
      | sequence type =>
          cases alike with
          | cons elements _ => exact Alike.sequence type elements
      | dictionary type =>
          cases alike with
          | cons values _ => exact Alike.dictionary type values
      | scalar | nullable | any | dynamic | reference | list | map | array | tuple =>
        cases described

theorem inside_of_bare (bare : one.closing = none) : one.inside = [] := by
  cases one with
  | scalar | enum | any | dynamic | object | reference => rfl
  | nullable | list | sequence | map | dictionary | array | tuple => cases bare

theorem nullable_of_closing (closes : one.closing = some '?') : ∃ inner, one = nullable inner := by
  cases one with
  | nullable inner => exact ⟨inner, rfl⟩
  | list | sequence | map | dictionary | array | tuple => cases closes
  | scalar | enum | any | dynamic | object | reference => cases closes

theorem Readable.word_plain (readable : one.Readable memory bindings settings)
    (resolved : one.resolve bindings = one) : Text.IsPlain one.word := by
  refine Target.word_plain fun ref same => ?_
  subst same
  refine readable.plain ref Relation.ReflTransGen.refl ?_
  rw [Target.resolve] at resolved
  split at resolved
  · cases resolved
  · assumption

theorem Decodes.of_resolved
    (resolved : ∀ other before start,
      Comparable memory bindings later settings (one.resolve bindings) other →
      other.resolve later = other → (one.resolve bindings).closing = other.closing →
      Opens before → Opens start →
      before ++ (one.resolve bindings).spelled bindings = start ++ other.spelled later →
        before = start ∧ Alike bindings later settings (one.resolve bindings) other) :
    Decodes memory bindings later settings one := by
  intro other before start comparable opens alsoOpens same
  have reached := comparable.reached (Reaches.resolve one) (Reaches.resolve other)
  rw [← spelled_resolve one, ← spelled_resolve other] at same
  refine resolved (other.resolve later) before start reached (resolve_resolve other) ?_ opens
    alsoOpens same
  have marked := reached.readable.last_mark (resolve_resolve one) before
  rw [same, reached.alsoReadable.last_mark (resolve_resolve other) start] at marked
  exact marked.symm

theorem resolved_unique
    (inside : ∀ inner ∈ one.inside, Decodes memory bindings later settings inner)
    (comparable : Comparable memory bindings later settings one other)
    (known : one.resolve bindings = one) (resolved : other.resolve later = other)
    (closings : one.closing = other.closing) (opens : Opens before) (alsoOpens : Opens start)
    (same : before ++ one.spelled bindings = start ++ other.spelled later) :
    before = start ∧ Alike bindings later settings one other := by
  have plain := comparable.readable.word_plain known
  have alsoPlain := comparable.alsoReadable.word_plain resolved
  have held := comparable.readable.held
  have alsoHeld := comparable.alsoReadable.held
  rcases closing_cases one with bare | nullable | applied
  · have alsoBare := closings.symm.trans bare
    rw [spelled_bare bare known, spelled_bare alsoBare resolved, ← List.append_assoc,
      ← List.append_assoc] at same
    obtain ⟨heads, words, idents, identical⟩ :=
      head_unique held alsoHeld plain alsoPlain opens alsoOpens same
    refine ⟨heads, Alike.of_head comparable (by rw [bare]; decide) closings words idents
      identical ?_⟩
    rw [inside_of_bare bare, inside_of_bare alsoBare]
    exact List.Forall₂.nil
  · obtain ⟨inner, rfl⟩ := nullable_of_closing nullable
    obtain ⟨another, rfl⟩ := nullable_of_closing (closings.symm.trans nullable)
    rw [spelled_nullable, spelled_nullable, ← List.append_assoc, ← List.append_assoc] at same
    obtain ⟨heads, alike⟩ := inside inner (by simp [Target.inside]) another before start
      (comparable.reached (Relation.ReflTransGen.single (by simp [parts]))
        (Relation.ReflTransGen.single (by simp [parts])))
      opens alsoOpens (List.append_cancel_right same)
    exact ⟨heads, Alike.nullable alike⟩
  · have alsoApplied := closings.symm.trans applied
    have below : ∀ inner ∈ one.inside, one.Reaches bindings settings inner :=
      fun inner member => Relation.ReflTransGen.single (inside_parts member)
    have alsoBelow : ∀ inner ∈ other.inside, other.Reaches later settings inner :=
      fun inner member => Relation.ReflTransGen.single (inside_parts member)
    rw [spelled_applied applied, spelled_applied alsoApplied] at same
    simp only [← List.append_assoc] at same
    obtain ⟨stems, alike⟩ := inside_unique inside
      (fun slot member another isOther =>
        comparable.reached (below slot member) (alsoBelow another isOther))
      (fun slot member => comparable.readable.reached (below slot member))
      (fun another member => comparable.alsoReadable.reached (alsoBelow another member))
      (List.append_cancel_right same)
    obtain ⟨heads, words, idents, identical⟩ :=
      head_unique held alsoHeld plain alsoPlain opens alsoOpens stems
    exact ⟨heads, Alike.of_head comparable (by rw [applied]; decide) closings words idents identical
      alike⟩

theorem decodes_of_inside
    (inside : ∀ inner ∈ one.inside, Decodes memory bindings later settings inner) :
    Decodes memory bindings later settings one := by
  rw [← @inside_resolve bindings one] at inside
  exact Decodes.of_resolved fun other before start comparable resolved closings opens alsoOpens
    same => resolved_unique inside comparable (resolve_resolve one) resolved closings opens
      alsoOpens same

end Decoding

/-- Whatever text names consist of, comparable targets of one token are alike. -/
theorem alike_of_token {memory : Memory} {bindings later : Bindings} {settings : Settings}
    {one other : Target} (comparable : Comparable memory bindings later settings one other)
    (same : one.token bindings = other.token later) :
    Alike bindings later settings (one.resolve bindings) (other.resolve later) := by
  have decodes : Decodes memory bindings later settings one :=
    inside_induction _ (fun _ inside => decodes_of_inside inside) one
  have opens : Opens [] := by
    intro c last
    cases last
  refine (decodes other [] [] comparable opens opens ?_).2
  rw [spelled, spelled, same]

end Target

end Unflatten
