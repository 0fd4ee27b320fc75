import Mathlib.Data.List.Nodup
import Unflatten.Proofs.Planning.Planners

/-!
# What a scope covers

A scope covers the columns that may belong to it or to a scope within it: those with its lead, and
the one of exactly its name. Whoever searches in a scope sees claims on these columns only, and
claims no others.
-/

set_option autoImplicit false

namespace Unflatten

theorem Text.startsWith_of_append {text lead rest : String}
    (starts : Text.startsWith text (lead ++ rest) = true) : Text.startsWith text lead = true := by
  rw [Text.startsWith, List.isPrefixOf_iff_prefix] at starts ⊢
  rw [String.toList_append] at starts
  exact (List.prefix_append _ _).trans starts

namespace Scope

def Covers (scope : Scope) (column : HeaderColumn) : Prop :=
  scope.admits column.index = true ∧
    (scope.exact = some column.folded ∨ Text.startsWith column.folded scope.lead = true)

instance Covers.decidable (scope : Scope) (column : HeaderColumn) :
    Decidable (scope.Covers column) :=
  inferInstanceAs (Decidable (_ ∧ _))

/-- Of these columns, all that the one covers are covered by the other. -/
def Inside (header : Header) (inner scope : Scope) : Prop :=
  ∀ column ∈ header, inner.Covers column → scope.Covers column

variable {scope : Scope} {column : HeaderColumn}

theorem covers_of_contains (contains : scope.contains column = true) : scope.Covers column := by
  rw [Scope.contains, Bool.and_eq_true, Bool.or_eq_true, Bool.and_eq_true, beq_iff_eq] at contains
  obtain ⟨admitted, exact | starts⟩ := contains
  · exact ⟨admitted, Or.inl exact⟩
  · exact ⟨admitted, Or.inr starts.1⟩

theorem member_inside (header : Header) (scope : Scope) (name separator : String) :
    Inside header (scope.member name separator) scope := by
  intro column _ covers
  obtain ⟨admitted, exact | starts⟩ := covers
  · refine ⟨admitted, Or.inr ?_⟩
    have same : scope.lead ++ foldName name = column.folded := Option.some.inj exact
    rw [← same, Text.startsWith, List.isPrefixOf_iff_prefix, String.toList_append]
    exact List.prefix_append _ _
  · exact ⟨admitted, Or.inr (Text.startsWith_of_append (Text.startsWith_of_append starts))⟩

theorem root_member_covers {name separator : String} :
    (root.member name separator).Covers column ↔ column.folded = foldName name ∨
      Text.startsWith column.folded (foldName name ++ foldName separator) = true := by
  simp [Covers, member, root, admits, @eq_comm _ (foldName name)]

theorem among_covers {indices : List Nat} :
    (among indices).Covers column ↔ column.index ∈ indices := by
  simp [Covers, among, admits, Text.startsWith]

theorem among_contains {indices : List Nat} :
    (among indices).contains column = true ↔ column.index ∈ indices := by
  simp [contains, among, admits, Text.startsWith]

end Scope

/-! ## Claims seen from a scope -/

namespace Claims

/-- Both have claimed the same of the columns that the scope covers. -/
def AgreeWithin (header : Header) (scope : Scope) (claims others : Claims) : Prop :=
  ∀ column ∈ header, scope.Covers column →
    others.isClaimed column.index = claims.isClaimed column.index

/-- Both have claimed the same of all other columns. -/
def AgreeOutside (header : Header) (scope : Scope) (claims others : Claims) : Prop :=
  ∀ column ∈ header, ¬ scope.Covers column →
    others.isClaimed column.index = claims.isClaimed column.index

variable {header : Header} {scope inner : Scope} {claims others between : Claims}

theorem AgreeWithin.mono (agree : AgreeWithin header scope claims others)
    (inside : Scope.Inside header inner scope) : AgreeWithin header inner claims others :=
  fun column member covers => agree column member (inside column member covers)

theorem AgreeOutside.refl : AgreeOutside header scope claims claims :=
  fun _ _ _ => rfl

theorem AgreeOutside.trans (first : AgreeOutside header scope claims between)
    (second : AgreeOutside header scope between others) :
    AgreeOutside header scope claims others :=
  fun column member uncovered =>
    (second column member uncovered).trans (first column member uncovered)

theorem AgreeOutside.symm (agree : AgreeOutside header scope claims others) :
    AgreeOutside header scope others claims :=
  fun column member uncovered => (agree column member uncovered).symm

theorem AgreeOutside.mono (agree : AgreeOutside header inner claims others)
    (inside : Scope.Inside header inner scope) : AgreeOutside header scope claims others :=
  fun column member uncovered =>
    agree column member fun covers => uncovered (inside column member covers)

end Claims

namespace Header

variable {header : Header} {scope : Scope} {claims others : Claims}

theorem available_congr (agree : Claims.AgreeWithin header scope claims others) :
    header.available others scope = header.available claims scope := by
  refine List.filter_congr fun column member => ?_
  cases contains : scope.contains column with
  | false => rw [Bool.and_false, Bool.and_false]
  | true => rw [agree column member (Scope.covers_of_contains contains)]

theorem mem_available {column : HeaderColumn} (member : column ∈ header.available claims scope) :
    column ∈ header ∧ scope.Covers column := by
  obtain ⟨isColumn, holds⟩ := List.mem_filter.mp member
  exact ⟨isColumn, Scope.covers_of_contains (Bool.and_eq_true _ _ ▸ holds).2⟩

theorem find?_congr (agree : Claims.AgreeWithin header scope claims others) (localName : String) :
    header.find? others scope localName = header.find? claims scope localName := by
  rw [Header.find?, Header.find?, available_congr agree]

theorem hasMember_congr (agree : Claims.AgreeWithin header scope claims others)
    (name separator : String) :
    header.hasMember others scope name separator =
      header.hasMember claims scope name separator := by
  rw [Header.hasMember, Header.hasMember,
    available_congr (agree.mono (Scope.member_inside header scope name separator))]

theorem nameless_congr (agree : Claims.AgreeWithin header scope claims others)
    (sentinel : String) :
    header.nameless others scope sentinel = header.nameless claims scope sentinel := by
  rw [Header.nameless, Header.nameless, available_congr agree]

theorem nameless_inside (indexed : header.WellIndexed) (sentinel : String) :
    Scope.Inside header (.among (header.nameless claims scope sentinel)) scope := by
  intro column member covers
  obtain ⟨other, isOther, same⟩ := List.mem_map.mp (Scope.among_covers.mp covers)
  obtain ⟨isColumn, covered⟩ := mem_available (List.mem_filter.mp isOther).1
  rwa [← List.inj_on_of_nodup_map indexed.nodup isColumn member same]

end Header

/-! ## The choice of a constructor -/

namespace View

variable {header : Header} {scope : Scope} {claims others : Claims}

theorem best?_congr (agree : Claims.AgreeWithin header scope claims others) (settings : Settings)
    (constructors : List Constructor) :
    View.best? ⟨header, others, scope⟩ settings constructors =
      View.best? ⟨header, claims, scope⟩ settings constructors := by
  have bound (parameter : Parameter) : View.bind? ⟨header, others, scope⟩ settings parameter =
      View.bind? ⟨header, claims, scope⟩ settings parameter := by
    simp only [View.bind?, Header.hasColumn, Header.find?_congr agree,
      Header.hasMember_congr agree, Header.nameless_congr agree]
  have scored (constructor : Constructor) :
      View.score? ⟨header, others, scope⟩ settings constructor =
        View.score? ⟨header, claims, scope⟩ settings constructor := by
    simp only [View.score?, bound]
  induction constructors with
  | nil => rfl
  | cons constructor rest ih => rw [View.best?, View.best?, ih, scored]

end View

theorem ObjectTypeOf.chooseConstructor_congr {header : Header} {scope : Scope}
    {claims others : Claims} (agree : Claims.AgreeWithin header scope claims others)
    (type : ObjectType) (own : Option TypePolicy) (settings : Settings) :
    type.chooseConstructor own ⟨header, others, scope⟩ settings =
      type.chooseConstructor own ⟨header, claims, scope⟩ settings := by
  rw [ObjectTypeOf.chooseConstructor, ObjectTypeOf.chooseConstructor, View.best?_congr agree]

/-! ## Counting claims -/

namespace Claims

variable {claims others : Claims}

theorem isClaimed_cons (mark : Bool) (rest : Claims) (index : Nat) :
    isClaimed (mark :: rest) (index + 1) = isClaimed rest index := by
  rw [isClaimed, isClaimed, List.getElem?_cons_succ]

theorem count_le (sized : others.length = claims.length)
    (kept : ∀ index, claims.isClaimed index = true → others.isClaimed index = true) :
    claims.count ≤ others.count := by
  induction claims generalizing others with
  | nil => exact Nat.zero_le _
  | cons mark rest ih =>
      cases others with
      | nil => cases sized
      | cons other others =>
          have further : Claims.count rest ≤ Claims.count others := by
            refine ih (Nat.succ.inj sized) fun index claimed => ?_
            rw [← isClaimed_cons other]
            exact kept (index + 1) claimed
          have first := kept 0
          simp only [Claims.count, List.count_cons] at further ⊢
          cases mark with
          | false => lia
          | true =>
              have stays : other = true := first rfl
              subst stays
              lia

theorem count_lt_iff (sized : others.length = claims.length)
    (kept : ∀ index, claims.isClaimed index = true → others.isClaimed index = true) :
    claims.count < others.count ↔
      ∃ index, others.isClaimed index = true ∧ claims.isClaimed index = false := by
  induction claims generalizing others with
  | nil =>
      obtain rfl := List.length_eq_zero_iff.mp sized
      simp [isClaimed]
  | cons mark rest ih =>
      cases others with
      | nil => cases sized
      | cons other others =>
          have sizedRest : others.length = rest.length := Nat.succ.inj sized
          have keptRest : ∀ index, isClaimed rest index = true → isClaimed others index = true := by
            intro index claimed
            rw [← isClaimed_cons other]
            exact kept (index + 1) claimed
          have grows := ih sizedRest keptRest
          have least := count_le sizedRest keptRest
          have split : (∃ index, isClaimed (other :: others) index = true ∧
              isClaimed (mark :: rest) index = false) ↔
              (other = true ∧ mark = false) ∨ ∃ index, isClaimed others index = true ∧
                isClaimed rest index = false := by
            constructor
            · rintro ⟨index, claimed, free⟩
              cases index with
              | zero => exact Or.inl ⟨claimed, free⟩
              | succ index => exact Or.inr ⟨index, claimed, free⟩
            · rintro (⟨claimed, free⟩ | ⟨index, claimed, free⟩)
              · exact ⟨0, claimed, free⟩
              · exact ⟨index + 1, claimed, free⟩
          rw [split, ← grows]
          have first := kept 0
          simp only [Claims.count, List.count_cons] at least ⊢
          cases mark with
          | true =>
              have stays : other = true := first rfl
              subst stays
              simp
          | false =>
              cases other with
              | true => simp; lia
              | false => simp

end Claims

end Unflatten
