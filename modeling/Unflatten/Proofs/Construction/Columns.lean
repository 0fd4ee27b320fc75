import Unflatten.Proofs.Construction.Cells
import Unflatten.Proofs.Planning.Linearity

/-!
# Columns of flat types

At the root every column stands for the property of its name. `Taken` says that just the columns of
certain names have been claimed; what a search at the root or in the scope of a member still finds
follows from these names.
-/

set_option autoImplicit false

namespace Unflatten

/-- The column belongs to a member of the name: a separator and more stand behind it. -/
def HeaderColumn.Extends (column : HeaderColumn) (name separator : String) : Prop :=
  Text.startsWith column.folded (foldName name ++ foldName separator) = true ∧
    column.folded ≠ foldName name ++ foldName separator

instance HeaderColumn.Extends.decidable (column : HeaderColumn) (name separator : String) :
    Decidable (column.Extends name separator) :=
  inferInstanceAs (Decidable (_ ∧ _))

/-- Columns that can be told apart by their names, none of them in a member of a property. -/
structure Header.Suits (header : Header) (type : ObjectType) (separator : String) : Prop where
  indexed : header.WellIndexed
  distinct : header.Pairwise fun one other => one.folded ≠ other.folded
  noMembers : ∀ column ∈ header, ∀ property ∈ type.properties,
    ¬ column.Extends property.name separator

/-- The columns of these names are claimed and no others. -/
def Header.Taken (header : Header) (claims : Claims) (names : List String) : Prop :=
  ∀ column ∈ header, claims.isClaimed column.index = true ↔ column.folded ∈ names

namespace Scope

variable {column : HeaderColumn}

theorem root_contains (column : HeaderColumn) : root.contains column = true := by
  simp [root, contains, admits, Text.startsWith]

theorem root_nameWithin (column : HeaderColumn) : root.nameWithin column = column.folded := by
  simp [root, nameWithin, Text.byteLength, Text.dropBytes?]

theorem member_contains {name separator : String} (alone : ¬ column.Extends name separator) :
    (root.member name separator).contains column = true ↔ column.folded = foldName name := by
  have lead : (root.member name separator).lead = foldName name ++ foldName separator := by
    simp [root, member]
  have exact : (root.member name separator).exact = some (foldName name) := by
    simp [root, member]
  rw [contains, lead, exact]
  simp only [admits, root, member, Bool.true_and, Option.isNone_some, Bool.false_or,
    Bool.or_eq_true, Bool.and_eq_true, beq_iff_eq, Option.some_inj, bne_iff_ne]
  constructor
  · rintro (same | extends_)
    · exact same.symm
    · exact absurd extends_ alone
  · intro same
    exact Or.inl same.symm

end Scope

namespace Header

variable {header : Header} {type : ObjectType} {separator name : String} {claims : Claims}
variable {names : List String} {column : HeaderColumn}

theorem named?_some (found : header.named? name = some column) :
    column ∈ header ∧ column.folded = foldName name := by
  refine ⟨List.mem_of_find?_eq_some found, ?_⟩
  simpa using List.find?_some found

theorem named?_none (missing : header.named? name = none) :
    ∀ column ∈ header, column.folded ≠ foldName name := by
  intro column member
  simpa using List.find?_eq_none.mp missing column member

/-! ## Names that are taken -/

theorem Taken.none : header.Taken (Claims.none header) [] := by
  intro column _
  simp [Claims.isClaimed_none]

theorem Taken.free (taken : header.Taken claims names) (member : column ∈ header)
    (named : column.folded = foldName name) (unknown : foldName name ∉ names) :
    claims.isClaimed column.index = false := by
  rw [← Bool.not_eq_true, taken column member, named]
  exact unknown

theorem Taken.congr {others : List String} (taken : header.Taken claims names)
    (same : ∀ name, name ∈ names ↔ name ∈ others) : header.Taken claims others := by
  intro column member
  rw [taken column member, same]

theorem Taken.claim (suits : header.Suits type separator) (taken : header.Taken claims names)
    (sized : claims.length = header.length) (found : header.named? name = some column) :
    header.Taken (claims.claim column.index) (foldName name :: names) := by
  obtain ⟨member, named⟩ := named?_some found
  have inside : column.index < claims.length := by
    rw [sized]
    exact suits.indexed.inside member
  intro other isOther
  rw [Claims.isClaimed_claim inside, taken other isOther, List.mem_cons, ← named]
  have apart : Std.Symm fun one other : HeaderColumn => one.folded ≠ other.folded :=
    ⟨fun _ _ differs => Ne.symm differs⟩
  constructor
  · rintro (same | known)
    · exact Or.inl (by rw [List.inj_on_of_nodup_map suits.indexed.nodup isOther member same])
    · exact Or.inr known
  · rintro (same | known)
    · by_cases identical : other = column
      · exact Or.inl (by rw [identical])
      · exact absurd same (suits.distinct.forall isOther member identical)
    · exact Or.inr known

theorem Taken.missing (taken : header.Taken claims names)
    (missing : header.named? name = Option.none) :
    header.Taken claims (foldName name :: names) := by
  intro column member
  rw [taken column member, List.mem_cons]
  have differs := named?_none missing column member
  tauto

theorem Taken.known (taken : header.Taken claims names) (known : foldName name ∈ names) :
    header.Taken claims (foldName name :: names) := by
  apply taken.congr
  intro other
  rw [List.mem_cons]
  constructor
  · exact Or.inr
  · rintro (rfl | isName)
    · exact known
    · exact isName

/-! ## Searches -/

theorem Taken.find? (taken : header.Taken claims names) :
    header.find? claims .root (foldName name) =
      if foldName name ∈ names then Option.none else header.named? name := by
  rw [Header.find?, Header.available, List.find?_filter, named?, ← List.head?_filter,
    ← List.head?_filter]
  by_cases known : foldName name ∈ names
  · rw [if_pos known, List.head?_eq_none_iff, List.filter_eq_nil_iff]
    intro column member
    rw [Scope.root_nameWithin]
    by_cases named : column.folded = foldName name
    · have claimed := (taken column member).mpr (by rwa [named])
      simp [claimed]
    · simp [named]
  · rw [if_neg known]
    congr 1
    apply List.filter_congr
    intro column member
    rw [Scope.root_contains, Scope.root_nameWithin]
    by_cases named : column.folded = foldName name
    · rw [taken.free member named known, Bool.eq_iff_iff]
      simp
    · simp [named]

theorem filter_named (distinct : header.Pairwise fun one other => one.folded ≠ other.folded) :
    header.filter (fun column => column.folded == foldName name) =
      (header.named? name).toList := by
  unfold named?
  induction header with
  | nil => rfl
  | cons column rest ih =>
      obtain ⟨apart, distinct⟩ := List.pairwise_cons.mp distinct
      by_cases named : column.folded = foldName name
      · have others : rest.filter (fun column => column.folded == foldName name) = [] := by
          rw [List.filter_eq_nil_iff]
          intro other member
          have differs := apart other member
          rw [named] at differs
          simpa using Ne.symm differs
        simp [named, others]
      · rw [List.filter_cons_of_neg (by simpa using named),
          List.find?_cons_of_neg (by simpa using named), ih distinct]

theorem Taken.member (suits : header.Suits type separator) (taken : header.Taken claims names)
    {property : Property} (isProperty : property ∈ type.properties) :
    header.available claims (Scope.root.member property.name separator) =
      if foldName property.name ∈ names then [] else (header.named? property.name).toList := by
  have inside {column : HeaderColumn} (member : column ∈ header) :=
    Scope.member_contains (suits.noMembers column member property isProperty)
  rw [Header.available]
  by_cases known : foldName property.name ∈ names
  · rw [if_pos known, List.filter_eq_nil_iff]
    intro column member
    rw [Bool.and_eq_true, inside member]
    rintro ⟨unclaimed, named⟩
    rw [(taken column member).mpr (by rwa [named])] at unclaimed
    cases unclaimed
  · rw [if_neg known, ← filter_named suits.distinct]
    apply List.filter_congr
    intro column member
    rw [Bool.eq_iff_iff, Bool.and_eq_true, inside member, beq_iff_eq]
    constructor
    · exact And.right
    · intro named
      rw [taken.free member named known]
      exact ⟨rfl, named⟩

end Header

end Unflatten
