import Mathlib.Data.List.TakeWhile
import Unflatten.Scope
import Unflatten.Proofs.LetterCase

/-!
# Names of nested members

The folded name of a column of a nested member starts with the folded names on the way to it, each
with the separator behind it. As no name contains the separator, the part up to the next one tells
which member the column belongs to.
-/

set_option autoImplicit false

namespace Unflatten

namespace Text

theorem dropBytes?_append (left right : List Char) :
    dropBytes? (byteLength left) (left ++ right) = some right := by
  induction left with
  | nil => simp [byteLength, dropBytes?]
  | cons c rest ih =>
      obtain ⟨count, size⟩ : ∃ count, c.utf8Size + byteLength rest = count + 1 :=
        Nat.exists_eq_succ_of_ne_zero (Nat.ne_of_gt (Nat.add_pos_left c.utf8Size_pos _))
      rw [byteLength, List.cons_append, size, dropBytes?, if_pos (by omega), ← size,
        Nat.add_sub_cancel_left, ih]

/-- What the separator follows on the way to a name. -/
def leadOf (separator : Char) (path : List String) : List Char :=
  path.flatMap fun step => step.toList ++ [separator]

variable {separator : Char} {path rest : List String} {name : String}

theorem join_single : (join separator.toString [name]).toList = name.toList := by
  simp [join]

theorem join_cons (some : rest ≠ []) :
    (join separator.toString (name :: rest)).toList =
      name.toList ++ separator :: (join separator.toString rest).toList := by
  obtain ⟨next, more, rfl⟩ := List.exists_cons_of_ne_nil some
  simp [join]

theorem join_append (some : rest ≠ []) :
    (join separator.toString (path ++ rest)).toList =
      leadOf separator path ++ (join separator.toString rest).toList := by
  induction path with
  | nil => rfl
  | cons step path ih =>
      rw [List.cons_append, join_cons (by simp [some]), ih, leadOf, leadOf, List.flatMap_cons]
      simp

theorem mem_join {c : Char} (member : c ∈ (join separator.toString path).toList) :
    c = separator ∨ ∃ step ∈ path, c ∈ step.toList := by
  induction path with
  | nil => simp [join] at member
  | cons step rest ih =>
      by_cases last : rest = []
      · subst last
        rw [join_single] at member
        exact Or.inr ⟨step, by simp, member⟩
      · rw [join_cons last, List.mem_append, List.mem_cons] at member
        rcases member with member | rfl | member
        · exact Or.inr ⟨step, by simp, member⟩
        · exact Or.inl rfl
        · rcases ih member with same | ⟨other, isOther, member⟩
          · exact Or.inl same
          · exact Or.inr ⟨other, by simp [isOther], member⟩

end Text

/-- A name that may stand between separators: ASCII, not empty, and without the separator in either
letter case. -/
structure IsSegment (separator : Char) (name : String) : Prop where
  some : name.toList ≠ []
  ascii : ∀ c ∈ name.toList, c.toNat < 0x80
  apart : ∀ c ∈ name.toList, c.toLower ≠ separator.toLower

theorem isSegment_iff {separator : Char} {name : String} :
    IsSegment separator name ↔ name.toList ≠ [] ∧
      (name.toList.all fun c => decide (c.toNat < 0x80)) = true ∧
      (name.toList.all fun c => decide (c.toLower ≠ separator.toLower)) = true := by
  simp only [List.all_eq_true, decide_eq_true_eq]
  constructor
  · intro segment
    exact ⟨segment.some, segment.ascii, segment.apart⟩
  · rintro ⟨some, ascii, apart⟩
    exact ⟨some, ascii, apart⟩

instance (separator : Char) (name : String) : Decidable (IsSegment separator name) :=
  decidable_of_iff _ isSegment_iff.symm

section Segments

variable {separator : Char} {path rest : List String} {name : String}

/-- The part of a folded name before the next separator. -/
def firstSegment (separator : Char) (folded : List Char) : List Char :=
  folded.takeWhile fun c => c ≠ separator.toLower

namespace IsSegment

theorem folded (segment : IsSegment separator name) :
    (foldName name).toList = name.toList.map Char.toLower :=
  foldName_ascii segment.ascii

theorem folded_some (segment : IsSegment separator name) : (foldName name).toList ≠ [] := by
  rw [segment.folded]
  simpa using segment.some

theorem folded_apart (segment : IsSegment separator name) :
    ∀ c ∈ (foldName name).toList, c ≠ separator.toLower := by
  intro c member
  rw [segment.folded, List.mem_map] at member
  obtain ⟨letter, isLetter, rfl⟩ := member
  exact segment.apart letter isLetter

theorem firstSegment_self (segment : IsSegment separator name) :
    firstSegment separator (foldName name).toList = (foldName name).toList := by
  rw [firstSegment, List.takeWhile_eq_self_iff]
  simpa using segment.folded_apart

theorem firstSegment_append (segment : IsSegment separator name) (more : List Char) :
    firstSegment separator ((foldName name).toList ++ separator.toLower :: more) =
      (foldName name).toList := by
  rw [firstSegment, List.takeWhile_append_of_pos (by simpa using segment.folded_apart)]
  simp

end IsSegment

theorem foldName_join (asciiSeparator : separator.toNat < 0x80)
    (segments : ∀ step ∈ path, IsSegment separator step) :
    (foldName (Text.join separator.toString path)).toList =
      (Text.join separator.toString path).toList.map Char.toLower := by
  apply foldName_ascii
  intro c member
  rcases Text.mem_join member with rfl | ⟨step, isStep, member⟩
  · exact asciiSeparator
  · exact (segments step isStep).ascii c member

theorem firstSegment_join (rest : List String) (segment : IsSegment separator name) :
    firstSegment separator ((Text.join separator.toString (name :: rest)).toList.map Char.toLower) =
      (foldName name).toList := by
  by_cases last : rest = []
  · rw [last, Text.join_single, ← segment.folded, segment.firstSegment_self]
  · rw [Text.join_cons last, List.map_append, ← segment.folded, List.map_cons,
      segment.firstSegment_append]

end Segments

/-! ## Scopes -/

namespace Scope

/-- All columns are admitted, and the name of the member itself is no longer than the lead. -/
structure IsOpen (scope : Scope) : Prop where
  only : scope.only = none
  exact : ∀ name, scope.exact = some name → name.toList.length ≤ scope.lead.toList.length

namespace IsOpen

variable {scope : Scope} {column : HeaderColumn} {rest : List Char}

theorem root : root.IsOpen :=
  ⟨rfl, fun _ impossible => nomatch impossible⟩

theorem member (isOpen : scope.IsOpen) (name separator : String) :
    (scope.member name separator).IsOpen := by
  refine ⟨isOpen.only, fun exact same => ?_⟩
  cases same
  simp [Scope.member]

theorem contains (isOpen : scope.IsOpen)
    (folded : column.folded.toList = scope.lead.toList ++ rest) (some : rest ≠ []) :
    scope.contains column = true := by
  have starts : Text.startsWith column.folded scope.lead = true := by
    rw [Text.startsWith, List.isPrefixOf_iff_prefix, folded]
    exact List.prefix_append _ _
  have longer : column.folded ≠ scope.lead := by
    intro same
    rw [same] at folded
    exact some (List.self_eq_append_right.mp folded)
  simp [Scope.contains, admits, isOpen.only, starts, longer]

theorem nameWithin (isOpen : scope.IsOpen)
    (folded : column.folded.toList = scope.lead.toList ++ rest) (some : rest ≠ []) :
    (scope.nameWithin column).toList = rest := by
  have notExact : (scope.exact == Option.some column.folded) = false := by
    rw [beq_eq_false_iff_ne]
    intro same
    have short := isOpen.exact column.folded same
    rw [folded, List.length_append] at short
    have long := List.length_pos_iff.mpr some
    omega
  rw [Scope.nameWithin, notExact, folded, Text.dropBytes?_append]
  simp

end IsOpen

/-- The scope of the member that a path of names leads to, or of the root. -/
structure IsAt (separator : Char) (path : List String) (scope : Scope) : Prop where
  only : scope.only = none
  segments : ∀ step ∈ path, IsSegment separator step
  lead : scope.lead.toList = (Text.leadOf separator path).map Char.toLower
  exact : ∀ name, scope.exact = some name → name.toList.length ≤ scope.lead.toList.length

variable {separator : Char} {path : List String} {scope : Scope} {name : String}
variable {column : HeaderColumn} {rest : List Char}

theorem root_isAt (separator : Char) : Scope.root.IsAt separator [] := by
  refine ⟨rfl, by simp, rfl, ?_⟩
  intro name impossible
  cases impossible

theorem member_lead :
    (scope.member name separator.toString).lead.toList =
      scope.lead.toList ++ (foldName name).toList ++ (foldName separator.toString).toList := by
  simp [Scope.member]

theorem foldName_separator (asciiSeparator : separator.toNat < 0x80) :
    (foldName separator.toString).toList = [separator.toLower] := by
  rw [foldName_ascii (by simpa using asciiSeparator)]
  simp

theorem IsAt.member (isAt : scope.IsAt separator path) (asciiSeparator : separator.toNat < 0x80)
    (segment : IsSegment separator name) :
    (scope.member name separator.toString).IsAt separator (path ++ [name]) := by
  refine ⟨isAt.only, ?_, ?_, ?_⟩
  · intro step isStep
    rcases List.mem_append.mp isStep with isStep | isStep
    · exact isAt.segments step isStep
    · rw [List.mem_singleton.mp isStep]
      exact segment
  · rw [member_lead, foldName_separator asciiSeparator, segment.folded, isAt.lead]
    simp [Text.leadOf]
  · intro exact same
    cases same
    rw [member_lead]
    simp

theorem IsAt.folded {names : List String} (isAt : scope.IsAt separator path)
    (asciiSeparator : separator.toNat < 0x80) (some : names ≠ [])
    (segments : ∀ step ∈ names, IsSegment separator step) :
    (foldName (Text.join separator.toString (path ++ names))).toList =
      scope.lead.toList ++ (Text.join separator.toString names).toList.map Char.toLower := by
  rw [foldName_join asciiSeparator, Text.join_append some, List.map_append, isAt.lead]
  intro step isStep
  rcases List.mem_append.mp isStep with isStep | isStep
  · exact isAt.segments step isStep
  · exact segments step isStep

theorem IsAt.isOpen (isAt : scope.IsAt separator path) : scope.IsOpen :=
  ⟨isAt.only, isAt.exact⟩

theorem IsAt.contains (isAt : scope.IsAt separator path)
    (folded : column.folded.toList = scope.lead.toList ++ rest) (some : rest ≠ []) :
    scope.contains column = true :=
  isAt.isOpen.contains folded some

theorem IsAt.nameWithin (isAt : scope.IsAt separator path)
    (folded : column.folded.toList = scope.lead.toList ++ rest) (some : rest ≠ []) :
    (scope.nameWithin column).toList = rest :=
  isAt.isOpen.nameWithin folded some

theorem IsAt.contains_member (isAt : scope.IsAt separator path)
    (asciiSeparator : separator.toNat < 0x80) :
    (scope.member name separator.toString).contains column = true ↔
      column.folded.toList = scope.lead.toList ++ (foldName name).toList ∨
        ∃ more, more ≠ [] ∧ column.folded.toList =
          scope.lead.toList ++ ((foldName name).toList ++ separator.toLower :: more) := by
  have exact : (scope.member name separator.toString).exact = some (scope.lead ++ foldName name) :=
    rfl
  have admitted : (scope.member name separator.toString).admits column.index = true := by
    have only : (scope.member name separator.toString).only = none := isAt.only
    rw [admits, only]
  have lead : (scope.member name separator.toString).lead.toList =
      scope.lead.toList ++ ((foldName name).toList ++ [separator.toLower]) := by
    rw [member_lead, foldName_separator asciiSeparator, List.append_assoc]
  rw [Scope.contains, admitted, exact]
  simp only [Bool.true_and, Bool.or_eq_true, beq_iff_eq, Option.some.injEq, Bool.and_eq_true,
    Option.isNone_some, Bool.false_or, bne_iff_ne, Text.startsWith, List.isPrefixOf_iff_prefix,
    lead]
  constructor
  · rintro (same | ⟨⟨more, folded⟩, longer⟩)
    · refine Or.inl ?_
      rw [← same]
      simp
    · refine Or.inr ⟨more, ?_, by rw [← folded]; simp⟩
      rintro rfl
      apply longer
      rw [← String.toList_inj, lead, ← folded]
      simp
  · rintro (folded | ⟨more, some, folded⟩)
    · refine Or.inl ?_
      rw [← String.toList_inj, folded]
      simp
    · refine Or.inr ⟨⟨more, by rw [folded]; simp⟩, ?_⟩
      intro same
      rw [same, lead] at folded
      simp at folded
      exact some folded

theorem IsAt.segment (isAt : scope.IsAt separator path) (asciiSeparator : separator.toNat < 0x80)
    (segment : IsSegment separator name)
    (inside : (scope.member name separator.toString).contains column = true) :
    ∃ rest, rest ≠ [] ∧ column.folded.toList = scope.lead.toList ++ rest ∧
      firstSegment separator rest = (foldName name).toList := by
  rcases (isAt.contains_member asciiSeparator).mp inside with folded | ⟨more, -, folded⟩
  · exact ⟨_, segment.folded_some, folded, segment.firstSegment_self⟩
  · exact ⟨_, by simp, folded, segment.firstSegment_append more⟩

end Scope

end Unflatten
