import Mathlib.Algebra.Ring.Nat
import Mathlib.Data.List.Induction
import Unflatten.MemberPath
import Unflatten.Proofs.Planning.Linearity
import Unflatten.Proofs.Reordering.Columns
import Unflatten.Proofs.Scopes.Groups

/-!
# Member paths and scopes

A name is cut at its separators from the left. The path of the name leaves empty pieces out, whereas
the scope of a member begins right behind one separator. So the scopes of the path lead to the
column exactly if the name has no empty piece, that is if no separator stands at either end or right
behind another one.
-/

set_option autoImplicit false

namespace Unflatten

/-! ## Cutting a name at its separators -/

/-- The separator stands at the start, in either letter case. -/
def Begins (separator chars : List Char) : Prop :=
  separator.map Char.toLower <+: chars.map Char.toLower

/-- The pieces between separators. A separator is one wherever it stands behind the one before, so
of two that overlap it is the left one. -/
inductive Cut (separator : List Char) : List Char → List (List Char) → Prop where
  | nil : Cut separator [] [[]]
  | mark {chars : List Char} {pieces : List (List Char)} (begins : Begins separator chars)
      (later : Cut separator (chars.drop separator.length) pieces) :
      Cut separator chars ([] :: pieces)
  | char {c : Char} {rest piece : List Char} {pieces : List (List Char)}
      (apart : ¬ Begins separator (c :: rest)) (later : Cut separator rest (piece :: pieces)) :
      Cut separator (c :: rest) ((c :: piece) :: pieces)

section Cutting

variable {separator chars : List Char} {pieces others : List (List Char)}

theorem not_begins_nil (some : separator ≠ []) : ¬ Begins separator [] := by
  intro begins
  rw [Begins, List.map_nil, List.prefix_nil, List.map_eq_nil_iff] at begins
  exact some begins

theorem Cut.ne_nil (cut : Cut separator chars pieces) : pieces ≠ [] := by
  cases cut with
  | nil | mark | char => exact List.cons_ne_nil _ _

theorem Cut.unique (some : separator ≠ []) (cut : Cut separator chars pieces)
    (again : Cut separator chars others) : pieces = others := by
  induction cut generalizing others with
  | nil =>
      cases again with
      | nil => rfl
      | mark begins => exact absurd begins (not_begins_nil some)
  | mark begins later ih =>
      cases again with
      | nil => exact absurd begins (not_begins_nil some)
      | mark _ second => rw [ih second]
      | char apart => exact absurd begins apart
  | char apart later ih =>
      cases again with
      | mark begins => exact absurd begins apart
      | char _ second =>
          cases ih second
          rfl

theorem Cut.mem (cut : Cut separator chars pieces) {piece : List Char} (isPiece : piece ∈ pieces)
    {c : Char} (member : c ∈ piece) : c ∈ chars := by
  induction cut generalizing piece with
  | nil =>
      obtain rfl := List.mem_singleton.mp isPiece
      exact member
  | mark begins later ih =>
      rcases List.mem_cons.mp isPiece with rfl | isPiece
      · cases member
      · exact List.mem_of_mem_drop (ih isPiece member)
  | char apart later ih =>
      rcases List.mem_cons.mp isPiece with rfl | isPiece
      · rcases List.mem_cons.mp member with rfl | member
        · exact List.mem_cons_self
        · exact List.mem_cons_of_mem _ (ih List.mem_cons_self member)
      · exact List.mem_cons_of_mem _ (ih (List.mem_cons_of_mem _ isPiece) member)

theorem leads_iff (ascii : ∀ c ∈ chars, c.toNat < 0x80) (some : ∀ c ∈ separator, c.toNat < 0x80) :
    leads (separator.map Char.toLower) chars = true ↔ Begins separator chars := by
  induction separator generalizing chars with
  | nil => simp [leads, Begins]
  | cons s separator ih =>
      cases chars with
      | nil => simp [leads, Begins]
      | cons c rest =>
          have lowered : Text.lowerChar c = [c.toLower] := if_pos (ascii c (by simp))
          have mark : Text.lowerChar s.toLower = [s.toLower] := by
            rw [(Text.toLower_sameCase s).lowered]
            exact if_pos (some s (by simp))
          have behind : leads (separator.map Char.toLower) rest = true ↔ Begins separator rest :=
            ih (fun other member => ascii other (by simp [member]))
              fun other member => some other (by simp [member])
          rw [List.map_cons, leads, lowered, mark, Bool.and_eq_true, behind, Begins, Begins,
            List.map_cons, List.map_cons, List.cons_prefix_cons, beq_iff_eq, List.singleton_inj,
            eq_comm]

theorem splitSegments_skip (count : Nat) :
    splitSegments separator count chars = splitSegments separator 0 (chars.drop count) := by
  induction count generalizing chars with
  | zero => rfl
  | succ count ih =>
      cases chars with
      | nil => rfl
      | cons c rest => exact ih

/-- By induction on the length, since a separator is passed over at once. -/
theorem splitSegments_cut (some : separator ≠ []) (asciiSeparator : ∀ c ∈ separator, c.toNat < 0x80) :
    ∀ chars : List Char, (∀ c ∈ chars, c.toNat < 0x80) →
      Cut separator chars (splitSegments (separator.map Char.toLower) 0 chars)
  | [], _ => Cut.nil
  | c :: rest, ascii => by
      have beginning := leads_iff ascii asciiSeparator
      have asciiRest : ∀ other ∈ rest, other.toNat < 0x80 :=
        fun other member => ascii other (List.mem_cons_of_mem _ member)
      rw [splitSegments]
      split
      · rename_i leading
        obtain ⟨count, size⟩ : ∃ count, separator.length = count + 1 :=
          Nat.exists_eq_succ_of_ne_zero (List.length_pos_iff.mpr some).ne'
        have behind : (c :: rest).drop separator.length = rest.drop count := by
          rw [size, List.drop_succ_cons]
        refine Cut.mark (beginning.mp leading) ?_
        rw [behind, List.length_map, size, Nat.add_sub_cancel, splitSegments_skip]
        exact splitSegments_cut some asciiSeparator (rest.drop count)
          fun other member => asciiRest other (List.mem_of_mem_drop member)
      · rename_i leading
        have apart : ¬ Begins separator (c :: rest) := fun begins => leading (beginning.mpr begins)
        have later := splitSegments_cut some asciiSeparator rest asciiRest
        split
        · rename_i none
          exact absurd none later.ne_nil
        · rename_i piece pieces split
          rw [split] at later
          exact Cut.char apart later
termination_by chars => chars.length

theorem Cut.lowered {parents : List (List Char)} {last : List Char}
    (cut : Cut separator chars (parents ++ [last])) :
    chars.map Char.toLower =
      parents.flatMap (fun piece => piece.map Char.toLower ++ separator.map Char.toLower) ++
        last.map Char.toLower := by
  generalize whole : parents ++ [last] = pieces at cut
  induction cut generalizing parents last with
  | nil =>
      cases parents with
      | nil =>
          cases whole
          rfl
      | cons first parents => simp at whole
  | @mark chars pieces begins later ih =>
      cases parents with
      | nil =>
          cases whole
          exact absurd rfl later.ne_nil
      | cons first parents =>
          cases whole
          obtain ⟨rest, split⟩ := begins
          have behind := ih rfl
          have sameLength : separator.length = (separator.map Char.toLower).length :=
            (List.length_map _).symm
          rw [List.map_drop, ← split, sameLength, List.drop_left] at behind
          rw [← split, behind]
          simp
  | char apart later ih =>
      cases parents with
      | nil =>
          cases whole
          have behind := ih (List.nil_append _)
          simpa using behind
      | cons first parents =>
          cases whole
          have behind := ih (List.cons_append ..)
          simpa using behind

end Cutting

/-! ## Scopes along a path -/

/-- The scope of the member that the names lead to, one after the other. -/
def Scope.along (separator : String) (path : List String) : Scope :=
  path.foldl (fun scope name => scope.member name separator) .root

namespace Scope

variable {separator : String} {path : List String} {column : HeaderColumn}

theorem along_append (name : String) :
    along separator (path ++ [name]) = (along separator path).member name separator :=
  List.foldl_concat ..

theorem along_isOpen : (along separator path).IsOpen := by
  induction path using List.reverseRecOn with
  | nil => exact IsOpen.root
  | append_singleton path name ih =>
      rw [along_append]
      exact ih.member name separator

theorem along_lead : (along separator path).lead.toList =
    path.flatMap fun name => (foldName name).toList ++ (foldName separator).toList := by
  induction path using List.reverseRecOn with
  | nil => rfl
  | append_singleton path name ih =>
      rw [along_append, member]
      simp [ih]

theorem lead_nameWithin {scope : Scope} (contains : scope.contains column = true)
    (some : scope.nameWithin column ≠ "") :
    column.folded.toList = scope.lead.toList ++ (scope.nameWithin column).toList := by
  have notExact : scope.exact ≠ Option.some column.folded := by
    intro same
    rw [nameWithin, same, beq_self_eq_true, if_pos rfl] at some
    exact some rfl
  rw [← String.toList_append, ← (folded_of_contains contains notExact).1]

end Scope

/-! ## The path leads to the column -/

/-- The column is seen in the scope that all names of its path but the last lead to, under the last
one. -/
def HeaderColumn.IsReached (header : Header) (separator : String) (column : HeaderColumn) : Prop :=
  ∃ parents last, memberPath column.name separator = parents ++ [last] ∧
    column ∈ header.available (Claims.none header) (Scope.along separator parents) ∧
    (Scope.along separator parents).nameWithin column = foldName last

theorem Header.mem_available_none {header : Header} {scope : Scope} {column : HeaderColumn} :
    column ∈ header.available (Claims.none header) scope ↔
      column ∈ header ∧ scope.contains column = true := by
  rw [available, List.mem_filter, Claims.isClaimed_none, Bool.not_false, Bool.true_and]

section Lengths

variable {separator : List Char} {pieces : List (List Char)}

/-- Characters that the pieces make up, each with a separator behind it. -/
def spread (separator : List Char) (pieces : List (List Char)) : Nat :=
  (pieces.map fun piece => piece.length + separator.length).sum

theorem spread_concat (separator : List Char) (parents : List (List Char)) (last : List Char) :
    spread separator (parents ++ [last]) =
      (parents.flatMap fun piece => piece.map Char.toLower ++ separator.map Char.toLower).length
        + last.length + separator.length := by
  simp [spread, List.length_flatMap, Nat.add_assoc]

theorem spread_filter (keep : List Char → Bool) :
    spread separator (pieces.filter keep) ≤ spread separator pieces := by
  induction pieces with
  | nil => exact Nat.le_refl _
  | cons piece rest ih =>
      rw [List.filter_cons]
      split
      · simp only [spread, List.map_cons, List.sum_cons] at ih ⊢
        omega
      · simp only [spread, List.map_cons, List.sum_cons] at ih ⊢
        omega

theorem keep_of_spread {keep : List Char → Bool} (some : separator ≠ [])
    (same : spread separator (pieces.filter keep) = spread separator pieces) :
    ∀ piece ∈ pieces, keep piece = true := by
  induction pieces with
  | nil => simp
  | cons piece rest ih =>
      have positive := List.length_pos_iff.mpr some
      have behind : spread separator (rest.filter keep) ≤ spread separator rest :=
        spread_filter keep
      rw [List.filter_cons] at same
      split at same
      · rename_i kept
        simp only [spread, List.map_cons, List.sum_cons, Nat.add_left_cancel_iff] at same
        exact List.forall_mem_cons.mpr ⟨kept, ih same⟩
      · simp only [spread, List.map_cons, List.sum_cons] at same behind
        omega

end Lengths

theorem memberPath_pieces {name separator : String} {pieces : List (List Char)}
    (ascii : ∀ c ∈ name.toList, c.toNat < 0x80)
    (asciiSeparator : ∀ c ∈ separator.toList, c.toNat < 0x80) (some : separator ≠ "")
    (cut : Cut separator.toList name.toList pieces) :
    memberPath name separator = (pieces.filter fun piece => !piece.isEmpty).map String.ofList := by
  have someMark : separator.toList ≠ [] := by simpa using some
  have foldedMark := foldName_ascii asciiSeparator
  have someFold := foldName_some some
  rw [cut.unique someMark (splitSegments_cut someMark asciiSeparator _ ascii), ← foldedMark]
  exact if_neg fun none => someFold (List.isEmpty_iff.mp none)

section Reaching

variable {columns : List Column} {column : HeaderColumn} {separator : String}
variable {pieces parents : List (List Char)} {piece : List Char}
variable (ascii : ∀ c ∈ column.name.toList, c.toNat < 0x80)
variable (cut : Cut separator.toList column.name.toList pieces)
include ascii cut

theorem Cut.foldName_piece (isPiece : piece ∈ pieces) :
    (foldName (String.ofList piece)).toList = piece.map Char.toLower := by
  have asciiPiece : ∀ c ∈ (String.ofList piece).toList, c.toNat < 0x80 := by
    simpa using fun c inside => ascii c (cut.mem isPiece inside)
  rw [foldName_ascii asciiPiece, String.toList_ofList]

variable (asciiSeparator : ∀ c ∈ separator.toList, c.toNat < 0x80)
include asciiSeparator

theorem Cut.lead_along (within : ∀ piece ∈ parents, piece ∈ pieces) :
    (Scope.along separator (parents.map String.ofList)).lead.toList =
      parents.flatMap fun piece =>
        piece.map Char.toLower ++ separator.toList.map Char.toLower := by
  rw [Scope.along_lead, foldName_ascii asciiSeparator, List.flatMap_map]
  refine List.flatMap_congr fun piece isParent => ?_
  rw [cut.foldName_piece ascii (within piece isParent)]

variable (some : separator ≠ "") (member : column ∈ Header.ofColumns columns)
include some member

theorem Cut.isReached (full : [] ∉ pieces) :
    column.IsReached (Header.ofColumns columns) separator := by
  obtain ⟨initial, final, rfl⟩ := (List.eq_nil_or_concat' pieces).resolve_left cut.ne_nil
  have kept : (initial ++ [final]).filter (fun piece => !piece.isEmpty) = initial ++ [final] := by
    rw [List.filter_eq_self]
    intro piece isPiece
    simpa using ne_of_mem_of_not_mem isPiece full
  have path : memberPath column.name separator =
      initial.map String.ofList ++ [String.ofList final] := by
    rw [memberPath_pieces ascii asciiSeparator some cut, kept, List.map_append, List.map_singleton]
  have someFinal : final.map Char.toLower ≠ [] := by
    intro none
    rw [List.map_eq_nil_iff] at none
    exact full (by simp [none])
  have split : column.folded.toList =
      (Scope.along separator (initial.map String.ofList)).lead.toList ++
        final.map Char.toLower := by
    rw [Header.ofColumns_isFolded member, foldName_ascii ascii, cut.lowered,
      cut.lead_along ascii asciiSeparator fun piece isParent => List.mem_append_left _ isParent]
  refine ⟨_, _, path,
    Header.mem_available_none.mpr ⟨member, Scope.along_isOpen.contains split someFinal⟩, ?_⟩
  rw [← String.toList_inj, Scope.along_isOpen.nameWithin split someFinal,
    cut.foldName_piece ascii (by simp)]

/-- An empty piece is left out of the path and would be missing from the length of the name. -/
theorem Cut.full_of_isReached
    (reached : column.IsReached (Header.ofColumns columns) separator) : [] ∉ pieces := by
  obtain ⟨parents, last, path, seen, named⟩ := reached
  rw [memberPath_pieces ascii asciiSeparator some cut] at path
  obtain ⟨kept, ends, whole, rfl, isLast⟩ := List.map_eq_append_iff.mp path
  obtain ⟨last, rfl, rfl⟩ := List.map_eq_singleton_iff.mp isLast
  have within : ∀ piece ∈ kept ++ [last], piece ∈ pieces ∧ piece ≠ [] := by
    intro piece isKept
    rw [← whole, List.mem_filter] at isKept
    exact ⟨isKept.1, by simpa using isKept.2⟩
  obtain ⟨isPiece, notEmpty⟩ := within last (by simp)
  have foldedLast := cut.foldName_piece ascii isPiece
  have someName : (Scope.along separator (kept.map String.ofList)).nameWithin column ≠ "" := by
    intro none
    rw [named, ← String.toList_inj, foldedLast] at none
    exact notEmpty (by simpa using none)
  have split := Scope.lead_nameWithin (Header.mem_available_none.mp seen).2 someName
  obtain ⟨initial, final, rfl⟩ := (List.eq_nil_or_concat' pieces).resolve_left cut.ne_nil
  rw [Header.ofColumns_isFolded member, foldName_ascii ascii, cut.lowered, named, foldedLast,
    cut.lead_along ascii asciiSeparator
      fun piece isKept => (within piece (List.mem_append_left _ isKept)).1] at split
  have lengths := congrArg List.length split
  rw [List.length_append, List.length_append, List.length_map, List.length_map] at lengths
  have same : spread separator.toList (kept ++ [last]) =
      spread separator.toList (initial ++ [final]) := by
    rw [spread_concat, spread_concat]
    omega
  rw [← whole] at same
  intro hollow
  have holds := keep_of_spread (by simpa using some) same [] hollow
  cases holds

end Reaching

/-- The pieces of a name are determined, its path are those that are not empty, and the path leads to
the column exactly if none is empty. -/
theorem Header.memberPath_reaches {columns : List Column} {column : HeaderColumn}
    {separator : String} (member : column ∈ ofColumns columns)
    (ascii : ∀ c ∈ column.name.toList, c.toNat < 0x80)
    (asciiSeparator : ∀ c ∈ separator.toList, c.toNat < 0x80) (some : separator ≠ "") :
    ∃ pieces,
      (∀ others, Cut separator.toList column.name.toList others ↔ others = pieces) ∧
      memberPath column.name separator =
        (pieces.filter fun piece => !piece.isEmpty).map String.ofList ∧
      ([] ∉ pieces ↔ column.IsReached (ofColumns columns) separator) := by
  have someMark : separator.toList ≠ [] := by simpa using some
  have cut := splitSegments_cut someMark asciiSeparator column.name.toList ascii
  refine ⟨_, fun others => ⟨fun again => again.unique someMark cut, fun same => same ▸ cut⟩,
    memberPath_pieces ascii asciiSeparator some cut, ?_⟩
  exact ⟨cut.isReached ascii asciiSeparator some member,
    cut.full_of_isReached ascii asciiSeparator some member⟩

/-! ## Cities

Of two separators that overlap the left one counts. Behind two separators in a row the path goes on
to a name that the column does not have in the scope there.
-/

namespace Cities

def columns : List Column :=
  [Column.declare "OrderAAaCity" .string, Column.declare "Home__City" .string]

def ordered : HeaderColumn :=
  ⟨0, "OrderAAaCity", "orderaaacity", .string, "string"⟩

def home : HeaderColumn :=
  ⟨1, "Home__City", "home__city", .string, "string"⟩

theorem header : Header.ofColumns columns = [ordered, home] := by
  decide +kernel

end Cities

theorem Cities.overlap_reached : memberPath Cities.ordered.name "aa" = ["Order", "aCity"] ∧
    Cities.ordered.IsReached (Header.ofColumns Cities.columns) "aa" := by
  have member : Cities.ordered ∈ Header.ofColumns Cities.columns := by simp [Cities.header]
  have ascii : ∀ c ∈ Cities.ordered.name.toList, c.toNat < 0x80 := by simp [Cities.ordered]
  have asciiSeparator : ∀ c ∈ "aa".toList, c.toNat < 0x80 := by simp
  obtain ⟨pieces, determined, -, reached⟩ :=
    Header.memberPath_reaches member ascii asciiSeparator (by decide)
  have cut := (determined _).mp (splitSegments_cut (by decide) asciiSeparator _ ascii)
  exact ⟨by decide +kernel, reached.mp (by rw [← cut]; decide +kernel)⟩

theorem Cities.doubled_missed : Cities.home ∈ Header.ofColumns Cities.columns ∧
    memberPath Cities.home.name "_" = ["Home", "City"] ∧
    ¬ Cities.home.IsReached (Header.ofColumns Cities.columns) "_" := by
  have path : memberPath Cities.home.name "_" = ["Home"] ++ ["City"] := by decide +kernel
  refine ⟨by simp [Cities.header], path, ?_⟩
  rintro ⟨parents, last, isPath, -, named⟩
  obtain ⟨rfl, same⟩ := List.append_inj' (path.symm.trans isPath) rfl
  obtain rfl := List.singleton_inj.mp same
  exact absurd named (by decide +kernel)

end Unflatten
