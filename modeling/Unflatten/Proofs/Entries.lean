import Mathlib.Data.List.Sort
import Unflatten.Entries

/-!
# Entries and their names

What an insertion leaves in the list and what a name finds there. Entries that stand in the order of
their names are determined by what the names find.
-/

set_option autoImplicit false

namespace Unflatten.Entries

variable {α : Type} {key : String} {value : α} {entries : Entries α}

theorem mem_insert {entry : String × α} (member : entry ∈ entries.insert key value) :
    entry = (key, value) ∨ entry ∈ entries := by
  induction entries with
  | nil => simpa [insert] using member
  | cons first rest ih =>
      obtain ⟨here, old⟩ := first
      unfold insert at member
      split at member
      · rcases List.mem_cons.mp member with same | member
        · exact Or.inl same
        · exact Or.inr (List.mem_cons_of_mem _ member)
      · split at member
        · rcases List.mem_cons.mp member with same | member
          · exact Or.inl same
          · exact Or.inr member
        · rcases List.mem_cons.mp member with same | member
          · exact Or.inr (by simp [same])
          · rcases ih member with same | member
            · exact Or.inl same
            · exact Or.inr (List.mem_cons_of_mem _ member)

theorem mem_of_get? {found : α} (given : entries.get? key = some found) :
    (key, found) ∈ entries := by
  induction entries with
  | nil => cases given
  | cons first rest ih =>
      obtain ⟨here, old⟩ := first
      rw [get?] at given
      split at given
      · rename_i same
        cases given
        simp [same]
      · exact List.mem_cons_of_mem _ (ih given)

theorem insert_present {name : String} (present : name = key ∨ ∃ old, (name, old) ∈ entries) :
    ∃ new, (name, new) ∈ entries.insert key value := by
  by_cases same : name = key
  · subst same
    exact ⟨value, mem_of_get? (get?_insert_self name value entries)⟩
  · obtain ⟨old, member⟩ := present.resolve_left same
    induction entries with
    | nil => cases member
    | cons first rest ih =>
        obtain ⟨here, other⟩ := first
        unfold insert
        split
        · rename_i keyed
          rcases List.mem_cons.mp member with isFirst | member
          · cases isFirst
            exact absurd keyed.symm same
          · exact ⟨old, List.mem_cons_of_mem _ member⟩
        · split
          · exact ⟨old, List.mem_cons_of_mem _ member⟩
          · rcases List.mem_cons.mp member with isFirst | member
            · exact ⟨old, by simp [isFirst]⟩
            · obtain ⟨new, later⟩ := ih (Or.inr ⟨old, member⟩) member
              exact ⟨new, List.mem_cons_of_mem _ later⟩

/-! ## Insertions one after the other -/

theorem insert_insert (key : String) (value earlier : α) (entries : Entries α) :
    (entries.insert key earlier).insert key value = entries.insert key value := by
  induction entries with
  | nil => simp [insert]
  | cons first rest ih =>
      obtain ⟨here, old⟩ := first
      by_cases same : key = here
      · simp [insert, same]
      · by_cases before : key < here
        · simp [insert, same, before]
        · simp [insert, same, before, ih]

theorem insert_comm {other : String} (differs : key ≠ other) (value changed : α)
    (entries : Entries α) :
    (entries.insert key value).insert other changed =
      (entries.insert other changed).insert key value := by
  wlog before : key < other generalizing key other value changed
  · have after : other < key := by
      refine Decidable.byContradiction fun notAfter => differs ?_
      exact String.le_antisymm (String.not_lt.mp notAfter) (String.not_lt.mp before)
    exact (this differs.symm changed value after).symm
  have notBefore : ¬ other < key := String.lt_asymm before
  induction entries with
  | nil => simp [insert, before, notBefore, differs, differs.symm]
  | cons first rest ih =>
      obtain ⟨here, old⟩ := first
      by_cases isOther : other = here
      · subst isOther
        simp [insert, before, notBefore, differs, differs.symm]
      · by_cases otherBefore : other < here
        · have keyBefore := String.lt_trans before otherBefore
          have keyApart : key ≠ here := by
            rintro rfl
            exact String.lt_irrefl key keyBefore
          simp [insert, before, notBefore, differs, differs.symm, isOther, otherBefore, keyBefore,
            keyApart]
        · by_cases isKey : key = here
          · subst isKey
            simp [insert, notBefore, differs.symm]
          · by_cases keyBefore : key < here
            · simp [insert, notBefore, differs.symm, isOther, otherBefore, isKey, keyBefore]
            · simp [insert, isOther, otherBefore, isKey, keyBefore, ih]

theorem find?_insert {answers : String → Bool} (silent : answers key = false) :
    List.find? (fun entry => answers entry.1) (entries.insert key value) =
      List.find? (fun entry => answers entry.1) entries := by
  induction entries with
  | nil => simp [insert, silent]
  | cons first rest ih =>
      obtain ⟨here, old⟩ := first
      by_cases same : key = here
      · subst same
        simp [insert, silent]
      · by_cases before : key < here
        · simp [insert, same, before, List.find?_cons, silent]
        · simp only [insert, if_neg same, if_neg before, List.find?_cons, ih]

theorem union_insert {left right : Entries α} (new : key ∉ right.names) :
    (left.insert key value).union right = (left.union right).insert key value := by
  induction right generalizing left with
  | nil => rfl
  | cons first rest ih =>
      rw [names, List.map_cons, List.mem_cons, not_or] at new
      rw [union, List.foldl_cons, insert_comm new.1]
      exact ih new.2

theorem union_insert_known {left right : Entries α} (known : key ∈ right.names) :
    (left.insert key value).union right = left.union right := by
  induction right generalizing left with
  | nil => cases known
  | cons first rest ih =>
      rw [union, List.foldl_cons, union, List.foldl_cons]
      by_cases same : key = first.1
      · rw [same, insert_insert]
      · rw [insert_comm same]
        refine ih ?_
        rw [names, List.map_cons, List.mem_cons] at known
        exact known.resolve_left same

theorem union_union (left right : Entries α) :
    (left.union right).union right = left.union right := by
  induction right generalizing left with
  | nil => rfl
  | cons first rest ih =>
      rw [union, List.foldl_cons, union, List.foldl_cons]
      change (insert first.1 first.2 ((insert first.1 first.2 left).union rest)).union rest =
        (insert first.1 first.2 left).union rest
      by_cases known : first.1 ∈ names rest
      · rw [union_insert_known known, ih]
      · rw [union_insert known, ih, union_insert known, insert_insert]

/-! ## Entries of new names -/

theorem insert_perm (new : key ∉ entries.names) :
    (entries.insert key value).Perm ((key, value) :: entries) := by
  induction entries with
  | nil => exact List.Perm.refl _
  | cons first rest ih =>
      obtain ⟨here, old⟩ := first
      rw [names, List.map_cons, List.mem_cons, not_or] at new
      unfold insert
      rw [if_neg new.1]
      split
      · exact List.Perm.refl _
      · exact ((ih new.2).cons _).trans (List.Perm.swap _ _ _)

theorem foldl_insert_perm {pairs : List (String × α)}
    (distinct : (names (pairs ++ entries)).Nodup) :
    (pairs.foldl (fun entries pair => entries.insert pair.1 pair.2) entries).Perm
      (pairs ++ entries) := by
  induction pairs generalizing entries with
  | nil => exact List.Perm.refl _
  | cons first rest ih =>
      rw [List.cons_append, names, List.map_cons, List.nodup_cons] at distinct
      have new : first.1 ∉ entries.names := by
        intro known
        refine distinct.1 ?_
        rw [List.map_append]
        exact List.mem_append_right _ known
      have inserted : (insert first.1 first.2 entries).Perm (first :: entries) := insert_perm new
      have reordered : (rest ++ insert first.1 first.2 entries).Perm
          (first :: (rest ++ entries)) :=
        (inserted.append_left rest).trans List.perm_middle
      rw [List.foldl_cons]
      refine (ih ?_).trans reordered
      refine (reordered.map Prod.fst).nodup_iff.mpr ?_
      exact List.nodup_cons.mpr distinct

theorem ofList_perm {pairs : List (String × α)} (distinct : (names pairs).Nodup) :
    (ofList pairs).Perm pairs := by
  have kept := @foldl_insert_perm α [] pairs (by rwa [List.append_nil])
  rwa [List.append_nil] at kept

/-! ## Entries in order -/

def Sorted (entries : Entries α) : Prop :=
  entries.Pairwise fun first later => first.1 < later.1

theorem Sorted.insert (sorted : Sorted entries) : Sorted (entries.insert key value) := by
  induction entries with
  | nil => simp [Sorted, Entries.insert]
  | cons first rest ih =>
      obtain ⟨here, old⟩ := first
      obtain ⟨below, later⟩ := List.pairwise_cons.mp sorted
      unfold Entries.insert
      split
      · rename_i same
        subst same
        exact List.pairwise_cons.mpr ⟨below, later⟩
      · rename_i differs
        split
        · rename_i before
          refine List.pairwise_cons.mpr ⟨fun entry member => ?_, sorted⟩
          rcases List.mem_cons.mp member with rfl | member
          · exact before
          · exact String.lt_trans before (below entry member)
        · rename_i notBefore
          have after : here < key := by
            refine Decidable.byContradiction fun notAfter => differs ?_
            exact String.le_antisymm (String.not_lt.mp notAfter) (String.not_lt.mp notBefore)
          refine List.pairwise_cons.mpr ⟨fun entry member => ?_, ih later⟩
          rcases mem_insert member with rfl | member
          · exact after
          · exact below entry member

theorem Sorted.union (sorted : Sorted entries) (pairs : List (String × α)) :
    Sorted (entries.union pairs) := by
  induction pairs generalizing entries with
  | nil => exact sorted
  | cons first rest ih => exact ih sorted.insert

theorem ofList_sorted (pairs : List (String × α)) : Sorted (ofList pairs) :=
  Sorted.union List.Pairwise.nil pairs

theorem get?_of_mem (sorted : Sorted entries) (member : (key, value) ∈ entries) :
    entries.get? key = some value := by
  induction entries with
  | nil => cases member
  | cons first rest ih =>
      obtain ⟨here, old⟩ := first
      obtain ⟨below, later⟩ := List.pairwise_cons.mp sorted
      rw [get?]
      rcases List.mem_cons.mp member with same | member
      · cases same
        rw [if_pos rfl]
      · have before : here < key := below (key, value) member
        rw [if_neg (by rintro rfl; exact String.lt_irrefl here before)]
        exact ih later member

theorem get?_iff_mem (sorted : Sorted entries) :
    entries.get? key = some value ↔ (key, value) ∈ entries :=
  ⟨mem_of_get?, get?_of_mem sorted⟩

theorem Sorted.ext {others : Entries α} (sorted : Sorted entries) (alsoSorted : Sorted others)
    (same : ∀ key, entries.get? key = others.get? key) : entries = others := by
  have members : ∀ entry, entry ∈ entries ↔ entry ∈ others := by
    rintro ⟨key, value⟩
    rw [← get?_iff_mem sorted, ← get?_iff_mem alsoSorted, same key]
  have antisymmetric : Std.Antisymm fun first later : String × α => first.1 < later.1 :=
    ⟨fun first later before after => absurd after (String.lt_asymm before)⟩
  have irreflexive : Std.Irrefl fun first later : String × α => first.1 < later.1 :=
    ⟨fun entry => String.lt_irrefl entry.1⟩
  exact List.Pairwise.eq_of_mem_iff sorted alsoSorted members

/-! ## Unions -/

section Unions

variable {left right pairs : Entries α}

theorem get?_union_of_notMem (absent : key ∉ names pairs) :
    (union entries pairs).get? key = entries.get? key := by
  induction pairs generalizing entries with
  | nil => rfl
  | cons first rest ih =>
      rw [names, List.map_cons, List.mem_cons, not_or] at absent
      exact (ih absent.2).trans (get?_insert_of_ne _ _ absent.1)

theorem get?_union_of_mem (distinct : (names pairs).Nodup) (member : (key, value) ∈ pairs) :
    (union entries pairs).get? key = some value := by
  induction pairs generalizing entries with
  | nil => cases member
  | cons first rest ih =>
      obtain ⟨new, distinctRest⟩ := List.nodup_cons.mp distinct
      rcases List.mem_cons.mp member with rfl | isRest
      · exact (get?_union_of_notMem new).trans (get?_insert_self _ _ _)
      · exact ih distinctRest isRest

end Unions

end Unflatten.Entries
