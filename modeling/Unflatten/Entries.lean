/-!
# Named entries in key order

A list of pairs of a name and a value. `insert` keeps the names in strictly ascending order, so a
name occurs once and equal contents are equal lists.
-/

set_option autoImplicit false

namespace Unflatten

abbrev Entries (α : Type) := List (String × α)

namespace Entries

variable {α : Type}

def insert (key : String) (value : α) : Entries α → Entries α
  | [] => [(key, value)]
  | (here, old) :: rest =>
    if key = here then (key, value) :: rest
    else if key < here then (key, value) :: (here, old) :: rest
    else (here, old) :: insert key value rest

def get? (key : String) : Entries α → Option α
  | [] => none
  | (here, value) :: rest => if here = key then some value else get? key rest

/-- Later pairs win over earlier ones of the same name. -/
def ofList (pairs : List (String × α)) : Entries α :=
  pairs.foldl (fun entries pair => entries.insert pair.1 pair.2) []

/-- The entries of both, those of `right` winning. -/
def union (left right : Entries α) : Entries α :=
  right.foldl (fun entries pair => entries.insert pair.1 pair.2) left

def names (entries : Entries α) : List String :=
  entries.map Prod.fst

theorem get?_insert_self (key : String) (value : α) (entries : Entries α) :
    (entries.insert key value).get? key = some value := by
  induction entries with
  | nil => simp [insert, get?]
  | cons entry rest ih =>
    obtain ⟨here, old⟩ := entry
    unfold insert
    split
    · simp [get?]
    · split
      · simp [get?]
      · rename_i different _
        simp [get?, ih, Ne.symm different]

theorem get?_insert_of_ne {key other : String} (value : α) (entries : Entries α)
    (different : other ≠ key) : (entries.insert key value).get? other = entries.get? other := by
  induction entries with
  | nil => simp [insert, get?, Ne.symm different]
  | cons entry rest ih =>
    obtain ⟨here, old⟩ := entry
    unfold insert
    split
    · rename_i same
      subst same
      simp [get?, Ne.symm different]
    · split
      · simp [get?, Ne.symm different]
      · simp [get?, ih]

end Entries

end Unflatten
