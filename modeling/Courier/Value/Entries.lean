/-!
# Maps as lists in the order of their keys

A map from texts is the list of its entries, in ascending order of the keys and
with no key twice.  Texts are ordered by their characters' code points, which
is also the order of their UTF-8 bytes.
-/

namespace Courier

set_option autoImplicit false

namespace Entries

variable {α : Type}

/-- Puts an entry in its place; it replaces an entry of the same key. -/
def insert (key : String) (value : α) : List (String × α) → List (String × α)
  | [] => [(key, value)]
  | entry :: rest =>
    if key < entry.1 then (key, value) :: entry :: rest
    else if key = entry.1 then (key, value) :: rest
    else entry :: insert key value rest

/-- The map of a list of entries, of which the last with a key counts. -/
def ofList (entries : List (String × α)) : List (String × α) :=
  entries.foldl (fun map entry => insert entry.1 entry.2 map) []

/-- The value under a key. -/
def get? (key : String) : List (String × α) → Option α
  | [] => none
  | entry :: rest => if entry.1 = key then some entry.2 else get? key rest

/-- Whether the keys ascend, each below the next. -/
def Ascending (entries : List (String × α)) : Prop :=
  entries.Pairwise fun first second => first.1 < second.1

@[simp] theorem get?_insert_self (key : String) (value : α) (entries : List (String × α)) :
    get? key (insert key value entries) = some value := by
  induction entries with
  | nil => simp [insert, get?]
  | cons entry rest ih =>
    unfold insert
    split
    · simp [get?]
    · split
      · simp [get?]
      · rename_i differs
        simp [get?, Ne.symm differs, ih]

end Entries

end Courier
