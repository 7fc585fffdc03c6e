/-!
# Allocating numbers that are not in use

Both the messages of a pipe and the calls of a channel are numbered by a
counter that runs through a cycle and skips the numbers still in use.  The
search probes at most one number more than there are busy ones, so it is a
structural recursion on how many probes are left.
-/

namespace Courier

set_option autoImplicit false

namespace Numbering

variable {α : Type} [DecidableEq α]

/-- The first number from `start` on that is not busy, after at most `probes` busy ones. -/
def search (next : α → α) (busy : List α) : (probes : Nat) → (start : α) → α
  | 0, start => start
  | probes + 1, start => if start ∈ busy then search next busy probes (next start) else start

/-- The first number from `start` on, in the order of `next`, that is not busy.  As many probes as
there are busy numbers suffice, since the next probe would be of one number more than are busy. -/
def firstFree (next : α → α) (busy : List α) (start : α) : α :=
  search next busy busy.length start

/-- A free start is taken at once. -/
theorem firstFree_of_not_mem {next : α → α} {busy : List α} {start : α} (free : start ∉ busy) :
    firstFree next busy start = start := by
  unfold firstFree
  cases busy with
  | nil => rfl
  | cons head tail => simp [search, free]

end Numbering

end Courier
