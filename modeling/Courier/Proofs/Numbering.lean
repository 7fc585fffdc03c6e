import Courier.Numbering
import Courier.Wire.MessageId
import Mathlib.Data.Finset.Card
import Mathlib.Data.Finset.Range
import Mathlib.Logic.Function.Iterate

/-!
# A number that is given out is free

The search for a number stops at the first free one.  Where the numbers of the
cycle that it probes are different from one another, some of them is free, since
they are one more than the busy ones.

So a loop that probes one number after the other, without counting them, comes to
an end, and at the number that the search gives (`Numbering.Probes`).
-/

namespace Courier

set_option autoImplicit false

namespace Numbering

variable {α : Type} [DecidableEq α] {next : α → α} {busy : List α} {start : α}

/-- A search that ends at a busy number has met nothing but busy ones. -/
theorem iterate_mem_of_search_mem {probes : Nat} (found : search next busy probes start ∈ busy) :
    ∀ count ≤ probes, next^[count] start ∈ busy := by
  induction probes generalizing start with
  | zero =>
    intro count none
    obtain rfl := Nat.le_zero.mp none
    exact found
  | succ probes ih =>
    unfold search at found
    by_cases taken : start ∈ busy
    · rw [if_pos taken] at found
      intro count bound
      cases count with
      | zero => exact taken
      | succ count => exact ih found count (Nat.le_of_succ_le_succ bound)
    · rw [if_neg taken] at found
      exact absurd found taken

/-- The number that is given out is not busy, where the probes do not repeat. -/
theorem firstFree_not_mem
    (distinct : ∀ first second, first ≤ busy.length → second ≤ busy.length →
      next^[first] start = next^[second] start → first = second) :
    firstFree next busy start ∉ busy := by
  intro found
  have taken := iterate_mem_of_search_mem found
  have few : (Finset.range (busy.length + 1)).card ≤ busy.toFinset.card := by
    refine Finset.card_le_card_of_injOn (fun count => next^[count] start) ?_ ?_
    · intro count member
      have bound := Finset.mem_range.mp (Finset.mem_coe.mp member)
      exact Finset.mem_coe.mpr (List.mem_toFinset.mpr (taken count (Nat.le_of_lt_succ bound)))
    · intro first firstMember second secondMember same
      have firstBound := Finset.mem_range.mp (Finset.mem_coe.mp firstMember)
      have secondBound := Finset.mem_range.mp (Finset.mem_coe.mp secondMember)
      exact distinct first second (Nat.le_of_lt_succ firstBound) (Nat.le_of_lt_succ secondBound)
        same
  rw [Finset.card_range] at few
  exact Nat.not_succ_le_self _ (Nat.le_trans few (List.toFinset_card_le busy))

/-- A loop that probes one number after the other, each once, until one is free: from where it
starts, how many numbers it probes, and which one it ends at. -/
inductive Probes (next : α → α) (busy : List α) :
    (start : α) → (probes : Nat) → (found : α) → Prop where
  | free {start : α} (free : start ∉ busy) : Probes next busy start 1 start
  | skip {start found : α} {probes : Nat} (taken : start ∈ busy)
      (later : Probes next busy (next start) probes found) :
      Probes next busy start (probes + 1) found

/-- A search that ends at a free number goes the way of the loop. -/
theorem exists_probes {probes : Nat} (free : search next busy probes start ∉ busy) :
    ∃ count ≤ probes + 1, Probes next busy start count (search next busy probes start) := by
  induction probes generalizing start with
  | zero => exact ⟨1, Nat.le_refl _, .free free⟩
  | succ probes ih =>
    unfold search at free ⊢
    by_cases taken : start ∈ busy
    · rw [if_pos taken] at free ⊢
      obtain ⟨count, bound, later⟩ := ih free
      exact ⟨count + 1, Nat.succ_le_succ bound, .skip taken later⟩
    · rw [if_neg taken]
      exact ⟨1, Nat.le_add_left _ _, .free taken⟩

end Numbering

/-! ## Message ids -/

theorem MessageId.toNat_iterate_next (id : MessageId) (count : Nat) :
    (MessageId.next^[count] id).toNat = (id.toNat + count) % 0x1000000 := by
  induction count with
  | zero => exact (Nat.mod_eq_of_lt id.toNat_lt).symm
  | succ count ih =>
    rw [Function.iterate_succ_apply', next, toNat_ofNat, ih, Nat.mod_add_mod, Nat.add_assoc]

/-- As long as fewer than all ids are busy, a free one is given out. -/
theorem MessageId.firstFree_not_mem {busy : List MessageId} (few : busy.length < 0x1000000)
    (start : MessageId) : Numbering.firstFree MessageId.next busy start ∉ busy := by
  refine Numbering.firstFree_not_mem fun first second firstBound secondBound same => ?_
  have numbers := congrArg MessageId.toNat same
  rw [toNat_iterate_next, toNat_iterate_next] at numbers
  have bound := start.toNat_lt
  omega

/-! ## Call ids -/

namespace Numbering

theorem toNat_iterate_succ (id : UInt64) (count : Nat) :
    ((fun id : UInt64 => id + 1)^[count] id).toNat = (id.toNat + count) % UInt64.size := by
  induction count with
  | zero => exact (Nat.mod_eq_of_lt id.toNat_lt).symm
  | succ count ih =>
    rw [Function.iterate_succ_apply', UInt64.toNat_add, ih, UInt64.toNat_one, Nat.mod_add_mod,
      Nat.add_assoc]

/-- As long as fewer than all ids are busy, a free one is given out. -/
theorem firstFree_succ_not_mem {busy : List UInt64} (few : busy.length < UInt64.size)
    (start : UInt64) : firstFree (fun id => id + 1) busy start ∉ busy := by
  refine firstFree_not_mem fun first second firstBound secondBound same => ?_
  have numbers := congrArg UInt64.toNat same
  rw [toNat_iterate_succ, toNat_iterate_succ] at numbers
  have bound := start.toNat_lt_size
  simp only [UInt64.size] at few numbers bound
  omega

end Numbering

end Courier
