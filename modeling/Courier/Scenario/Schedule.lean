import Courier.Link.Memory
import Courier.Pipe.Exchange

/-!
# Schedules

Tasks have their turns one at a time.  A task that waits is made ready by what
it waits for, and then takes its place in one of three lines: tasks woken by
another task come first, tasks woken from outside of any task come next, and
last come those that have used up their share of the processor.  Those go on
when nobody else is ready, or after a round of turns that others have had, the
one that stopped last being the first.

A task that is woken during its own turn has another one.
-/

namespace Courier.Scenario

set_option autoImplicit false

inductive Task where
  /-- Hands the waiting messages of a composition to its receiver. -/
  | receiver (composition : Nat)
  | pump (cable : Nat) (side : Side)
  | writeLoop (duplex : Nat)
  | readLoop (duplex : Nat)
  /-- Waits for what becomes of a message of a channel. -/
  | delivery (ticket : Ticket)
deriving DecidableEq

structure Schedule where
  /-- The tasks woken by other tasks. -/
  inner : List Task
  /-- The tasks woken from outside. -/
  outer : List Task
  /-- The tasks that have used up their share, the last one first. -/
  yielded : List Task
  /-- The task that has its turn. -/
  current : Option Task
  /-- Whether that task has been woken meanwhile. -/
  again : Bool
  /-- How many turns there have been in this round. -/
  turns : Nat
deriving DecidableEq

namespace Schedule

def empty : Schedule := ⟨[], [], [], none, false, 0⟩

/-- How many turns a round has while somebody is ready. -/
def round : Nat := 61

/-- Whether a task has a place in one of the lines. -/
def holds (schedule : Schedule) (task : Task) : Bool :=
  schedule.inner.contains task || schedule.outer.contains task || schedule.yielded.contains task

/-- Makes a task ready, unless it already is. -/
def wake (schedule : Schedule) (task : Task) : Schedule :=
  if schedule.current = some task then { schedule with again := true }
  else if schedule.holds task then schedule
  else if schedule.current.isSome then { schedule with inner := schedule.inner ++ [task] }
  else { schedule with outer := schedule.outer ++ [task] }

/-- The task that has its turn has used up its share. -/
def yield (schedule : Schedule) : Schedule :=
  { schedule with yielded := schedule.current.toList ++ schedule.yielded }

/-- A new round, in which those go on that have used up their share. -/
def nextRound (schedule : Schedule) : Schedule :=
  { schedule with inner := schedule.inner ++ schedule.yielded, yielded := [], turns := 0 }

/-- Gives the first in line its turn. -/
def start (schedule : Schedule) : Option (Task × Schedule) :=
  let begin (task : Task) (schedule : Schedule) :=
    some (task, { schedule with current := some task, again := false, turns := schedule.turns + 1 })
  match schedule.inner, schedule.outer with
  | task :: rest, _ => begin task { schedule with inner := rest }
  | [], task :: rest => begin task { schedule with outer := rest }
  | [], [] => none

/-- The next turn, if anybody is ready. -/
def next (schedule : Schedule) : Option (Task × Schedule) :=
  if schedule.turns < round then schedule.start <|> schedule.nextRound.start
  else schedule.nextRound.start

/-- The turn of a task is over. -/
def finish (schedule : Schedule) : Schedule :=
  let line := match schedule.current with
    | some task => if schedule.again && !schedule.holds task then [task] else []
    | none => []
  { schedule with inner := schedule.inner ++ line, current := none, again := false }

/-- Everybody has come to rest. -/
def rest (schedule : Schedule) : Schedule := { schedule with turns := 0 }

/-- A task that is woken has its turn before long: it is in a line, or has its turn already. -/
theorem holds_wake (schedule : Schedule) (task : Task) :
    (schedule.wake task).holds task = true ∨ (schedule.wake task).current = some task := by
  unfold wake
  split
  · exact .inr (by assumption)
  · split
    · exact .inl (by assumption)
    · split <;> exact .inl (by simp [holds])

end Schedule

end Courier.Scenario
