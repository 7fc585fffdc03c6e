import Courier.Proofs.Pipe.Handling
import Mathlib.Data.List.Induction

/-!
# What has happened to an exchange

An exchange does not know which peer it has, nor when its application sends and its
receiver ends with a message: packets of any content may come at any time, between any
operations of its own side.  Here its operations are taken in any order, and a history
keeps each of them together with the exchange that it met (`Exchange.history`).  What has
been handed over, answered and reported is read off the history.

A history is cut where the operations are cut (`Exchange.exists_of_history_eq_append`), so
what is shown of a whole history holds of each of its stretches as well, from the exchange
at which the stretch begins (`Exchange.exists_of_stretch`).  And what holds at the beginning
of a stretch and not at its end was lost at one of its events (`Exchange.exists_change`); what
holds at its end only came about at one of them, and has held since
(`Exchange.exists_last_change`).
-/

namespace Courier

set_option autoImplicit false

/-- What can be done to an exchange before it is given up. -/
inductive ExchangeOperation where
  | enqueue (body : Bytes) (ticket : Ticket) (limit : Nat)
  | handle (packet : Packet)
  | conclude (id : MessageId) (verdict : Except String Unit)
  | resync

namespace Exchange

/-- The exchange after an operation. -/
def operate (exchange : Exchange) : ExchangeOperation → Exchange
  | .enqueue body ticket limit =>
    match exchange.enqueue body ticket limit with
    | .ok (_, after) => after
    | .error _ => exchange
  | .handle packet => (exchange.handle packet).2
  | .conclude id verdict => (exchange.conclude id verdict).2
  | .resync => exchange

/-- The exchange after several operations. -/
def operateAll (exchange : Exchange) (operations : List ExchangeOperation) : Exchange :=
  operations.foldl operate exchange

/-- What every operation keeps holds after any number of them. -/
theorem operateAll_invariant (Holds : Exchange → Prop)
    (step : ∀ exchange operation, Holds exchange → Holds (exchange.operate operation))
    {exchange : Exchange} (start : Holds exchange) (operations : List ExchangeOperation) :
    Holds (exchange.operateAll operations) := by
  induction operations generalizing exchange with
  | nil => exact start
  | cons operation operations ih => exact ih (step exchange operation start)

end Exchange

/-- An operation, and the exchange that it met. -/
structure ExchangeEvent where
  before : Exchange
  operation : ExchangeOperation

namespace ExchangeEvent

/-- The exchange that the operation left. -/
def after (event : ExchangeEvent) : Exchange := event.before.operate event.operation

/-- What handling a packet asked for; no other operation asks for anything in this way. -/
def reaction (event : ExchangeEvent) : Reaction :=
  match event.operation with
  | .handle packet => (event.before.handle packet).1
  | _ => .none

variable {event : ExchangeEvent} {packet : Packet}

theorem after_of_handle (operation : event.operation = .handle packet) :
    event.after = (event.before.handle packet).2 := by
  rw [after, operation, Exchange.operate]

theorem reaction_of_handle (operation : event.operation = .handle packet) :
    event.reaction = (event.before.handle packet).1 := by
  rw [reaction, operation]

end ExchangeEvent

namespace Exchange

/-- Everything that several operations met, in order. -/
def history (exchange : Exchange) : List ExchangeOperation → List ExchangeEvent
  | [] => []
  | operation :: operations =>
    ⟨exchange, operation⟩ :: (exchange.operate operation).history operations

variable {exchange : Exchange}

/-- Where a history is cut, the operations are cut. -/
theorem exists_of_history_eq_append {operations : List ExchangeOperation}
    {early late : List ExchangeEvent} (cut : exchange.history operations = early ++ late) :
    ∃ first second, operations = first ++ second ∧ exchange.history first = early ∧
      (exchange.operateAll first).history second = late := by
  induction early generalizing exchange operations with
  | nil => exact ⟨[], operations, rfl, rfl, cut⟩
  | cons event early ih =>
    cases operations with
    | nil => cases cut
    | cons operation operations =>
      obtain ⟨rfl, rest⟩ := List.cons.inj cut
      obtain ⟨first, second, rfl, before, after⟩ := ih rest
      exact ⟨operation :: first, second, rfl, by simp only [history, before], after⟩

/-- Every event of a history met the exchange that the operations before it left. -/
theorem exists_of_mem_history {operations : List ExchangeOperation} {event : ExchangeEvent}
    (happened : event ∈ exchange.history operations) :
    ∃ earlier, event.before = exchange.operateAll earlier := by
  obtain ⟨early, late, cut⟩ := List.append_of_mem happened
  obtain ⟨first, second, -, -, rest⟩ := exists_of_history_eq_append cut
  cases second with
  | nil => cases rest
  | cons operation second =>
    obtain ⟨rfl, -⟩ := List.cons.inj rest
    exact ⟨first, rfl⟩

/-- What happens between two events of a history is a history too. -/
theorem exists_of_stretch {operations : List ExchangeOperation} {first last : ExchangeEvent}
    {between : List ExchangeEvent}
    (stretch : first :: (between ++ [last]) <:+: exchange.history operations) :
    ∃ earlier within, first.before = exchange.operateAll earlier ∧
      first.after.history within = between ∧ last.before = first.after.operateAll within := by
  obtain ⟨early, late, whole⟩ := stretch
  rw [List.append_assoc, List.cons_append, List.append_assoc] at whole
  obtain ⟨earlier, further, -, -, rest⟩ := exists_of_history_eq_append whole.symm
  cases further with
  | nil => cases rest
  | cons operation further =>
    obtain ⟨rfl, further⟩ := List.cons.inj rest
    obtain ⟨within, following, -, between, ending⟩ := exists_of_history_eq_append further
    refine ⟨earlier, within, rfl, between, ?_⟩
    cases following with
    | nil => cases ending
    | cons operation following =>
      obtain ⟨rfl, -⟩ := List.cons.inj ending
      rfl

/-- What no longer holds at the end was lost at one event, and the rest is a history from there. -/
theorem exists_change (Holds : Exchange → Prop) {operations : List ExchangeOperation}
    (start : Holds exchange) (lost : ¬ Holds (exchange.operateAll operations)) :
    ∃ early event rest, exchange.history operations = early ++ event :: event.after.history rest ∧
      Holds event.before ∧ ¬ Holds event.after ∧
      event.after.operateAll rest = exchange.operateAll operations := by
  induction operations generalizing exchange with
  | nil => exact absurd start lost
  | cons operation operations ih =>
    by_cases kept : Holds (exchange.operate operation)
    · obtain ⟨early, event, rest, cut, change⟩ := ih kept lost
      exact ⟨⟨exchange, operation⟩ :: early, event, rest, by rw [history, cut, List.cons_append],
        change⟩
    · exact ⟨[], ⟨exchange, operation⟩, operations, rfl, start, kept, rfl⟩

theorem operateAll_concat (exchange : Exchange) (operations : List ExchangeOperation)
    (operation : ExchangeOperation) :
    exchange.operateAll (operations ++ [operation]) =
      (exchange.operateAll operations).operate operation :=
  List.foldl_concat ..

theorem history_concat (exchange : Exchange) (operations : List ExchangeOperation)
    (operation : ExchangeOperation) :
    exchange.history (operations ++ [operation]) =
      exchange.history operations ++ [⟨exchange.operateAll operations, operation⟩] := by
  induction operations generalizing exchange with
  | nil => rfl
  | cons first operations ih =>
    rw [List.cons_append, history, ih, history, List.cons_append]
    rfl

/-- What holds at the end and not at the beginning came about at one event, and has held since. -/
theorem exists_last_change (Holds : Exchange → Prop) {operations : List ExchangeOperation}
    (start : ¬ Holds exchange) (gained : Holds (exchange.operateAll operations)) :
    ∃ early event late, exchange.history operations = early ++ event :: late ∧
      ¬ Holds event.before ∧ Holds event.after ∧
      ∀ later ∈ late, Holds later.before ∧ Holds later.after := by
  induction operations using List.reverseRecOn with
  | nil => exact absurd gained start
  | append_singleton operations operation ih =>
    rw [operateAll_concat] at gained
    rw [history_concat]
    by_cases already : Holds (exchange.operateAll operations)
    · obtain ⟨early, event, late, cut, before, after, since⟩ := ih already
      refine ⟨early, event, late ++ [⟨exchange.operateAll operations, operation⟩], ?_, before,
        after, fun later listed => ?_⟩
      · rw [cut, List.append_assoc, List.cons_append]
      · rcases List.mem_append.mp listed with earlier | last
        · exact since later earlier
        · cases List.mem_singleton.mp last
          exact ⟨already, gained⟩
    · exact ⟨_, _, [], rfl, already, gained, fun _ listed => nomatch listed⟩

end Exchange

end Courier
