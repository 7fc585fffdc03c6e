import Courier.Supervisor.Script
import Mathlib.Data.List.Basic
import Mathlib.Logic.Relation

/-!
# What happens at a supervisor

A supervisor is asked for things, from outside or by a component that it shuts down, and what
follows from one request comes before the next request of the same script.  So the agenda is
the stack of the thread: what stands in front of it is done first, and then its caller goes on
(`Moment.reaches_run`).  A script is what a component in fact asks for, whatever that depends on;
there is one for each component, since each is shut down once.

Between any two things there is a moment.  Its log tells what has happened so far, by
component: names need not differ, and the remarks of a drill know nothing else
(`Moment.Reachable.remarks`).  What one thing does to a supervisor, to the agenda and to the
log is said once (`Drill.deed`).
-/

namespace Courier

set_option autoImplicit false

/-! ## Occurrences -/

/-- Something that happens on the thread of a supervisor. -/
inductive Occurrence where
  /-- The supervisor is asked for something. -/
  | asked (request : Request Component)
  /-- The teardown begins. -/
  | begun
  /-- A component is told to shut down. -/
  | stopped (component : Component)
  /-- It is the turn of a component that is gone. -/
  | passed (component : Component)
  /-- It is made known that the teardown has ended. -/
  | ended

namespace Occurrence

@[simp]
def registered? : Occurrence → Option Component
  | asked (.register component) => some component
  | _ => none

@[simp]
def stopped? : Occurrence → Option Component
  | stopped component => some component
  | _ => none

/-- The component whose turn it is. -/
@[simp]
def turn? : Occurrence → Option Component
  | stopped component => some component
  | passed component => some component
  | _ => none

/-- The components that have been registered, in this order. -/
abbrev registered (log : List Occurrence) : List Component := log.filterMap registered?

/-- The components that have been told to shut down, in this order. -/
abbrev stoppedOf (log : List Occurrence) : List Component := log.filterMap stopped?

/-- The components whose turn it has been, in this order. -/
abbrev turns (log : List Occurrence) : List Component := log.filterMap turn?

end Occurrence

/-- The name of a component that is told to shut down. -/
def Remark.shutDown? : Remark → Option String
  | .shutDown component => some component
  | _ => none

/-- A request that ends the composition. -/
def Request.Ends (asked : Request Component) : Prop := asked = .terminate ∨ asked = .fatal

namespace Duty

@[simp]
def shutDown? : Duty → Option Component
  | shutDown component => some component
  | _ => none

/-- The components that are still to be shut down, in this order. -/
abbrev shutDowns (agenda : List Duty) : List Component := agenda.filterMap shutDown?

/-- A script goes on. -/
def IsRequest (duty : Duty) : Prop := ∃ component asked, duty = request component asked

@[simp] theorem shutDown?_comp_shutDown : shutDown? ∘ shutDown = some := rfl

/-- Requests shut nothing down by themselves. -/
theorem shutDowns_requests {agenda : List Duty} (requests : ∀ duty ∈ agenda, duty.IsRequest) :
    shutDowns agenda = [] := by
  refine List.filterMap_eq_nil_iff.mpr ?_
  intro duty listed
  obtain ⟨component, asked, rfl⟩ := requests duty listed
  rfl

theorem finish_not_mem_requests {agenda : List Duty}
    (requests : ∀ duty ∈ agenda, duty.IsRequest) : finish ∉ agenda := by
  intro listed
  obtain ⟨component, asked, same⟩ := requests finish listed
  cases same

end Duty

/-! ## What one thing does -/

namespace Drill

/-- A teardown begins if none has begun before. -/
def beginning (drill : Drill) : List Occurrence :=
  match drill.supervisor.phase with
  | .running => [.begun]
  | _ => []

/-- What happens while one thing is done. -/
def occurrences (drill : Drill) : Duty → List Occurrence
  | .shutDown component =>
    if component.identity ∈ drill.dropped then [.passed component] else [.stopped component]
  | .request _ .terminate => .asked .terminate :: drill.beginning
  | .request _ .fatal => .asked .fatal :: drill.beginning
  | .request _ asked => [.asked asked]
  | .finish => [.ended]

/-- What one thing does to a supervisor, what has to be done next, and what happens. -/
inductive Deed (supervisor : Supervisor Component) (dropped : List Nat) :
    Duty → Supervisor Component → List Duty → List Occurrence → Prop where
  /-- A warning, or an error that another thread reports. -/
  | aside (component : String) {asked : Request Component}
      (quiet : asked = .warn ∨ asked = .fatalAside) :
      Deed supervisor dropped (.request component asked) supervisor [] [.asked asked]
  | begin (component : String) {asked : Request Component} (ends : asked.Ends)
      (phase : supervisor.phase = .running) :
      Deed supervisor dropped (.request component asked) ⟨.tearingDown, []⟩
        (supervisor.parts.map Duty.shutDown ++ [.finish]) [.asked asked, .begun]
  /-- The teardown has begun before. -/
  | again (component : String) {asked : Request Component} (ends : asked.Ends)
      (phase : supervisor.phase ≠ .running) :
      Deed supervisor dropped (.request component asked) supervisor [] [.asked asked]
  | enter (component : String) (part : Component) (phase : supervisor.phase = .running) :
      Deed supervisor dropped (.request component (.register part))
        { supervisor with parts := supervisor.parts ++ [part] } [] [.asked (.register part)]
  | late (component : String) (part : Component) (phase : supervisor.phase ≠ .running) :
      Deed supervisor dropped (.request component (.register part)) supervisor [.shutDown part]
        [.asked (.register part)]
  /-- A component is shut down, and what its script asks for comes next. -/
  | stop (component : Component) {requests : List Duty}
      (script : ∀ duty ∈ requests, duty.IsRequest) :
      Deed supervisor dropped (.shutDown component) supervisor requests [.stopped component]
  | pass {component : Component} (gone : component.identity ∈ dropped) :
      Deed supervisor dropped (.shutDown component) supervisor [] [.passed component]
  | finish : Deed supervisor dropped .finish { supervisor with phase := .done } [] [.ended]

theorem deed_ends (drill : Drill) (component : String) {asked : Request Component}
    (ends : asked.Ends) :
    Deed drill.supervisor drill.dropped (.request component asked) drill.teardown.2.supervisor
      drill.teardown.1 (.asked asked :: drill.beginning) := by
  obtain ⟨⟨phase, parts⟩, dropped, waiting, remarks⟩ := drill
  cases phase with
  | running => exact .begin component ends rfl
  | tearingDown => exact .again component ends nofun
  | done => exact .again component ends nofun

theorem deed_register (drill : Drill) (component : String) (part : Component) :
    Deed drill.supervisor drill.dropped (.request component (.register part))
      (drill.register part).2.supervisor (drill.register part).1 [.asked (.register part)] := by
  obtain ⟨⟨phase, parts⟩, dropped, waiting, remarks⟩ := drill
  cases phase with
  | running => exact .enter component part rfl
  | tearingDown => exact .late component part nofun
  | done => exact .late component part nofun

/-- All that one thing can do. -/
theorem deed (drill : Drill) (duty : Duty) :
    Deed drill.supervisor drill.dropped duty (drill.perform duty).2.supervisor
      (drill.perform duty).1 (drill.occurrences duty) := by
  cases duty with
  | finish => exact .finish
  | shutDown component =>
    by_cases gone : component.identity ∈ drill.dropped
    · simp only [perform, occurrences, if_pos gone]
      exact .pass gone
    · simp only [perform, occurrences, if_neg gone]
      apply Deed.stop
      intro duty listed
      obtain ⟨asked, _, rfl⟩ := List.mem_map.mp listed
      exact ⟨_, asked, rfl⟩
  | request component asked =>
    cases asked with
    | warn => exact .aside component (.inl rfl)
    | terminate => exact drill.deed_ends component (.inl rfl)
    | fatal => exact drill.deed_ends component (.inr rfl)
    | register part => exact drill.deed_register component part
    | fatalAside =>
      have same : (drill.reportAside component).supervisor = drill.supervisor := by
        unfold reportAside
        split <;> rfl
      simp only [perform, occurrences, same]
      exact .aside component (.inr rfl)

/-- Nothing that is done brings a component back or takes one away. -/
theorem dropped_perform (drill : Drill) (duty : Duty) :
    (drill.perform duty).2.dropped = drill.dropped := by
  cases duty with
  | finish => rfl
  | shutDown component =>
    simp only [perform]
    split <;> rfl
  | request component asked =>
    cases asked with
    | warn => rfl
    | terminate | fatal =>
      simp only [perform, teardown]
      split <;> rfl
    | fatalAside =>
      simp only [perform, reportAside]
      split <;> rfl
    | register part =>
      simp only [perform, register]
      split <;> rfl

end Drill

/-! ## Moments -/

/-- A moment between two things that are done, with what has happened so far. -/
structure Moment where
  drill : Drill
  agenda : List Duty
  log : List Occurrence

namespace Moment

/-- Before anything has happened. -/
def start : Moment := ⟨.new, [], []⟩

/-- What comes next: a request from outside if there is nothing else to do, or else the first thing
that there is to do.  Components can be gone at any time. -/
inductive Step : Moment → Moment → Prop where
  | ask (drill : Drill) (log : List Occurrence) {asked : Request Component}
      (here : asked ≠ .fatalAside) : Step ⟨drill, [], log⟩ ⟨drill, [.request "" asked], log⟩
  | work (drill : Drill) (duty : Duty) (rest : List Duty) (log : List Occurrence) :
      Step ⟨drill, duty :: rest, log⟩
        ⟨(drill.perform duty).2, (drill.perform duty).1 ++ rest, log ++ drill.occurrences duty⟩
  | drop (moment : Moment) (identity : Nat) :
      Step moment { moment with drill := moment.drill.drop identity }

/-- One moment comes after another. -/
def Leads : Moment → Moment → Prop := Relation.ReflTransGen Step

def Reachable (moment : Moment) : Prop := start.Leads moment

/-- What there is to do is done in full, and then what comes behind it goes on. -/
theorem reaches_run (drill : Drill) (agenda rest : List Duty) (log : List Occurrence) :
    ∃ more, Leads ⟨drill, agenda ++ rest, log⟩ ⟨drill.run agenda, rest, log ++ more⟩ := by
  fun_induction Drill.run drill agenda generalizing log with
  | case1 drill =>
    refine ⟨[], ?_⟩
    rw [List.append_nil]
    exact .refl
  | case2 drill duty agenda ih =>
    obtain ⟨more, leads⟩ := ih (log ++ drill.occurrences duty)
    refine ⟨drill.occurrences duty ++ more, ?_⟩
    rw [List.append_assoc] at leads
    rw [← List.append_assoc]
    exact .head (.work drill duty (agenda ++ rest) log) leads

/-- What has happened is not forgotten. -/
theorem Leads.log {moment later : Moment} (leads : moment.Leads later) :
    ∃ more, later.log = moment.log ++ more := by
  induction leads with
  | refl => exact ⟨[], (List.append_nil _).symm⟩
  | tail _ step ih =>
    obtain ⟨more, grown⟩ := ih
    cases step with
    | ask | drop => exact ⟨more, grown⟩
    | work drill duty rest log =>
      refine ⟨more ++ drill.occurrences duty, ?_⟩
      rw [← List.append_assoc, ← grown]

/-! ### What can be seen -/

theorem remarks_perform (drill : Drill) (duty : Duty) :
    (drill.perform duty).2.remarks.filterMap Remark.shutDown? =
      drill.remarks.filterMap Remark.shutDown? ++
        (Occurrence.stoppedOf (drill.occurrences duty)).map Component.name := by
  cases duty with
  | finish =>
    have waited : (drill.waiting.map Remark.waited).filterMap Remark.shutDown? = [] := by
      rw [List.filterMap_map]
      exact List.filterMap_eq_nil_iff.mpr fun _ _ => rfl
    simp only [Drill.perform, List.filterMap_append, waited]
    rfl
  | shutDown component =>
    simp only [Drill.perform, Drill.occurrences]
    split
    · exact (List.append_nil _).symm
    · exact List.filterMap_append
  | request component asked =>
    have quiet : Occurrence.stoppedOf (drill.occurrences (.request component asked)) = [] := by
      cases asked with
      | terminate | fatal =>
        simp only [Drill.occurrences, Drill.beginning]
        split <;> rfl
      | warn | fatalAside | register => rfl
    rw [quiet, List.map_nil, List.append_nil]
    cases asked with
    | warn => rfl
    | terminate | fatal =>
      simp only [Drill.perform, Drill.teardown]
      split <;> rfl
    | register part =>
      simp only [Drill.perform, Drill.register]
      split <;> rfl
    | fatalAside =>
      simp only [Drill.perform, Drill.reportAside]
      split <;> simp [Drill.remark, Remark.shutDown?]

/-- The names of the components that are told to shut down are what can be seen of it. -/
theorem Reachable.remarks {moment : Moment} (reachable : moment.Reachable) :
    moment.drill.remarks.filterMap Remark.shutDown? =
      (Occurrence.stoppedOf moment.log).map Component.name := by
  induction reachable with
  | refl => rfl
  | tail _ step ih =>
    cases step with
    | ask | drop => exact ih
    | work drill duty rest log =>
      rw [remarks_perform, ih, Occurrence.stoppedOf, Occurrence.stoppedOf, Occurrence.stoppedOf,
        List.filterMap_append, List.map_append]

end Moment

end Courier
