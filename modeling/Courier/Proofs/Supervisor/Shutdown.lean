import Courier.Proofs.Supervisor.Standing
import Mathlib.Logic.Function.Iterate

/-!
# Every component is shut down once

Whatever is asked of a supervisor, from outside or by components while they are shut down, and
whatever components are gone when their turn comes: at any moment none has been shut down twice,
and when all is done that was asked for, and the end was asked for at some time, each of them has
been shut down (`Moment.orderly`).
-/

namespace Courier

set_option autoImplicit false

open Duty (shutDowns)
open Occurrence (registered stoppedOf turns Lawfully)

/-! ## What logs tell -/

namespace Occurrence

variable {log : List Occurrence} {component : Component}

theorem mem_stoppedOf : component ∈ stoppedOf log ↔ .stopped component ∈ log := by
  constructor
  · intro listed
    obtain ⟨next, among, told⟩ := List.mem_filterMap.mp listed
    cases next <;> cases told
    exact among
  · intro listed
    exact List.mem_filterMap.mpr ⟨_, listed, rfl⟩

/-- Who had its turn was shut down or gone. -/
theorem eq_of_turn? {next : Occurrence} (turn : next.turn? = some component) :
    next = .stopped component ∨ next = .passed component := by
  cases next <;> cases turn
  · exact .inl rfl
  · exact .inr rfl

theorem stopped_or_passed (listed : component ∈ turns log) :
    .stopped component ∈ log ∨ .passed component ∈ log := by
  obtain ⟨next, among, turn⟩ := List.mem_filterMap.mp listed
  rcases eq_of_turn? turn with rfl | rfl
  · exact .inl among
  · exact .inr among

theorem stoppedOf_sublist_turns (log : List Occurrence) :
    (stoppedOf log).Sublist (turns log) := by
  induction log with
  | nil => exact .slnil
  | cons next log ih =>
    cases next with
    | stopped component => exact ih.cons_cons component
    | passed component => exact ih.cons component
    | asked request =>
      cases request <;> exact ih
    | begun | ended => exact ih

/-- Those who are still there have been shut down in the order of their turns. -/
theorem filter_turns_sublist {here : Component → Bool}
    (gone : ∀ component, .passed component ∈ log → here component = false) :
    ((turns log).filter here).Sublist (stoppedOf log) := by
  induction log with
  | nil => exact .slnil
  | cons next log ih =>
    have ih := ih fun component listed => gone component (List.mem_cons_of_mem _ listed)
    cases next with
    | stopped component =>
      have first : turns (.stopped component :: log) = component :: turns log := rfl
      rw [first, List.filter_cons]
      split
      · exact ih.cons_cons component
      · exact ih.cons component
    | passed component =>
      have first : turns (.passed component :: log) = component :: turns log := rfl
      have absent := gone component (List.mem_cons_self ..)
      rw [first, List.filter_cons_of_neg (by simp [absent])]
      exact ih
    | asked request => exact ih
    | begun | ended => exact ih

/-- Who was passed over has not been shut down. -/
theorem notMem_stoppedOf_of_passed (once : ((turns log).map Component.identity).Nodup)
    (passed : .passed component ∈ log) :
    component.identity ∉ (stoppedOf log).map Component.identity := by
  obtain ⟨first, rest, rfl⟩ := List.append_of_mem passed
  have turned : turns (first ++ .passed component :: rest) =
      turns first ++ component :: turns rest := List.filterMap_append
  have stopped : stoppedOf (first ++ .passed component :: rest) =
      stoppedOf first ++ stoppedOf rest := List.filterMap_append
  rw [turned, List.map_append, List.map_cons, List.nodup_middle, ← List.map_append] at once
  rw [stopped]
  have others := (stoppedOf_sublist_turns first).append (stoppedOf_sublist_turns rest)
  exact fun listed => (List.nodup_cons.mp once).1 ((others.map Component.identity).subset listed)

/-- A teardown begins once. -/
theorem Lawfully.begun_once {before after : List Occurrence} (lawfully : Lawfully [] log)
    (split : log = before ++ .begun :: after) : .begun ∉ before ∧ .begun ∉ after := by
  refine ⟨((lawfully.lawful split).begun rfl).1, fun listed => ?_⟩
  obtain ⟨middle, rest, rfl⟩ := List.append_of_mem listed
  have again : log = (before ++ .begun :: middle) ++ .begun :: rest := by simpa using split
  exact ((lawfully.lawful again).begun rfl).1 (by simp)

end Occurrence

/-! ## Moments -/

namespace Moment

/-- A moment at which everything is in order. -/
structure Sound (moment : Moment) : Prop where
  accounted : Accounted moment.drill.supervisor moment.agenda moment.log
  stands : Stands moment.drill.supervisor moment.agenda moment.log
  lawfully : Lawfully [] moment.log
  awaited : Awaited moment.agenda moment.log
  /-- Who was passed over was gone. -/
  gone : ∀ component, .passed component ∈ moment.log → component.identity ∈ moment.drill.dropped

theorem sound_start : start.Sound where
  accounted := .refl _
  stands := .running rfl rfl List.not_mem_nil List.not_mem_nil nofun nofun
  lawfully := trivial
  awaited earlier component split := by cases earlier <;> cases split
  gone := nofun

theorem Sound.work {drill : Drill} {duty : Duty} {rest : List Duty} {log : List Occurrence}
    (sound : Sound ⟨drill, duty :: rest, log⟩) :
    Sound ⟨(drill.perform duty).2, (drill.perform duty).1 ++ rest,
      log ++ drill.occurrences duty⟩ where
  accounted := sound.accounted.deed (drill.deed duty)
  stands := sound.stands.deed (drill.deed duty)
  lawfully := by
    have next := lawfully_deed sound.accounted sound.stands sound.awaited (drill.deed duty)
    exact Occurrence.lawfully_append.mpr ⟨sound.lawfully, next⟩
  awaited := awaited_deed sound.stands (drill.deed duty)
  gone component listed := by
    simp only [drill.dropped_perform duty]
    rcases List.mem_append.mp listed with before | now
    · exact sound.gone component before
    · exact (drill.deed duty).gone now

theorem Sound.step {moment later : Moment} (sound : moment.Sound) (step : Step moment later) :
    later.Sound := by
  cases step with
  | work drill duty rest log => exact sound.work
  | drop moment identity =>
    exact ⟨sound.accounted, sound.stands, sound.lawfully, sound.awaited, fun component listed =>
      List.mem_cons_of_mem _ (sound.gone component listed)⟩
  | @ask drill log asked here =>
    refine ⟨sound.accounted, ?_, sound.lawfully, ?_, sound.gone⟩
    · cases sound.stands with
      | running phase parts unbegun unended calm _ =>
        refine .running phase parts unbegun unended calm fun duty listed => ?_
        exact ⟨"", asked, List.mem_singleton.mp listed⟩
      | tearingDown _ _ _ _ front back left next =>
        cases front <;> cases left <;> cases next
      | done phase parts begun ended _ => exact .done phase parts begun ended (by simp)
    · intro earlier component late begun
      obtain ⟨_, none⟩ := sound.awaited earlier component late begun
      cases none

theorem Reachable.sound {moment : Moment} (reachable : moment.Reachable) : moment.Sound := by
  induction reachable with
  | refl => exact sound_start
  | tail _ step ih => exact ih.step step

/-! ## Once for all -/

/-- The component is there no more. -/
def Gone (moment : Moment) (component : Component) : Prop :=
  component.identity ∈ moment.drill.dropped

/-- Everything that is asked of a supervisor is in order until now. -/
structure Orderly (moment : Moment) : Prop where
  /-- No component has been shut down twice. -/
  noneTwice : ((stoppedOf moment.log).map Component.identity).Nodup
  /-- When everything has returned, and the end has been asked for at some time, the teardown has
  ended, and every component that is there has been shut down once. -/
  eachOnce : moment.agenda = [] → (∃ asked, .asked asked ∈ moment.log ∧ asked.Ends) →
    .ended ∈ moment.log ∧ ∀ component ∈ registered moment.log, ¬moment.Gone component →
      ((stoppedOf moment.log).map Component.identity).count component.identity = 1
  /-- A component that is registered after the teardown has begun is shut down at once. -/
  prompt : ∀ before component after,
    moment.log = before ++ .asked (.register component) :: after → .begun ∈ before →
      (∃ next rest, after = next :: rest ∧
        (next = .stopped component ∨ next = .passed component ∧ moment.Gone component)) ∨
        after = [] ∧ ∃ rest, moment.agenda = .shutDown component :: rest
  /-- The components that were known when the teardown began are shut down in the order in which
  they were registered. -/
  inOrder : ∀ before after, moment.log = before ++ .begun :: after →
    ((registered before).filter fun component =>
      component.identity ∈ (stoppedOf moment.log).map Component.identity).Sublist
        (stoppedOf moment.log)
  terminated : moment.drill.supervisor.terminated = true ↔ .begun ∈ moment.log
  /-- The end has been decided before the first component is shut down, and for good. -/
  decided : ∀ before component after, moment.log = before ++ .stopped component :: after →
    .begun ∈ before
  lasting : ∀ later, moment.Leads later → moment.drill.supervisor.terminated = true →
    later.drill.supervisor.terminated = true
  tornDown : moment.drill.supervisor.tornDown = true ↔ .ended ∈ moment.log
  /-- That the teardown has ended is made known when all components have been shut down. -/
  signalled : ∀ before after, moment.log = before ++ .ended :: after →
    ∀ component ∈ registered before, ¬moment.Gone component → component ∈ stoppedOf before
  /-- The teardown begins once, when the end is asked for, and never on a warning. -/
  begun : ∀ before after, moment.log = before ++ .begun :: after →
    (.begun ∉ before ∧ .begun ∉ after) ∧
      ∃ earlier asked, before = earlier ++ [.asked asked] ∧ asked.Ends
  /-- Whatever there is to do comes to an end, and then its caller goes on. -/
  returns : ∀ duty rest, moment.agenda = duty :: rest →
    ∃ more, moment.Leads ⟨moment.drill.run [duty], rest, moment.log ++ more⟩
  /-- The log tells what can be seen. -/
  seen : moment.drill.remarks.filterMap Remark.shutDown? =
    (stoppedOf moment.log).map Component.name

variable {moment : Moment}

theorem Sound.terminated_iff (sound : moment.Sound) :
    moment.drill.supervisor.terminated = true ↔ .begun ∈ moment.log := by
  cases sound.stands with
  | running phase _ unbegun => simp [Supervisor.terminated, phase, unbegun]
  | tearingDown phase _ begun => simp [Supervisor.terminated, phase, begun]
  | done phase _ begun => simp [Supervisor.terminated, phase, begun]

theorem Sound.tornDown_iff (sound : moment.Sound) :
    moment.drill.supervisor.tornDown = true ↔ .ended ∈ moment.log := by
  cases sound.stands with
  | running phase _ _ unended => simp [Supervisor.tornDown, phase, unended]
  | tearingDown phase _ _ unended => simp [Supervisor.tornDown, phase, unended]
  | done phase _ _ ended => simp [Supervisor.tornDown, phase, ended]

theorem Sound.leads {later : Moment} (sound : moment.Sound) (leads : moment.Leads later) :
    later.Sound := by
  induction leads with
  | refl => exact sound
  | tail _ step ih => exact ih.step step

/-- Who had its turn and is still there has been shut down. -/
theorem Sound.stopped_of_turn (sound : moment.Sound) {past rest : List Occurrence}
    (split : moment.log = past ++ rest) {component : Component} (turn : component ∈ turns past)
    (here : ¬moment.Gone component) : component ∈ stoppedOf past := by
  rcases Occurrence.stopped_or_passed turn with stopped | passed
  · exact Occurrence.mem_stoppedOf.mpr stopped
  · exact absurd (sound.gone component (split ▸ List.mem_append_left _ passed)) here

/-- When there is nothing more to do after the end was asked for, the teardown has ended. -/
theorem Sound.ended (sound : moment.Sound) (idle : moment.agenda = [])
    {asked : Request Component} (listed : .asked asked ∈ moment.log) (ends : asked.Ends) :
    .ended ∈ moment.log ∧ (registered moment.log).Perm (turns moment.log) := by
  have accounted := sound.accounted
  unfold Accounted at accounted
  cases sound.stands with
  | running _ _ _ _ calm => exact absurd ends (calm asked listed)
  | tearingDown _ _ _ _ front back left next =>
    rw [idle] at next
    cases front <;> cases left <;> cases next
  | done _ parts _ ended =>
    rw [parts, idle] at accounted
    exact ⟨ended, by simpa using accounted⟩

/-- A component that is registered once has one turn, or waits for it once. -/
theorem Sound.nodup (sound : moment.Sound)
    (once : ((registered moment.log).map Component.identity).Nodup) :
    ((turns moment.log).map Component.identity ++
      (moment.drill.supervisor.parts ++ shutDowns moment.agenda).map Component.identity).Nodup := by
  rw [← List.map_append]
  exact (sound.accounted.map Component.identity).nodup_iff.mp once

/-- A component that is registered too late has its turn at once. -/
theorem Sound.prompt (sound : moment.Sound) {before after : List Occurrence}
    {component : Component} (split : moment.log = before ++ .asked (.register component) :: after)
    (torn : .begun ∈ before) :
    (∃ next rest, after = next :: rest ∧
      (next = .stopped component ∨ next = .passed component ∧ moment.Gone component)) ∨
      after = [] ∧ ∃ rest, moment.agenda = .shutDown component :: rest := by
  cases after with
  | nil => exact .inr ⟨rfl, sound.awaited before component split torn⟩
  | cons next rest =>
    have longer : moment.log = (before ++ [.asked (.register component)]) ++ next :: rest := by
      simpa using split
    have turn := (sound.lawfully.lawful longer).prompt before component rfl torn
    refine .inl ⟨next, rest, rfl, (Occurrence.eq_of_turn? turn).imp_right ?_⟩
    rintro rfl
    exact ⟨rfl, sound.gone component (by simp [split])⟩

/-- Of the components that were known when the teardown began, the first have had their turn, in
their order, and the others have not. -/
theorem Sound.taken (sound : moment.Sound)
    (once : ((registered moment.log).map Component.identity).Nodup)
    {before after : List Occurrence} (split : moment.log = before ++ .begun :: after) :
    ∃ taken left, registered before = taken ++ left ∧ taken.Sublist (turns moment.log) ∧
      ∀ component ∈ left, component.identity ∉ (turns moment.log).map Component.identity := by
  cases sound.stands with
  | running _ _ unbegun => exact absurd (by simp [split]) unbegun
  | tearingDown _ _ _ _ front back left next _ _ order =>
    obtain ⟨taken, known, sublist⟩ := order before after split
    refine ⟨taken, left, known, sublist, fun component listed turned => ?_⟩
    -- They are still on the agenda, and nobody is on it and has had a turn.
    have waits : component ∈ moment.drill.supervisor.parts ++ shutDowns moment.agenda := by
      refine List.mem_append_right _ (List.mem_filterMap.mpr ⟨.shutDown component, ?_, rfl⟩)
      simp [next, listed]
    exact List.disjoint_of_nodup_append (sound.nodup once) turned (List.mem_map_of_mem waits)
  | done _ _ _ ended =>
    obtain ⟨past, rest, finished⟩ := List.append_of_mem ended
    obtain ⟨begun, _, order⟩ := (sound.lawfully.lawful finished).ended rfl
    obtain ⟨first, later, started⟩ := List.append_of_mem begun
    have same : moment.log = first ++ .begun :: (later ++ .ended :: rest) := by
      rw [finished, started]
      simp
    obtain ⟨notFirst, notLater⟩ := sound.lawfully.begun_once same
    obtain ⟨rfl, _⟩ := (List.append_cons_inj_of_notMem notFirst notLater).mp (same.symm.trans split)
    refine ⟨registered first, [], (List.append_nil _).symm, ?_, nofun⟩
    refine (order first later started).trans ?_
    rw [finished, turns, turns, List.filterMap_append]
    exact List.sublist_append_left ..

theorem Sound.inOrder (sound : moment.Sound)
    (once : ((registered moment.log).map Component.identity).Nodup)
    {before after : List Occurrence} (split : moment.log = before ++ .begun :: after) :
    ((registered before).filter fun component =>
      component.identity ∈ (stoppedOf moment.log).map Component.identity).Sublist
        (stoppedOf moment.log) := by
  obtain ⟨taken, left, known, sublist, unturned⟩ := sound.taken once split
  have none : left.filter (fun component =>
      component.identity ∈ (stoppedOf moment.log).map Component.identity) = [] := by
    refine List.filter_eq_nil_iff.mpr fun component listed stopped => ?_
    have turned := (Occurrence.stoppedOf_sublist_turns moment.log).map Component.identity
    exact unturned component listed (turned.subset (of_decide_eq_true stopped))
  rw [known, List.filter_append, none, List.append_nil]
  refine (sublist.filter _).trans (Occurrence.filter_turns_sublist fun component passed => ?_)
  exact decide_eq_false (Occurrence.notMem_stoppedOf_of_passed (sound.nodup once).of_append_left passed)

/-- **Every component is shut down exactly once**, whatever is asked of the supervisor while
components are shut down. -/
theorem orderly (reachable : moment.Reachable)
    (once : ((registered moment.log).map Component.identity).Nodup) : moment.Orderly := by
  have sound := reachable.sound
  have stoppedOnce : ((stoppedOf moment.log).map Component.identity).Nodup :=
    (sound.nodup once).of_append_left.sublist
      ((Occurrence.stoppedOf_sublist_turns moment.log).map Component.identity)
  constructor
  case noneTwice => exact stoppedOnce
  case eachOnce =>
    rintro idle ⟨asked, listed, ends⟩
    obtain ⟨ended, perm⟩ := sound.ended idle listed ends
    refine ⟨ended, fun component known here => ?_⟩
    have stopped := sound.stopped_of_turn (List.append_nil _).symm (perm.subset known) here
    exact List.count_eq_one_of_mem stoppedOnce (List.mem_map_of_mem stopped)
  case prompt => exact fun _ _ _ => sound.prompt
  case inOrder => exact fun _ _ => sound.inOrder once
  case terminated => exact sound.terminated_iff
  case decided =>
    intro before component after split
    exact (sound.lawfully.lawful split).turn component rfl
  case lasting =>
    intro later leads terminated
    obtain ⟨more, grown⟩ := leads.log
    have begun := sound.terminated_iff.mp terminated
    exact (sound.leads leads).terminated_iff.mpr (grown ▸ List.mem_append_left _ begun)
  case tornDown => exact sound.tornDown_iff
  case signalled =>
    intro before after split component known here
    obtain ⟨_, perm, _⟩ := (sound.lawfully.lawful split).ended rfl
    exact sound.stopped_of_turn split (perm.subset known) here
  case begun =>
    intro before after split
    exact ⟨sound.lawfully.begun_once split, ((sound.lawfully.lawful split).begun rfl).2⟩
  case returns =>
    intro duty rest next
    obtain ⟨drill, agenda, log⟩ := moment
    obtain rfl : agenda = duty :: rest := next
    exact reaches_run drill [duty] rest log
  case seen => exact reachable.remarks

/-- The next thing that there is to do has been done. -/
def next (moment : Moment) : Moment :=
  match moment.agenda with
  | [] => moment
  | duty :: rest =>
    ⟨(moment.drill.perform duty).2, (moment.drill.perform duty).1 ++ rest,
      moment.log ++ moment.drill.occurrences duty⟩

theorem leads_next (moment : Moment) (steps : Nat) : moment.Leads (next^[steps] moment) := by
  induction steps generalizing moment with
  | zero => exact .refl
  | succ steps ih =>
    obtain ⟨drill, agenda, log⟩ := moment
    cases agenda with
    | nil => exact ih ⟨drill, [], log⟩
    | cons duty rest => exact .head (.work drill duty rest log) (ih _)

/-- A request from outside, and some of what follows from it. -/
def ask (moment : Moment) (asked : Request Component) (steps : Nat) : Moment :=
  next^[steps] { moment with agenda := [.request "" asked] }

theorem leads_ask {moment : Moment} (idle : moment.agenda = []) {asked : Request Component}
    (here : asked ≠ .fatalAside) (steps : Nat) : moment.Leads (moment.ask asked steps) := by
  obtain ⟨drill, agenda, log⟩ := moment
  obtain rfl : agenda = [] := idle
  exact .head (.ask drill log here) (leads_next _ steps)

/-- A component asks for the end again while it is shut down, and registers another one. -/
def reentrant : Component :=
  .mk 0 "first" [.terminate, .register (.mk 2 "late" [.fatal]), .warn, .fatal]

/-- A component that asks again and again, and one behind it. -/
theorem orderly_reentrant :
    let entered := start.ask (.register reentrant) 1
    let known := entered.ask (.register (.mk 1 "second" [])) 1
    let moment := known.ask .fatal 10
    moment.Orderly ∧ moment.agenda = [] ∧
      (stoppedOf moment.log).map Component.name = ["first", "late", "second"] := by
  intro entered known moment
  have here (component : Component) : Request.register component ≠ .fatalAside := nofun
  have first : start.Leads entered := leads_ask rfl (here reentrant) 1
  have second : entered.Leads known := leads_ask rfl (here (.mk 1 "second" [])) 1
  have fatal : (Request.fatal : Request Component) ≠ .fatalAside := nofun
  have third : known.Leads moment := leads_ask rfl fatal 10
  have reachable : moment.Reachable := (first.trans second).trans third
  have once : ((registered moment.log).map Component.identity).Nodup := by decide +kernel
  exact ⟨orderly reachable once, List.isEmpty_iff.mp (by decide +kernel), by decide +kernel⟩

end Moment

end Courier
