import Courier.Proofs.Supervisor.Moments
import Mathlib.Data.List.Nodup
import Mathlib.Data.List.Perm.Basic

/-!
# Where a supervisor stands

Two facts about a supervisor carry all others: each component that has been registered has had its
turn, or waits for it in the table of the supervisor or on the agenda (`Accounted`); and as long as
the teardown is under way, the agenda ends with the components that were known when it began, in
their order, and behind them its end (`Stands`).  A component whose script asks for anything puts
that in front of them.

From them follows what each occurrence says about those before it (`Occurrence.Lawful`).
-/

namespace Courier

set_option autoImplicit false

open Duty (shutDowns)
open Occurrence (registered turns)

/-! ## Laws of a log -/

/-- What is at a place of a list stands in what comes before something else. -/
theorem exists_split_of_notMem {α : Type} {items more before after : List α} {item : α}
    (absent : item ∉ more) (split : items ++ more = before ++ item :: after) :
    ∃ middle, items = before ++ item :: middle := by
  rcases List.append_eq_append_iff.mp split with ⟨middle, _, tail⟩ | ⟨middle, head, tail⟩
  · exact absurd (tail ▸ List.mem_append_right _ (List.mem_cons_self ..)) absent
  · cases middle with
    | nil => exact absurd (tail ▸ List.mem_cons_self .. : item ∈ [] ++ more) absent
    | cons first middle =>
      obtain ⟨rfl, _⟩ := List.cons.inj tail
      exact ⟨middle, head⟩

namespace Occurrence

/-- What holds of an occurrence in view of what has happened before. -/
structure Lawful (past : List Occurrence) (next : Occurrence) : Prop where
  /-- No component has its turn before the teardown begins. -/
  turn : ∀ component, next.turn? = some component → .begun ∈ past
  /-- A teardown begins once, and only when somebody asks for the end. -/
  begun : next = .begun → .begun ∉ past ∧
    ∃ earlier asked, past = earlier ++ [.asked asked] ∧ asked.Ends
  /-- It ends when all components have had their turn, those known before it began in order. -/
  ended : next = .ended → .begun ∈ past ∧ (registered past).Perm (turns past) ∧
    ∀ before after, past = before ++ .begun :: after →
      (registered before).Sublist (turns past)
  /-- A component that is registered too late has its turn at once. -/
  prompt : ∀ earlier component, past = earlier ++ [.asked (.register component)] →
    .begun ∈ earlier → next.turn? = some component

/-- What happens after a past is lawful. -/
def Lawfully : (past : List Occurrence) → List Occurrence → Prop
  | _, [] => True
  | past, next :: rest => next.Lawful past ∧ Lawfully (past ++ [next]) rest

theorem lawfully_append {past first second : List Occurrence} :
    Lawfully past (first ++ second) ↔ Lawfully past first ∧ Lawfully (past ++ first) second := by
  induction first generalizing past with
  | nil => simp [Lawfully]
  | cons next first ih => simp [Lawfully, ih, and_assoc]

theorem Lawfully.lawful {log before after : List Occurrence} {next : Occurrence}
    (lawfully : Lawfully [] log) (split : log = before ++ next :: after) : next.Lawful before := by
  rw [split, lawfully_append, List.nil_append] at lawfully
  exact lawfully.2.1

end Occurrence

/-! ## Accounts -/

/-- Each component that has been registered has had its turn, or waits for it. -/
def Accounted (supervisor : Supervisor Component) (agenda : List Duty) (log : List Occurrence) :
    Prop :=
  (registered log).Perm (turns log ++ (supervisor.parts ++ shutDowns agenda))

variable {supervisor after : Supervisor Component} {dropped : List Nat} {duty : Duty}
  {duties rest : List Duty} {log happened : List Occurrence}

theorem Accounted.deed (accounted : Accounted supervisor (duty :: rest) log)
    (deed : Drill.Deed supervisor dropped duty after duties happened) :
    Accounted after (duties ++ rest) (log ++ happened) := by
  unfold Accounted at accounted ⊢
  have enters (part : Component) : (registered log ++ [part]).Perm
      (turns log ++ (supervisor.parts ++ part :: shutDowns (duty :: rest))) := by
    refine (accounted.append_right [part]).trans ?_
    rw [List.append_assoc, List.append_assoc]
    exact ((List.perm_append_singleton part _).append_left _).append_left _
  have leaves {component : Component} (turn : shutDowns (duty :: rest) =
      component :: shutDowns rest) : (registered log).Perm
      ((turns log ++ [component]) ++ (supervisor.parts ++ shutDowns rest)) := by
    rw [turn] at accounted
    refine accounted.trans ?_
    rw [List.append_assoc]
    exact List.perm_middle.append_left _
  cases deed with
  | aside component quiet =>
    rcases quiet with rfl | rfl <;> simpa [List.filterMap_cons] using accounted
  | begin component ends phase =>
    rcases ends with rfl | rfl <;> simpa [List.filterMap_cons] using accounted
  | again component ends phase =>
    rcases ends with rfl | rfl <;> simpa [List.filterMap_cons] using accounted
  | enter component part phase => simpa [List.filterMap_cons] using enters part
  | late component part phase => simpa [List.filterMap_cons] using enters part
  | stop component script =>
    have none : shutDowns duties = [] := Duty.shutDowns_requests script
    simpa [none, List.filterMap_cons] using leaves rfl
  | pass gone => simpa [List.filterMap_cons] using leaves rfl
  | finish => simpa [List.filterMap_cons] using accounted

/-! ## Where a supervisor stands -/

/-- Where a supervisor stands, what has happened until then, and what is still to come. -/
inductive Stands (supervisor : Supervisor Component) (agenda : List Duty)
    (log : List Occurrence) : Prop where
  | running (phase : supervisor.phase = .running) (parts : supervisor.parts = registered log)
      (unbegun : .begun ∉ log) (unended : .ended ∉ log)
      (calm : ∀ asked, .asked asked ∈ log → ¬asked.Ends)
      (requests : ∀ duty ∈ agenda, duty.IsRequest)
  /-- Of the components that were known when the teardown began, those that are `left` have their
  turn next, but for what has to be done before. -/
  | tearingDown (phase : supervisor.phase = .tearingDown) (parts : supervisor.parts = [])
      (begun : .begun ∈ log) (unended : .ended ∉ log) (front back : List Duty)
      (left : List Component)
      (next : agenda = front ++ (left.map Duty.shutDown ++ .finish :: back))
      (unfinished : .finish ∉ front) (requests : ∀ duty ∈ back, duty.IsRequest)
      (order : ∀ before after, log = before ++ .begun :: after →
        ∃ taken, registered before = taken ++ left ∧ taken.Sublist (turns log))
  | done (phase : supervisor.phase = .done) (parts : supervisor.parts = []) (begun : .begun ∈ log)
      (ended : .ended ∈ log) (finished : .finish ∉ agenda)

theorem Stands.begun_of_ne (stands : Stands supervisor duties log)
    (phase : supervisor.phase ≠ .running) : .begun ∈ log := by
  cases stands with
  | running running => exact absurd running phase
  | tearingDown _ _ begun => exact begun
  | done _ _ begun => exact begun

theorem Stands.unbegun (stands : Stands supervisor duties log)
    (phase : supervisor.phase = .running) : .begun ∉ log := by
  cases stands with
  | running _ _ unbegun => exact unbegun
  | tearingDown torn => cases torn.symm.trans phase
  | done torn => cases torn.symm.trans phase

/-- Before the teardown nothing is shut down, and nothing ends. -/
theorem Stands.ne_running (stands : Stands supervisor (duty :: rest) log)
    (other : ¬duty.IsRequest) : supervisor.phase ≠ .running := by
  cases stands with
  | running _ _ _ _ _ requests => exact absurd (requests duty (List.mem_cons_self ..)) other
  | tearingDown phase => simp [phase]
  | done phase => simp [phase]

/-- Once the teardown has begun, nothing but its end concerns the supervisor. -/
theorem Drill.Deed.aloof (deed : Drill.Deed supervisor dropped duty after duties happened)
    (torn : supervisor.phase ≠ .running) (other : duty ≠ .finish) :
    after = supervisor ∧ .finish ∉ duties ∧ .begun ∉ happened ∧ .ended ∉ happened := by
  cases deed with
  | begin _ _ phase => exact absurd phase torn
  | enter _ _ phase => exact absurd phase torn
  | finish => exact absurd rfl other
  | stop component script =>
    exact ⟨rfl, Duty.finish_not_mem_requests script, by simp, by simp⟩
  | aside | again | late | pass => exact ⟨rfl, by simp, by simp, by simp⟩

theorem Drill.Deed.turns_eq {component : Component}
    (deed : Drill.Deed supervisor dropped (.shutDown component) after duties happened) :
    turns happened = [component] := by
  cases deed with
  | stop | pass => rfl

/-- Only who is gone is passed over. -/
theorem Drill.Deed.gone {component : Component}
    (deed : Drill.Deed supervisor dropped duty after duties happened)
    (passed : .passed component ∈ happened) : component.identity ∈ dropped := by
  cases deed with
  | @pass other gone =>
    obtain rfl : component = other := by simpa using passed
    exact gone
  | _ => simp at passed

theorem Stands.deed_running (phase : supervisor.phase = .running)
    (parts : supervisor.parts = registered log) (unbegun : .begun ∉ log) (unended : .ended ∉ log)
    (calm : ∀ asked, .asked asked ∈ log → ¬asked.Ends)
    (requests : ∀ other ∈ duty :: rest, other.IsRequest)
    (deed : Drill.Deed supervisor dropped duty after duties happened) :
    Stands after (duties ++ rest) (log ++ happened) := by
  have later : ∀ other ∈ rest, other.IsRequest := fun other listed =>
    requests other (List.mem_cons_of_mem _ listed)
  have first : duty.IsRequest := requests duty (List.mem_cons_self ..)
  have calmer {asked : Request Component} (quiet : ¬asked.Ends) :
      ∀ other, .asked other ∈ log ++ [.asked asked] → ¬other.Ends := by
    intro other listed
    rcases List.mem_append.mp listed with before | now
    · exact calm other before
    · obtain ⟨rfl⟩ : other = asked := by simpa using now
      exact quiet
  cases deed with
  | again _ _ torn => exact absurd phase torn
  | late _ _ torn => exact absurd phase torn
  | stop | pass | finish =>
    obtain ⟨_, _, same⟩ := first
    cases same
  | aside component quiet =>
    refine .running phase ?_ (by simpa using unbegun) (by simpa using unended) (calmer ?_) later
    · rcases quiet with rfl | rfl <;> simpa [List.filterMap_cons] using parts
    · rcases quiet with rfl | rfl <;> simp [Request.Ends]
  | enter component part _ =>
    refine .running phase ?_ (by simpa using unbegun) (by simpa using unended) (calmer ?_) later
    · simpa [List.filterMap_cons] using parts
    · simp [Request.Ends]
  | @begin component asked ends _ =>
    refine .tearingDown rfl rfl (by simp) (by simpa using unended) [] rest supervisor.parts
      (by simp) (by simp) later ?_
    intro before after split
    have absent : .begun ∉ log ++ [.asked asked] := by simpa using unbegun
    have split : (log ++ [.asked asked]) ++ .begun :: [] = before ++ .begun :: after := by
      simpa using split
    obtain ⟨rfl, _⟩ := (List.append_cons_inj_of_notMem absent List.not_mem_nil).mp split
    have known : registered (log ++ [.asked asked]) = supervisor.parts := by
      rcases ends with rfl | rfl <;> simpa [List.filterMap_cons] using parts.symm
    exact ⟨[], known, List.nil_sublist _⟩

theorem Stands.deed_tearingDown (phase : supervisor.phase = .tearingDown)
    (parts : supervisor.parts = []) (begun : .begun ∈ log) (unended : .ended ∉ log)
    {front back : List Duty} {left : List Component}
    (next : duty :: rest = front ++ (left.map Duty.shutDown ++ .finish :: back))
    (unfinished : .finish ∉ front) (requests : ∀ duty ∈ back, duty.IsRequest)
    (order : ∀ before after, log = before ++ .begun :: after →
      ∃ taken, registered before = taken ++ left ∧ taken.Sublist (turns log))
    (deed : Drill.Deed supervisor dropped duty after duties happened) :
    Stands after (duties ++ rest) (log ++ happened) := by
  have torn : supervisor.phase ≠ .running := by simp [phase]
  have begun' : .begun ∈ log ++ happened := List.mem_append_left _ begun
  have same : turns (log ++ happened) = turns log ++ turns happened := List.filterMap_append
  match front, left with
  | first :: front, left =>
    -- Something that has to be done before the next component has its turn.
    obtain ⟨rfl, rfl⟩ := List.cons.inj next
    have other : duty ≠ .finish := fun same => unfinished (same ▸ List.mem_cons_self ..)
    obtain ⟨rfl, unending, unbegun, unended'⟩ := deed.aloof torn other
    refine .tearingDown phase parts begun' (by simp [unended, unended']) (duties ++ front) back left
      (by simp) ?_ requests ?_
    · exact List.not_mem_append unending fun listed => unfinished (List.mem_cons_of_mem _ listed)
    · intro before after split
      obtain ⟨middle, split⟩ := exists_split_of_notMem unbegun split
      obtain ⟨taken, known, sublist⟩ := order before middle split
      exact ⟨taken, known, same ▸ sublist.trans (List.sublist_append_left ..)⟩
  | [], component :: left =>
    -- The turn of the next component that was known.
    obtain ⟨rfl, rfl⟩ := List.cons.inj next
    obtain ⟨rfl, unending, unbegun, unended'⟩ := deed.aloof torn nofun
    refine .tearingDown phase parts begun' (by simp [unended, unended']) duties back left rfl
      unending requests ?_
    intro before after split
    obtain ⟨middle, split⟩ := exists_split_of_notMem unbegun split
    obtain ⟨taken, known, sublist⟩ := order before middle split
    refine ⟨taken ++ [component], by simp [known], ?_⟩
    rw [same, deed.turns_eq]
    exact sublist.append (.refl _)
  | [], [] =>
    -- All have had their turn.
    obtain ⟨rfl, rfl⟩ := List.cons.inj next
    cases deed with
    | finish =>
      exact .done rfl parts begun' (by simp) (Duty.finish_not_mem_requests requests)

/-- What a supervisor does keeps it in order. -/
theorem Stands.deed (stands : Stands supervisor (duty :: rest) log)
    (deed : Drill.Deed supervisor dropped duty after duties happened) :
    Stands after (duties ++ rest) (log ++ happened) := by
  cases stands with
  | running phase parts unbegun unended calm requests =>
    exact deed_running phase parts unbegun unended calm requests deed
  | tearingDown phase parts begun unended _ _ _ next unfinished requests order =>
    exact deed_tearingDown phase parts begun unended next unfinished requests order deed
  | done phase parts begun ended finished =>
    have torn : supervisor.phase ≠ .running := by simp [phase]
    have other : duty ≠ .finish := fun same => finished (same ▸ List.mem_cons_self ..)
    obtain ⟨rfl, unending, _⟩ := deed.aloof torn other
    refine .done phase parts (List.mem_append_left _ begun) (List.mem_append_left _ ended) ?_
    exact List.not_mem_append unending fun listed => finished (List.mem_cons_of_mem _ listed)

/-- When the end of the teardown comes, everything else has come before. -/
theorem Stands.finish (stands : Stands supervisor (.finish :: rest) log) :
    supervisor.parts = [] ∧ shutDowns (.finish :: rest) = [] ∧ .begun ∈ log ∧
      ∀ before after, log = before ++ .begun :: after →
        (registered before).Sublist (turns log) := by
  cases stands with
  | running _ _ _ _ _ requests =>
    obtain ⟨_, _, same⟩ := requests .finish (List.mem_cons_self ..)
    cases same
  | done _ _ _ _ finished => exact absurd (List.mem_cons_self ..) finished
  | tearingDown _ parts begun _ front back left next unfinished requests order =>
    match front, left with
    | first :: front, left =>
      obtain ⟨rfl, _⟩ := List.cons.inj next
      exact absurd (List.mem_cons_self ..) unfinished
    | [], component :: left => cases (List.cons.inj next).1
    | [], [] =>
      obtain ⟨_, rfl⟩ := List.cons.inj next
      have none : shutDowns (.finish :: rest) = shutDowns rest := rfl
      refine ⟨parts, none.trans (Duty.shutDowns_requests requests), begun, ?_⟩
      intro before after split
      obtain ⟨taken, known, sublist⟩ := order before after split
      rw [known, List.append_nil]
      exact sublist

/-! ## What one thing adds to a log -/

/-- A component that has been registered too late has its turn next. -/
def Awaited (agenda : List Duty) (log : List Occurrence) : Prop :=
  ∀ earlier component, log = earlier ++ [.asked (.register component)] → .begun ∈ earlier →
    ∃ rest, agenda = .shutDown component :: rest

open Occurrence (Lawful Lawfully)

theorem Awaited.lawful_asked {component : String} {request asked : Request Component}
    (awaited : Awaited (.request component request :: rest) log) :
    (Occurrence.asked asked).Lawful log where
  turn _ := nofun
  begun := nofun
  ended := nofun
  prompt earlier part late begun := by
    obtain ⟨_, same⟩ := awaited earlier part late begun
    cases same

theorem Awaited.lawful_turn {component : Component} {next : Occurrence}
    (awaited : Awaited (.shutDown component :: rest) log) (begun : .begun ∈ log)
    (turn : next.turn? = some component) : next.Lawful log where
  turn _ _ := begun
  begun same := by
    subst same
    cases turn
  ended same := by
    subst same
    cases turn
  prompt earlier part late torn := by
    obtain ⟨_, same⟩ := awaited earlier part late torn
    cases same
    exact turn

theorem lawfully_deed (accounted : Accounted supervisor (duty :: rest) log)
    (stands : Stands supervisor (duty :: rest) log) (awaited : Awaited (duty :: rest) log)
    (deed : Drill.Deed supervisor dropped duty after duties happened) : Lawfully log happened := by
  cases deed with
  | aside | again | enter | late => exact ⟨awaited.lawful_asked, trivial⟩
  | @begin component asked ends phase =>
    have unbegun := stands.unbegun phase
    refine ⟨awaited.lawful_asked, ⟨fun _ => nofun, ?_, nofun, ?_⟩, trivial⟩
    · exact fun _ => ⟨by simpa using unbegun, log, asked, rfl, ends⟩
    · intro earlier part late _
      obtain ⟨_, same⟩ := List.append_inj' late rfl
      obtain rfl : asked = .register part := by simpa using same
      rcases ends with same | same <;> cases same
  | stop component script =>
    have begun := stands.begun_of_ne (stands.ne_running nofun)
    exact ⟨awaited.lawful_turn begun rfl, trivial⟩
  | pass gone =>
    have begun := stands.begun_of_ne (stands.ne_running nofun)
    exact ⟨awaited.lawful_turn begun rfl, trivial⟩
  | finish =>
    obtain ⟨parts, none, begun, order⟩ := stands.finish
    refine ⟨⟨fun _ => nofun, nofun, fun _ => ⟨begun, ?_, order⟩, ?_⟩, trivial⟩
    · unfold Accounted at accounted
      rwa [parts, none, List.append_nil, List.append_nil] at accounted
    · intro earlier part late torn
      obtain ⟨_, same⟩ := awaited earlier part late torn
      cases same

theorem awaited_deed (stands : Stands supervisor (duty :: rest) log)
    (deed : Drill.Deed supervisor dropped duty after duties happened) :
    Awaited (duties ++ rest) (log ++ happened) := by
  intro earlier part late torn
  cases deed with
  | late component other phase =>
    obtain ⟨_, same⟩ := List.append_inj' late rfl
    obtain rfl : other = part := by simpa using same
    exact ⟨rest, rfl⟩
  | enter component other phase =>
    obtain ⟨rfl, _⟩ := List.append_inj' late rfl
    exact absurd torn (stands.unbegun phase)
  | aside component quiet =>
    obtain ⟨_, same⟩ := List.append_inj' late rfl
    rcases quiet with rfl | rfl <;> cases same
  | again component ends phase =>
    obtain ⟨_, same⟩ := List.append_inj' late rfl
    rcases ends with rfl | rfl <;> cases same
  | @begin component asked ends phase =>
    have late : (log ++ [.asked asked]) ++ [.begun] = earlier ++ [.asked (.register part)] := by
      simpa using late
    obtain ⟨_, same⟩ := List.append_inj' late rfl
    cases same
  | stop | pass | finish =>
    obtain ⟨_, same⟩ := List.append_inj' late rfl
    cases same

end Courier
