import Courier.Proofs.Link.ReadLoop

/-!
# Two loops and one sink

The read loop and the write loop of a stream share its sink and nothing else, so what the sink is
told is some interleaving of what each of them says (`StreamLoops.run`).  The read loop tells what
its reads say whatever the write loop does.  The write loop tells at most one thing, that a call was
refused, and it does not stop the read loop.

So the end is told once, and nothing after it, just if the word of the write loop, where there is
one, is the last one, and the read loop has told no end before (`StreamLoops.run_told`).
-/

namespace Courier

set_option autoImplicit false

/-! ## The write loop -/

namespace WriteLoop

/-- The answer to a call says that it failed, for this reason: a write that takes no byte is refused
too. -/
def Refuses (answer : Except String Nat) (reason : String) : Prop :=
  answer = .error reason ∨ answer = .ok 0 ∧ reason = wroteNothing

theorem taking_takeUp (loop : WriteLoop) : loop.takeUp.taking = loop.taking := by
  unfold takeUp
  split <;> rfl

theorem stageOf_ne_stopped (bytes : Bytes) : stageOf bytes ≠ .stopped := by
  cases bytes <;> exact WriteStage.noConfusion

/-- A loop that has stopped calls nothing. -/
theorem call?_of_stopped {loop : WriteLoop} (stopped : loop.stage = .stopped) :
    loop.call? = none := by
  have same : loop.takeUp = loop := by
    simp [takeUp, stopped]
  simp [call?, same, stopped]

/-- A loop with a call goes on after the answer, or it tells why the call was refused and stops. -/
theorem step_of_call {loop : WriteLoop} (taking : loop.taking = true)
    (calls : loop.call?.isSome) (answer : Except String Nat) :
    (loop.step answer).2.taking = true ∧
      ((loop.step answer).1 = [] ∧ (loop.step answer).2.stage ≠ .stopped ∧
          (∃ count, answer = .ok count) ∨
        ∃ reason, (loop.step answer).1 = [.ended (some (.broken reason))] ∧
          (loop.step answer).2.stage = .stopped ∧ Refuses answer reason) := by
  have kept := loop.taking_takeUp.trans taking
  unfold call? at calls
  cases stage : loop.takeUp.stage with
  | resting => simp [stage, taking] at calls
  | stopped => simp [stage] at calls
  | flushing =>
    cases answer with
    | error reason =>
      have failed : loop.step (.error reason) = loop.takeUp.failed reason := by
        simp only [step, stage]
      rw [failed]
      exact ⟨kept, .inr ⟨reason, rfl, rfl, .inl rfl⟩⟩
    | ok count =>
      have flushed : loop.step (.ok count) = ([], { loop.takeUp with stage := .resting }) := by
        simp only [step, stage]
      rw [flushed]
      exact ⟨kept, .inl ⟨rfl, WriteStage.noConfusion, count, rfl⟩⟩
  | writing rest =>
    cases answer with
    | error reason =>
      have failed : loop.step (.error reason) = loop.takeUp.failed reason := by
        simp only [step, stage]
      rw [failed]
      exact ⟨kept, .inr ⟨reason, rfl, rfl, .inl rfl⟩⟩
    | ok count =>
      have wrote : loop.step (.ok count) =
          if count = 0 then loop.takeUp.failed wroteNothing
          else ([], { loop.takeUp with stage := stageOf (rest.drop count) }) := by
        simp only [step, stage]
      rw [wrote]
      split
      · rename_i zero
        exact ⟨kept, .inr ⟨wroteNothing, rfl, rfl, .inr ⟨congrArg _ zero, rfl⟩⟩⟩
      · exact ⟨kept, .inl ⟨rfl, stageOf_ne_stopped _, count, rfl⟩⟩

/-- Queuing a buffer does not change where the loop stands. -/
theorem push_ok {loop after : WriteLoop} {buffer : Bytes} (queued : loop.push buffer = .ok after) :
    after.taking = loop.taking ∧ after.stage = loop.stage := by
  unfold push at queued
  split at queued
  · cases queued
  · split at queued
    · cases queued
    · cases queued
      exact ⟨rfl, rfl⟩

end WriteLoop

/-! ## What the sink is told -/

/-- What the sink of a stream is told, on the left by the read loop, on the right by the write
loop. -/
abbrev SinkLog := List (StreamEvent ⊕ StreamEvent)

namespace SinkLog

def ofReads (log : SinkLog) : List StreamEvent := log.filterMap Sum.getLeft?

def ofWrites (log : SinkLog) : List StreamEvent := log.filterMap Sum.getRight?

/-- The sink is not told which loop it is. -/
def heard (log : SinkLog) : List StreamEvent := log.map (Sum.elim id id)

@[simp] theorem ofReads_nil : ofReads [] = [] := rfl

@[simp] theorem ofReads_inl (event : StreamEvent) (log : SinkLog) :
    ofReads (.inl event :: log) = event :: log.ofReads := rfl

@[simp] theorem ofWrites_nil : ofWrites [] = [] := rfl

@[simp] theorem ofWrites_inl (event : StreamEvent) (log : SinkLog) :
    ofWrites (.inl event :: log) = log.ofWrites := rfl

@[simp] theorem ofWrites_inr (event : StreamEvent) (log : SinkLog) :
    ofWrites (.inr event :: log) = event :: log.ofWrites := rfl

@[simp] theorem ofReads_append (log later : SinkLog) :
    ofReads (log ++ later) = log.ofReads ++ later.ofReads := List.filterMap_append

@[simp] theorem ofWrites_append (log later : SinkLog) :
    ofWrites (log ++ later) = log.ofWrites ++ later.ofWrites := List.filterMap_append

@[simp] theorem heard_append (log later : SinkLog) :
    heard (log ++ later) = log.heard ++ later.heard := List.map_append

@[simp] theorem ofReads_map_inr (events : List StreamEvent) :
    ofReads (events.map .inr) = [] := by
  simp [ofReads]

theorem mem_ofReads {log : SinkLog} {event : StreamEvent} :
    event ∈ log.ofReads ↔ .inl event ∈ log := by
  simp [ofReads]

theorem mem_ofWrites {log : SinkLog} {event : StreamEvent} :
    event ∈ log.ofWrites ↔ .inr event ∈ log := by
  simp [ofWrites]

theorem heard_of_ofWrites_nil {log : SinkLog} (silent : log.ofWrites = []) :
    log.heard = log.ofReads := by
  induction log with
  | nil => rfl
  | cons told log ih =>
    cases told with
    | inl event => exact congrArg (event :: ·) (ih silent)
    | inr event => cases silent

/-- Where the read loop tells no end twice and the write loop at most one thing, an end, the sink
hears nothing after an end just if the word of the write loop is the last one and no end is told
before. -/
theorem endsOnce_heard_iff {log : SinkLog} {further : List StreamEvent}
    (reads : EndsOnce (log.ofReads ++ further))
    (writes : log.ofWrites = [] ∨ ∃ cause, log.ofWrites = [.ended cause]) :
    EndsOnce log.heard ↔
      ∀ before event after, log = before ++ .inr event :: after →
        after = [] ∧ ∀ cause, .inl (.ended cause) ∉ before := by
  constructor
  · rintro once before event after rfl
    have listed : event ∈ ofWrites (before ++ .inr event :: after) :=
      mem_ofWrites.mpr (List.mem_append_right _ (List.mem_cons_self ..))
    obtain ⟨cause, rfl⟩ : ∃ cause, event = .ended cause := by
      rcases writes with none | ⟨cause, one⟩
      · rw [none] at listed
        cases listed
      · rw [one, List.mem_singleton] at listed
        exact ⟨cause, listed⟩
    rw [heard_append, EndsOnce, List.pairwise_append] at once
    obtain ⟨-, later, earlier⟩ := once
    constructor
    · cases after with
      | nil => rfl
      | cons told after =>
        exact absurd rfl ((List.pairwise_cons.mp later).1 _ (List.mem_cons_self ..) cause)
    · intro cause' told
      exact earlier _ (List.mem_map_of_mem told) _ (List.mem_cons_self ..) cause' rfl
  · intro last
    rcases writes with none | ⟨cause, one⟩
    · rw [heard_of_ofWrites_nil none]
      exact (List.pairwise_append.mp reads).1
    · have listed : .inr (.ended cause) ∈ log := mem_ofWrites.mp (one ▸ List.mem_singleton_self _)
      obtain ⟨before, after, rfl⟩ := List.append_of_mem listed
      obtain ⟨rfl, unended⟩ := last before _ after rfl
      rw [ofWrites_append] at one
      have silent : ofWrites before = [] := List.append_left_eq_self.mp one
      rw [heard_append, heard_of_ofWrites_nil silent, EndsOnce, List.pairwise_append]
      rw [ofReads_append, List.append_assoc] at reads
      refine ⟨(List.pairwise_append.mp reads).1, List.pairwise_singleton .., ?_⟩
      rintro event told _ - cause rfl
      exact unended cause (mem_ofReads.mp told)

end SinkLog

/-! ## Both loops -/

/-- The loops of a bound stream, with what their calls are answered with; behind these answers there
are none. -/
structure StreamLoops where
  reading : ReadLoop
  /-- What the read loop has still to tell of its last read. -/
  telling : List StreamEvent
  reads : List (Except String Bytes)
  writing : WriteLoop
  answers : List (Except String Nat)

/-- Who moves next.  A loop may be stopped anywhere between two calls. -/
inductive LoopTurn where
  /-- A buffer is queued for the write loop. -/
  | queue (buffer : Bytes)
  | reading
  | writing

namespace StreamLoops

def new (framing : Framing) (reads : List (Except String Bytes))
    (answers : List (Except String Nat)) : StreamLoops :=
  ⟨.new framing, [], reads, .new framing, answers⟩

/-- What the sink is told in a turn, and the loops after it.  The read loop reads on when it has told
everything, and a loop that has stopped, or whose call has no answer, stays where it is. -/
def step (loops : StreamLoops) : LoopTurn → SinkLog × StreamLoops
  | .queue buffer =>
    match loops.writing.push buffer with
    | .ok writing => ([], { loops with writing })
    | .error _ => ([], loops)
  | .reading =>
    match loops.telling, loops.reading, loops.reads with
    | event :: telling, _, _ => ([.inl event], { loops with telling })
    | [], .stopped, _ => ([], loops)
    | [], _, answer :: reads =>
      let (telling, reading) := loops.reading.step answer
      ([], { loops with telling, reading, reads })
    | [], _, [] => ([], loops)
  | .writing =>
    match loops.writing.call?, loops.answers with
    | some _, answer :: answers =>
      let (events, writing) := loops.writing.step answer
      (events.map .inr, { loops with writing, answers })
    | _, _ => ([], loops)

/-- What the sink is told in several turns, and the loops after them. -/
def run (loops : StreamLoops) : List LoopTurn → SinkLog × StreamLoops
  | [] => ([], loops)
  | turn :: turns =>
    ((loops.step turn).1 ++ ((loops.step turn).2.run turns).1, ((loops.step turn).2.run turns).2)

/-! ### What each loop has told -/

/-- What the read loop has told and has still to tell is what its reads so far say. -/
def ReadsTold (framing : Framing) (reads : List (Except String Bytes)) (log : SinkLog)
    (loops : StreamLoops) : Prop :=
  ∃ taken, reads = taken ++ loops.reads ∧
    (ReadLoop.new framing).run taken = (log.ofReads ++ loops.telling, loops.reading)

/-- The write loop has told nothing and no call was refused, or it has stopped at a refusal, which it
has told. -/
def WritesTold (answers : List (Except String Nat)) (log : SinkLog) (loops : StreamLoops) : Prop :=
  loops.writing.taking = true ∧ ∃ used, answers = used ++ loops.answers ∧
    (log.ofWrites = [] ∧ loops.writing.stage ≠ .stopped ∧
        (∀ answer ∈ used, ∃ count, answer = .ok count) ∨
      ∃ earlier answer reason, used = earlier ++ [answer] ∧ WriteLoop.Refuses answer reason ∧
        log.ofWrites = [.ended (some (.broken reason))] ∧ loops.writing.stage = .stopped)

section

variable {framing : Framing} {reads : List (Except String Bytes)}
  {answers : List (Except String Nat)} {log : SinkLog} {loops : StreamLoops}

theorem readsTold_new (framing : Framing) (reads : List (Except String Bytes))
    (answers : List (Except String Nat)) :
    ReadsTold framing reads [] (new framing reads answers) :=
  ⟨[], rfl, rfl⟩

theorem writesTold_new (framing : Framing) (reads : List (Except String Bytes))
    (answers : List (Except String Nat)) :
    WritesTold answers [] (new framing reads answers) :=
  ⟨rfl, [], rfl, .inl ⟨rfl, WriteStage.noConfusion, nofun⟩⟩

/-- The write loop does not touch what the read loop tells. -/
theorem ReadsTold.step (told : ReadsTold framing reads log loops) (turn : LoopTurn) :
    ReadsTold framing reads (log ++ (loops.step turn).1) (loops.step turn).2 := by
  obtain ⟨taken, split, ran⟩ := told
  cases turn with
  | queue buffer =>
    rw [StreamLoops.step]
    split <;> exact ⟨taken, split, by rw [List.append_nil]; exact ran⟩
  | writing =>
    rw [StreamLoops.step]
    split
    · exact ⟨taken, split, by simpa using ran⟩
    · exact ⟨taken, split, by simpa using ran⟩
  | reading =>
    rw [StreamLoops.step]
    split
    case h_1 event telling _ more =>
      refine ⟨taken, split, ?_⟩
      rw [ran, more]
      simp
    case h_2 => exact ⟨taken, split, by simpa using ran⟩
    case h_3 _ answer later none more _ =>
      refine ⟨taken ++ [answer], by simp [split, more], ?_⟩
      rw [ReadLoop.run_concat, ran, none]
      simp
    case h_4 => exact ⟨taken, split, by simpa using ran⟩

/-- The read loop does not touch what the write loop tells. -/
theorem WritesTold.step (told : WritesTold answers log loops) (turn : LoopTurn) :
    WritesTold answers (log ++ (loops.step turn).1) (loops.step turn).2 := by
  obtain ⟨taking, used, split, stands⟩ := told
  cases turn with
  | queue buffer =>
    rw [StreamLoops.step]
    split
    · rename_i queued
      obtain ⟨open_, stage⟩ := WriteLoop.push_ok queued
      exact ⟨open_.trans taking, used, split, by simpa [stage] using stands⟩
    · exact ⟨taking, used, split, by simpa using stands⟩
  | reading =>
    rw [StreamLoops.step]
    split <;> exact ⟨taking, used, split, by simpa using stands⟩
  | writing =>
    rw [StreamLoops.step]
    split
    case h_1 call answer later called more =>
      rcases stands with ⟨silent, -, fine⟩ | ⟨-, -, -, -, -, -, stopped⟩
      · obtain ⟨open_, goes⟩ := WriteLoop.step_of_call taking (by simp [called]) answer
        refine ⟨open_, used ++ [answer], by simp [split, more], ?_⟩
        rcases goes with ⟨events, runs, count, rfl⟩ | ⟨reason, events, stopped, refuses⟩
        · refine .inl ⟨by simp [events, silent], runs, ?_⟩
          rintro other listed
          rcases List.mem_append.mp listed with earlier | last
          · exact fine other earlier
          · exact ⟨count, List.mem_singleton.mp last⟩
        · exact .inr ⟨used, answer, reason, rfl, refuses, by simp [events, silent], stopped⟩
      · rw [WriteLoop.call?_of_stopped stopped] at called
        cases called
    case h_2 => exact ⟨taking, used, split, by simpa using stands⟩

theorem ReadsTold.run (told : ReadsTold framing reads log loops) (turns : List LoopTurn) :
    ReadsTold framing reads (log ++ (loops.run turns).1) (loops.run turns).2 := by
  induction turns generalizing log loops with
  | nil => simpa [StreamLoops.run] using told
  | cons turn turns ih =>
    rw [StreamLoops.run, ← List.append_assoc]
    exact ih (told.step turn)

theorem WritesTold.run (told : WritesTold answers log loops) (turns : List LoopTurn) :
    WritesTold answers (log ++ (loops.run turns).1) (loops.run turns).2 := by
  induction turns generalizing log loops with
  | nil => simpa [StreamLoops.run] using told
  | cons turn turns ih =>
    rw [StreamLoops.run, ← List.append_assoc]
    exact ih (told.step turn)

end

/-! ### What the sink hears -/

/-- **The sink hears from the read loop what the reads say, and from the write loop at most that a
call was refused, however the two take turns.**  Without a refusal it hears the read loop alone,
which tells of an end before it stops and of nothing after one.  With a refusal the sink hears nothing
after an end just if the refusal is the last thing that it hears and the read loop has told no end
before. -/
theorem run_told (framing : Framing) (reads : List (Except String Bytes))
    (answers : List (Except String Nat)) (turns : List LoopTurn) :
    let log := ((new framing reads answers).run turns).1
    let loops := ((new framing reads answers).run turns).2
    (∃ taken, reads = taken ++ loops.reads ∧
      ReadLoop.Says framing taken (log.ofReads ++ loops.telling)) ∧
    (loops.reading = .stopped → ∃ cause, .ended cause ∈ log.ofReads ++ loops.telling) ∧
    (∃ used, answers = used ++ loops.answers ∧
      (log.ofWrites = [] ∧ (∀ answer ∈ used, ∃ count, answer = .ok count) ∨
        ∃ earlier answer reason, used = earlier ++ [answer] ∧ WriteLoop.Refuses answer reason ∧
          log.ofWrites = [.ended (some (.broken reason))])) ∧
    (log.ofWrites = [] → log.heard = log.ofReads ∧ EndsOnce log.heard) ∧
    (EndsOnce log.heard ↔
      ∀ before event after, log = before ++ .inr event :: after →
        after = [] ∧ ∀ cause, .inl (.ended cause) ∉ before) := by
  intro log loops
  obtain ⟨taken, read, ran⟩ := (readsTold_new framing reads answers).run turns
  obtain ⟨-, used, written, stands⟩ := (writesTold_new framing reads answers).run turns
  rw [List.nil_append] at ran stands
  have said : ReadLoop.Says framing taken (log.ofReads ++ loops.telling) := by
    have said := ReadLoop.says_run framing taken
    rwa [ran] at said
  have writes : log.ofWrites = [] ∨ ∃ cause, log.ofWrites = [.ended cause] := by
    rcases stands with ⟨silent, -, -⟩ | ⟨-, -, reason, -, -, told, -⟩
    · exact .inl silent
    · exact .inr ⟨_, told⟩
  refine ⟨⟨taken, read, said⟩, ?_, ⟨used, written, ?_⟩, ?_, ?_⟩
  · intro stopped
    have stops : ((ReadLoop.new framing).run taken).2 = .stopped := by rw [ran, stopped]
    have ended := ReadLoop.ended_of_run (ReadLoop.new_ne_stopped framing) stops
    rwa [ran] at ended
  · rcases stands with ⟨silent, -, fine⟩ | ⟨earlier, answer, reason, last, refuses, told, -⟩
    · exact .inl ⟨silent, fine⟩
    · exact .inr ⟨earlier, answer, reason, last, refuses, told⟩
  · intro silent
    have heard := SinkLog.heard_of_ofWrites_nil silent
    exact ⟨heard, heard ▸ (List.pairwise_append.mp said.endsOnce).1⟩
  · exact SinkLog.endsOnce_heard_iff said.endsOnce writes

/-- A write is refused, and then a byte and the end are read: the sink hears of an end, of the byte
and of an end again. -/
theorem heard_after_refusal :
    let log := ((new none [.ok [1], .ok []] [.error "write refused"]).run
      [.queue [0], .writing, .reading, .reading, .reading, .reading]).1
    log.heard = [.ended (some (.broken "write refused")), .bytes [1], .ended none] ∧
      ¬ EndsOnce log.heard := by
  intro log
  have heard : log.heard =
      [.ended (some (.broken "write refused")), .bytes [1], .ended none] := rfl
  refine ⟨heard, ?_⟩
  intro once
  rw [heard, EndsOnce, List.pairwise_cons] at once
  exact once.1 _ (List.mem_cons_self ..) _ rfl

end StreamLoops

end Courier
