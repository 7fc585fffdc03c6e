import Courier.Proofs.Rpc.Hosting

/-!
# What was noted was so when it was noted

A journal keeps the desks at which messages were marshaled and shown to the channel, and at which
objects were looked up.  Each of them is a desk that the side had at some time on the way to where
the two hosts are now (`Hosting.Had`): a step notes no other desk than the one that the side has
just then (`Hosting.Step.notes`).  And a call that is noted to have ended has ended as the object
that was found ends it, whose handlers end as they may (`Run.EndsIn`).
-/

namespace Courier

set_option autoImplicit false

variable {τ η : Type}

/-! ## How calls end -/

/-- How a call of an object may end, given how handlers may end on their arguments. -/
inductive ServiceObject.Ends (service : ServiceObject η) (handlers : η → Arguments → Ending → Prop)
    (signature : Signature) (values : List Value) : Ending → Prop
  /-- No handler is run. -/
  | refused (error : RemoteError) (refused : service.dispatch signature values = .error error) :
      Ends service handlers signature values (.failure error)
  /-- The handler is run that the object has for the signature. -/
  | handled (handler : η) (arguments : Arguments) (ending : Ending)
      (dispatched : service.dispatch signature values = .ok (handler, arguments))
      (ends : handlers handler arguments ending) : Ends service handlers signature values ending

theorem ServiceObject.ends_call {service : ServiceObject η}
    {handlers : η → Arguments → Ending → Prop} {signature : Signature} {values : List Value}
    {ending : Ending}
    (handled : ∀ handler arguments, service.dispatch signature values = .ok (handler, arguments) →
      handlers handler arguments ending) :
    service.Ends handlers signature values
      (service.call (fun _ _ _ => (ending, ())) signature values ()).1 := by
  unfold call
  cases dispatched : service.dispatch signature values with
  | error error => exact .refused error dispatched
  | ok found => exact .handled found.1 found.2 ending dispatched (handled _ _ dispatched)

/-- A run has ended in this way: as the object ends the call that the channel has found under the
id, or in none, if it has found none. -/
structure Run.EndsIn (run : Run τ) (objects : Nat → ServiceObject η)
    (handlers : η → Arguments → Ending → Prop) (ending : Option Ending) : Prop where
  found : ∀ found, run.desk.channel.lookup? run.request.instanceId = some found →
    ∃ how, ending = some how ∧
      (objects found.identity).Ends handlers run.request.signature run.request.arguments how
  missing : run.desk.channel.lookup? run.request.instanceId = none → ending = none

theorem Run.endsIn_ending? {run : Run τ} {objects : Nat → ServiceObject η}
    {handlers : η → Arguments → Ending → Prop} {ending : Ending}
    (handled : ∀ found handler arguments,
      run.desk.channel.lookup? run.request.instanceId = some found →
        (objects found.identity).dispatch run.request.signature run.request.arguments =
          .ok (handler, arguments) → handlers handler arguments ending) :
    run.EndsIn objects handlers (run.ending? objects ending) where
  found found named := by
    refine ⟨_, by rw [ending?, named]; rfl, ServiceObject.ends_call fun handler arguments => ?_⟩
    exact handled found handler arguments named
  missing none := by rw [ending?, none]; rfl

/-! ## What is noted in a step -/

/-- What has been noted while a side had this desk. -/
structure Journal.Adds (journal after : Journal τ) (objects : Nat → ServiceObject η)
    (handlers : η → Arguments → Ending → Prop) (desk : Desk τ) : Prop where
  /-- A call has been entered in the table before it is marshaled. -/
  orders : ∀ order ∈ after.orders, order ∈ journal.orders ∨
    ∃ calls, order.desk = { desk with channel := { desk.channel with calls } }
  replies : ∀ reply ∈ after.replies, reply ∈ journal.replies ∨ reply.desk = desk
  heard : ∀ entry ∈ after.heard, entry ∈ journal.heard ∨ entry.2 = desk
  runs : ∀ run ∈ after.runs, run ∈ journal.runs ∨ run.desk = desk
  endings : ∀ entry ∈ after.endings, entry ∈ journal.endings ∨
    entry.1.EndsIn objects handlers entry.2

section Adds

variable {journal between after : Journal τ} {objects : Nat → ServiceObject η}
  {handlers : η → Arguments → Ending → Prop} {desk : Desk τ}

theorem Journal.Adds.refl (journal : Journal τ) : journal.Adds journal objects handlers desk :=
  ⟨fun _ => .inl, fun _ => .inl, fun _ => .inl, fun _ => .inl, fun _ => .inl⟩

theorem Journal.Adds.trans (first : journal.Adds between objects handlers desk)
    (second : between.Adds after objects handlers desk) :
    journal.Adds after objects handlers desk where
  orders order listed := (second.orders order listed).elim (first.orders order) .inr
  replies reply listed := (second.replies reply listed).elim (first.replies reply) .inr
  heard entry listed := (second.heard entry listed).elim (first.heard entry) .inr
  runs run listed := (second.runs run listed).elim (first.runs run) .inr
  endings entry listed := (second.endings entry listed).elim (first.endings entry) .inr

/-- What holds of the last item holds of each that was not there before. -/
theorem new_of_mem_concat {α : Type} {items : List α} {item : α} {new : α → Prop}
    (fresh : new item) : ∀ other ∈ items ++ [item], other ∈ items ∨ new other := by
  intro other listed
  rcases List.mem_append.mp listed with earlier | last
  · exact .inl earlier
  · exact .inr (List.mem_singleton.mp last ▸ fresh)

theorem Journal.adds_order (journal : Journal τ) (order : Order τ)
    (marshaled : ∃ calls, order.desk = { desk with channel := { desk.channel with calls } }) :
    journal.Adds { journal with orders := journal.orders ++ [order] } objects handlers desk :=
  { Journal.Adds.refl journal with orders := new_of_mem_concat marshaled }

theorem Journal.adds_reply (journal : Journal τ) (reply : Reply τ) (marshaled : reply.desk = desk) :
    journal.Adds { journal with replies := journal.replies ++ [reply] } objects handlers desk :=
  { Journal.Adds.refl journal with replies := new_of_mem_concat marshaled }

theorem Journal.adds_heard (journal : Journal τ) (number : Ticket) (posts : List (Post τ)) :
    journal.Adds { journal with heard := journal.heard ++ [(number, desk)], posts }
      objects handlers desk :=
  { Journal.Adds.refl journal with
    heard := new_of_mem_concat (by rfl : (number, desk).2 = desk) }

theorem Journal.adds_run (journal : Journal τ) (run : Run τ) (posts : List (Post τ))
    (found : run.desk = desk) :
    journal.Adds { journal with posts, runs := journal.runs ++ [run] } objects handlers desk :=
  { Journal.Adds.refl journal with runs := new_of_mem_concat found }

theorem Journal.adds_ending (journal : Journal τ) (run : Run τ) (ending : Option Ending)
    (posts : List (Post τ)) (ends : run.EndsIn objects handlers ending) :
    journal.Adds { journal with posts, endings := journal.endings ++ [(run, ending)] }
      objects handlers desk where
  orders _ := .inl
  replies _ := .inl
  heard _ := .inl
  runs _ := .inl
  endings := new_of_mem_concat ends

end Adds

namespace Hosting

variable {objects : Side → Nat → ServiceObject η} {handlers : Side → η → Arguments → Ending → Prop}
  {hosting after : Hosting τ} {side : Side} {opening : Opening τ} {desk : Desk τ}

/-- What has been noted in a step, at the desks that the sides had before it. -/
def Notes (objects : Side → Nat → ServiceObject η)
    (handlers : Side → η → Arguments → Ending → Prop) (hosting after : Hosting τ) : Prop :=
  ∀ side, (hosting.journal side).Adds (after.journal side) (objects side) (handlers side)
    (hosting.dialogue.speaker side).desk

theorem Notes.of_journal (same : after.journal = hosting.journal) :
    Notes objects handlers hosting after := fun side => by
  rw [same]
  exact .refl _

/-- A side notes something, and what it does beside is not noted. -/
theorem Notes.note {between : Hosting τ} (same : between.journal = hosting.journal)
    {entry : Journal τ → Journal τ}
    (own : (hosting.journal side).Adds (entry (hosting.journal side)) (objects side)
      (handlers side) (hosting.dialogue.speaker side).desk) :
    Notes objects handlers hosting (between.note side entry) := by
  intro subject
  rcases side.eq_or_eq_other subject with rfl | rfl
  · rw [journal_note_self, same]
    exact own
  · rw [journal_note_other, same]
    exact .refl _

theorem notes_start (hosting : Hosting τ) (side : Side) (instanceId : String) (method : Method)
    (values : List Value) (callSite : String) :
    Notes objects handlers hosting (hosting.start side instanceId method values callSite) := by
  unfold start
  simp only
  split
  · refine .note (by rfl) ?_
    exact Journal.adds_order _ _ ⟨_, rfl⟩
  · rename_i id channel started
    refine .note (by rfl) ?_
    refine Journal.adds_order _ _ ?_
    unfold Channel.startCall at started
    split at started
    · cases started
    · obtain ⟨rfl, rfl⟩ := Prod.mk.inj (Option.some.inj started)
      exact ⟨_, rfl⟩

theorem notes_answer (hosting : Hosting τ) (side : Side) (id : UInt64)
    (outcome : Except RemoteError Value) :
    Notes objects handlers hosting (hosting.answer side id outcome) := by
  unfold answer
  simp only
  split
  · exact .of_journal rfl
  · refine .note (by rfl) ?_
    exact Journal.adds_reply _ _ rfl

theorem notes_take (hosting : Hosting τ) (side : Side) :
    Notes objects handlers hosting (hosting.take side) := by
  unfold take
  simp only
  split
  · exact .of_journal rfl
  · refine .note (by rfl) ?_
    exact Journal.adds_heard _ _ _

theorem notes_run (hosting : Hosting τ) (side : Side) (place : Nat) :
    Notes objects handlers hosting (hosting.run side place) := by
  unfold run
  simp only
  split
  · refine .note (by rfl) ?_
    exact Journal.adds_run _ _ _ rfl
  · exact .of_journal rfl

/-- The desks of the sides have stayed as they were in the meantime. -/
theorem Notes.trans {between : Hosting τ} (first : Notes objects handlers hosting between)
    (desks : ∀ side, (between.dialogue.speaker side).desk = (hosting.dialogue.speaker side).desk)
    (second : Notes objects handlers between after) : Notes objects handlers hosting after :=
  fun side => (first side).trans (desks side ▸ second side)

theorem desk_setSpeaker (dialogue : Dialogue τ) (side : Side) {speaker : Speaker τ}
    (same : speaker.desk = (dialogue.speaker side).desk) (subject : Side) :
    ((dialogue.setSpeaker side speaker).speaker subject).desk =
      (dialogue.speaker subject).desk := by
  rcases side.eq_or_eq_other subject with rfl | rfl
  · rw [Dialogue.speaker_setSpeaker_self, same]
  · rw [Dialogue.speaker_setSpeaker_other]

theorem notes_finish (hosting : Hosting τ) (side : Side) (place : Nat) (ending : Ending)
    (handled : ∀ run found handler arguments, hosting.running? side place = some run →
      run.desk.channel.lookup? run.request.instanceId = some found →
        (objects side found.identity).dispatch run.request.signature run.request.arguments =
          .ok (handler, arguments) → handlers side handler arguments ending) :
    Notes objects handlers hosting (hosting.finish (objects side) side place ending) := by
  unfold finish
  split
  · exact .of_journal rfl
  · rename_i run running
    have ended : run.EndsIn (objects side) (handlers side) (run.ending? (objects side) ending) :=
      Run.endsIn_ending? fun found handler arguments => handled run found handler arguments running
    have finished : Notes objects handlers hosting ((hosting.setDialogue
        (hosting.dialogue.setSpeaker side
          ((hosting.dialogue.speaker side).finish place))).note side fun journal =>
          { journal with
            posts := journal.posts.eraseIdx place
            endings := journal.endings ++ [(run, run.ending? (objects side) ending)] }) := by
      refine .note (by rfl) ?_
      exact Journal.adds_ending _ _ _ _ ended
    exact finished.trans (desk_setSpeaker hosting.dialogue side rfl) (notes_answer _ side _ _)

theorem notes_follow (hosting : Hosting τ) (side : Side) (aftermath : Channel.Aftermath) :
    Notes objects handlers hosting (hosting.follow side aftermath) := by
  cases aftermath with
  | replace id reason => exact hosting.notes_answer side id _
  | nothing | fail | giveUp => exact .of_journal rfl

theorem notes_settle (hosting : Hosting τ) (side : Side) (place : Nat) :
    Notes objects handlers hosting (hosting.settle side place) := by
  unfold settle
  simp only
  split
  · exact .of_journal rfl
  · split
    · exact .of_journal rfl
    · have dismissed : Notes objects handlers hosting (hosting.setDialogue
          (hosting.dialogue.setSpeaker side ((hosting.dialogue.speaker side).dismiss place))) :=
        .of_journal rfl
      exact dismissed.trans (desk_setSpeaker hosting.dialogue side rfl) (notes_follow _ side _)

/-- A step notes nothing but what a side does at the desk that it has. -/
theorem Step.notes (step : Step objects handlers hosting after) :
    Notes objects handlers hosting after := by
  cases step with
  | take side => exact hosting.notes_take side
  | start side instanceId method values callSite =>
    exact hosting.notes_start side instanceId method values callSite
  | run side place => exact hosting.notes_run side place
  | finish side place ending handled => exact hosting.notes_finish side place ending handled
  | settle side place => exact hosting.notes_settle side place
  | transit | conclude | work | register => exact .of_journal rfl

/-! ## What is noted in a run -/

/-- A side had this desk, at some time on the way to where the hosts are. -/
def Had (objects : Side → Nat → ServiceObject η)
    (handlers : Side → η → Arguments → Ending → Prop) (opening : Opening τ) (hosting : Hosting τ)
    (side : Side) (desk : Desk τ) : Prop :=
  ∃ earlier, Reachable objects handlers opening earlier ∧
    Relation.ReflTransGen (Step objects handlers) earlier hosting ∧
      (earlier.dialogue.speaker side).desk = desk

theorem Had.step (had : Had objects handlers opening hosting side desk)
    (step : Step objects handlers hosting after) :
    Had objects handlers opening after side desk := by
  obtain ⟨earlier, reachable, later, same⟩ := had
  exact ⟨earlier, reachable, later.tail step, same⟩

/-- What a side has noted, it has noted as it was at the time. -/
structure Documented (objects : Side → Nat → ServiceObject η)
    (handlers : Side → η → Arguments → Ending → Prop) (opening : Opening τ) (hosting : Hosting τ)
    (side : Side) : Prop where
  orders : ∀ order ∈ (hosting.journal side).orders, ∃ desk calls,
    Had objects handlers opening hosting side desk ∧
      order.desk = { desk with channel := { desk.channel with calls } }
  replies : ∀ reply ∈ (hosting.journal side).replies,
    Had objects handlers opening hosting side reply.desk
  heard : ∀ entry ∈ (hosting.journal side).heard,
    Had objects handlers opening hosting side entry.2
  runs : ∀ run ∈ (hosting.journal side).runs, Had objects handlers opening hosting side run.desk
  endings : ∀ entry ∈ (hosting.journal side).endings,
    entry.1.EndsIn (objects side) (handlers side) entry.2

/-- **After any run what is noted has been so.** -/
theorem Reachable.documented (reachable : Reachable objects handlers opening hosting)
    (side : Side) : Documented objects handlers opening hosting side := by
  induction reachable with
  | refl =>
    exact ⟨List.forall_mem_nil _, List.forall_mem_nil _, List.forall_mem_nil _,
      List.forall_mem_nil _, List.forall_mem_nil _⟩
  | @tail before after reachable step ih =>
    have adds := step.notes side
    have now : ∀ {desk : Desk τ}, desk = (before.dialogue.speaker side).desk →
        Had objects handlers opening after side desk := fun same =>
      ⟨before, reachable, .single step, same.symm⟩
    constructor
    case orders =>
      intro order listed
      rcases adds.orders order listed with earlier | ⟨calls, same⟩
      · obtain ⟨desk, calls, had, same⟩ := ih.orders order earlier
        exact ⟨desk, calls, had.step step, same⟩
      · exact ⟨_, calls, now rfl, same⟩
    case replies =>
      exact fun reply listed =>
        (adds.replies reply listed).elim (fun earlier => (ih.replies reply earlier).step step) now
    case heard =>
      exact fun entry listed =>
        (adds.heard entry listed).elim (fun earlier => (ih.heard entry earlier).step step) now
    case runs =>
      exact fun run listed =>
        (adds.runs run listed).elim (fun earlier => (ih.runs run earlier).step step) now
    case endings =>
      exact fun entry listed => (adds.endings entry listed).elim (ih.endings entry) id

end Hosting

end Courier
