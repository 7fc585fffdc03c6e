import Courier.Proofs.Rpc.Correlation
import Courier.Proofs.Rpc.Messages
import Mathlib.Data.List.Permutation

/-!
# Returns and the calls they answer

A return says which call it answers, and what the result is.  The result is a document of any
kind, and much may keep it from becoming a value: it may be no value at all, or a stage of the
chain may refuse it.  The call is answered nevertheless (`ChannelMessage.decode_returning`).
The receiver accepts the message, and who waits for the call is told the value, or why there is
none; nobody else is told anything (`Speaker.hear_returning`).

This holds for returns whose numbers are floats and whose texts are Unicode, and for no others
(`Speaker.hear_inexpressible`).  The result is put aside as a document of its own before the
call is known, and a number beyond all floats or a text with half of a surrogate pair is no such
document: the message is refused as a whole, and the call stays pending
(`Speaker.hear_outOfRange`, `Speaker.hear_unpaired`).
-/

namespace Courier

set_option autoImplicit false

open Json (Draft)

/-! ## Documents that can be looked at -/

namespace Json.Draft

/-- The text is JSON with at most `depth` arrays and objects inside one another, whatever numbers
and texts there are. -/
def formed (depth : Nat) : Draft → Bool
  | array items =>
    match depth with
    | 0 => false
    | depth + 1 => items.all (formed depth)
  | object members =>
    match depth with
    | 0 => false
    | depth + 1 => members.all fun member => formed depth member.2
  | broken => false
  | _ => true

/-- Every number is in the range of floats, and every text is Unicode. -/
inductive Expressible : Draft → Prop where
  | null : Expressible null
  | bool (value : Bool) : Expressible (bool value)
  | number {numeral : Numeral} (inRange : numeral.inRange = true) : Expressible (number numeral)
  | string (text : String) : Expressible (string (some text))
  | array {items : List Draft} (each : ∀ item ∈ items, Expressible item) :
      Expressible (array items)
  | object {members : List (Option String × Draft)}
      (keys : ∀ member ∈ members, member.1.isSome = true)
      (each : ∀ member ∈ members, Expressible member.2) : Expressible (object members)

/-- A document can be looked at everywhere if it has the form of JSON and all that stands in it can
be expressed. -/
theorem sound_of_formed {depth : Nat} {draft : Draft} (formed : draft.formed depth = true)
    (expressible : draft.Expressible) : draft.sound depth = true := by
  induction depth generalizing draft with
  | zero =>
    cases expressible with
    | null | bool | string => rfl
    | number inRange => exact inRange
    | array | object => cases formed
  | succ depth ih =>
    cases expressible with
    | null | bool | string => rfl
    | number inRange => exact inRange
    | array each =>
      refine List.all_eq_true.mpr fun item listed => ?_
      exact ih (List.all_eq_true.mp formed item listed) (each item listed)
    | object keys each =>
      refine List.all_eq_true.mpr fun member listed => ?_
      rw [keys member listed, ih (List.all_eq_true.mp formed member listed) (each member listed)]
      rfl

/-- What can be looked at everywhere can be expressed. -/
theorem expressible_of_sound {depth : Nat} {draft : Draft} (sound : draft.sound depth = true) :
    draft.Expressible := by
  induction depth using Nat.strongRecOn generalizing draft with
  | ind depth ih =>
    unfold Draft.sound at sound
    cases draft with
    | null => exact .null
    | bool value => exact .bool value
    | number numeral => exact .number sound
    | string text =>
      obtain ⟨text, rfl⟩ := Option.isSome_iff_exists.mp sound
      exact .string text
    | array items =>
      cases depth with
      | zero => cases sound
      | succ depth =>
        exact .array fun item listed =>
          ih depth (Nat.lt_succ_self depth) (List.all_eq_true.mp sound item listed)
    | object members =>
      cases depth with
      | zero => cases sound
      | succ depth =>
        have each (member : Option String × Draft) (listed : member ∈ members) :=
          Bool.and_eq_true_iff.mp (List.all_eq_true.mp sound member listed)
        exact .object (fun member listed => (each member listed).1)
          fun member listed => ih depth (Nat.lt_succ_self depth) (each member listed).2
    | broken => cases sound

theorem wholeItems_iff {items : List Draft} :
    wholeItems items = true ↔ ∀ item ∈ items, item.whole = true := by
  induction items with
  | nil => simp [wholeItems]
  | cons item items ih => simp [wholeItems, ih]

theorem wholeMembers_iff {members : List (Option String × Draft)} :
    wholeMembers members = true ↔ ∀ member ∈ members, member.2.whole = true := by
  induction members with
  | nil => simp [wholeMembers]
  | cons member members ih =>
    obtain ⟨key, value⟩ := member
    simp [wholeMembers, ih]

theorem whole_of_sound {depth : Nat} {draft : Draft} (sound : draft.sound depth = true) :
    draft.whole = true := by
  induction depth generalizing draft with
  | zero =>
    cases draft with
    | array | object | broken => cases sound
    | null | bool | number | string => rfl
  | succ depth ih =>
    cases draft with
    | broken => cases sound
    | null | bool | number | string => rfl
    | array items =>
      exact wholeItems_iff.mpr fun item listed => ih (List.all_eq_true.mp sound item listed)
    | object members =>
      refine wholeMembers_iff.mpr fun member listed => ih ?_
      exact (Bool.and_eq_true_iff.mp (List.all_eq_true.mp sound member listed)).2

/-! ## Members that are looked at -/

variable {σ : Type} {names : List String} {step : σ → String → Draft → Except DecodeError σ}

/-- Members that are no fields of a record make no difference, as long as they can be read. -/
theorem foldMembers_filter {members : List (Option String × Draft)}
    (keys : ∀ member ∈ members, member.1.isSome = true)
    (whole : ∀ member ∈ members, member.2.whole = true) (seen : List String) (state : σ) :
    foldMembers names step seen state members = foldMembers names step seen state
      (members.filter fun member => member.1.any fun key => key ∈ names) := by
  induction members generalizing seen state with
  | nil => rfl
  | cons member members ih =>
    have rest := ih (fun other listed => keys other (List.mem_cons_of_mem _ listed))
      (fun other listed => whole other (List.mem_cons_of_mem _ listed))
    obtain ⟨_ | key, value⟩ := member
    · cases keys _ (List.mem_cons_self ..)
    · have readable : value.whole = true := whole _ (List.mem_cons_self ..)
      by_cases named : key ∈ names
      · rw [List.filter_cons_of_pos (by simpa using named)]
        simp only [foldMembers, if_pos named, rest]
      · rw [List.filter_cons_of_neg (by simpa using named)]
        simp only [foldMembers, if_neg named, if_pos readable, rest]

end Json.Draft

theorem perm_pair {α : Type} {first second : α} {items : List α}
    (perm : items.Perm [first, second]) : items = [first, second] ∨ items = [second, first] := by
  simpa [List.permutations'] using List.mem_permutations'.mpr perm

/-! ## Returns with a result -/

namespace WireMessage

/-- A return with a result: its type, the id of its call and the result, in an object whose other
members have other names, in any order, or in an array. -/
inductive Returning (id : UInt64) (document : Draft) : Draft → Prop where
  | object {members others : List (Option String × Draft)} {number : Draft}
      (named : number.word = .ok id)
      (spelled : members.Perm ((some "type", .string (some "return")) ::
        (some "call_id", number) ::
        (some "outcome", .object [(some "ok", document)]) :: others))
      (strange : ∀ member ∈ others,
        member.1 ≠ some "type" ∧ member.1 ≠ some "call_id" ∧ member.1 ≠ some "outcome") :
      Returning id document (.object members)
  | array {number : Draft} (named : number.word = .ok id) :
      Returning id document
        (.array [.string (some "return"), number, .object [(some "ok", document)]])

variable {id : UInt64} {document draft : Draft}

/-- A return is read from its fields in any order. -/
theorem returnOfDraft_fields {number : Draft} (named : number.word = .ok id)
    {fields : List (Option String × Draft)}
    (either :
      fields = [(some "call_id", number), (some "outcome", .object [(some "ok", document)])] ∨
      fields = [(some "outcome", .object [(some "ok", document)]), (some "call_id", number)]) :
    returnOfDraft (.object fields) = .ok (.result id document) := by
  rcases either with rfl | rfl <;>
    simp [returnOfDraft, Draft.foldRecord, Draft.foldMembers, outcomeOfDraft, named, bind,
      Except.bind, pure, Except.pure]

theorem returnOfDraft_object {number : Draft} (named : number.word = .ok id)
    {members others : List (Option String × Draft)}
    (spelled : members.Perm ((some "call_id", number) ::
      (some "outcome", .object [(some "ok", document)]) :: others))
    (strange : ∀ member ∈ others, member.1 ≠ some "call_id" ∧ member.1 ≠ some "outcome")
    (keys : ∀ member ∈ members, member.1.isSome = true)
    (whole : ∀ member ∈ members, member.2.whole = true) :
    returnOfDraft (.object members) = .ok (.result id document) := by
  let isField (member : Option String × Draft) : Bool :=
    member.1.any fun key => key ∈ ["call_id", "outcome"]
  have passed : others.filter isField = [] := by
    refine List.filter_eq_nil_iff.mpr fun member listed => ?_
    obtain ⟨notCallId, notOutcome⟩ := strange member listed
    obtain ⟨_ | key, value⟩ := member
    · exact Bool.false_ne_true
    · simp only [ne_eq, Option.some.injEq] at notCallId notOutcome
      simp [isField, notCallId, notOutcome]
  have fields : (members.filter isField).Perm
      [(some "call_id", number), (some "outcome", .object [(some "ok", document)])] := by
    have kept := spelled.filter isField
    rwa [List.filter_cons_of_pos rfl, List.filter_cons_of_pos rfl, passed] at kept
  have aside : returnOfDraft (.object members) =
      returnOfDraft (.object (members.filter isField)) := by
    simp only [returnOfDraft, Draft.foldRecord]
    rw [Draft.foldMembers_filter keys whole]
  rw [aside]
  exact returnOfDraft_fields named (perm_pair fields)

/-- A return is read, whatever its result is. -/
theorem ofDraft_returning (returning : Returning id document draft)
    (sound : draft.sound nestingLimit = true) : ofDraft draft = .ok (.result id document) := by
  cases returning with
  | array named =>
    unfold ofDraft
    rw [if_pos sound]
    simp [Draft.text, ofFields, returnOfDraft, Draft.foldRecord, Draft.foldItems, outcomeOfDraft,
      named, bind, Except.bind, pure, Except.pure]
  | @object members others number named spelled strange =>
    have notType (member : Option String × Draft) (listed : member ∈ others) :
        member.1 ≠ some "type" := (strange member listed).1
    have types : typesOf members = [.string (some "return")] := by
      have kept := spelled.filter fun member => member.1 = some "type"
      have none : others.filter (fun member => member.1 = some "type") = [] :=
        List.filter_eq_nil_iff.mpr fun member listed => by simpa using notType member listed
      rw [List.filter_cons_of_pos rfl, List.filter_cons_of_neg (by simp),
        List.filter_cons_of_neg (by simp), none, List.perm_singleton] at kept
      rw [typesOf, kept]
      rfl
    have fields : (members.filter fun member => member.1 ≠ some "type").Perm
        ((some "call_id", number) :: (some "outcome", .object [(some "ok", document)]) ::
          others) := by
      have kept := spelled.filter fun member => member.1 ≠ some "type"
      have all : others.filter (fun member => member.1 ≠ some "type") = others :=
        List.filter_eq_self.mpr fun member listed => by simpa using notType member listed
      rwa [List.filter_cons_of_neg (by simp), List.filter_cons_of_pos rfl,
        List.filter_cons_of_pos rfl, all] at kept
    have each (member : Option String × Draft)
        (listed : member ∈ members.filter fun member => member.1 ≠ some "type") :
        member.1.isSome = true ∧ member.2.whole = true := by
      have readable := List.all_eq_true.mp sound member (List.mem_filter.mp listed).1
      obtain ⟨key, value⟩ := Bool.and_eq_true_iff.mp readable
      exact ⟨key, Draft.whole_of_sound value⟩
    have read := returnOfDraft_object named fields (fun member listed => (strange member listed).2)
      (fun member listed => (each member listed).1) (fun member listed => (each member listed).2)
    unfold ofDraft
    rw [if_pos sound]
    simp only [types]
    exact read

theorem decode_returning {bytes : Bytes} (spelled : Json.read bytes = (draft, true))
    (returning : Returning id document draft) (sound : draft.sound nestingLimit = true) :
    decode bytes = .ok (.result id document) := by
  unfold decode
  rw [spelled]
  simp only [ofDraft_returning returning sound]
  rfl

/-- What cannot be looked at everywhere is no message. -/
theorem decode_unsound {bytes : Bytes} (spelled : Json.read bytes = (draft, true))
    (unsound : draft.sound nestingLimit = false) : decode bytes = .error .malformed := by
  unfold decode ofDraft
  rw [spelled]
  simp only [unsound]
  rfl

end WireMessage

/-! ## What is made of a return -/

namespace ChannelMessage

variable {σ : Type} {id : UInt64} {document draft : Draft} {bytes : Bytes}

/-- The message that a return is read as. -/
def ofResult (id : UInt64) : Except MarshalError Value → ChannelMessage
  | .ok value => reply id (.ok value)
  | .error fault => unreadable id fault.message

/-- A return is read as a message about its call, with the value of the result or without it. -/
theorem decode_returning (spelled : Json.read bytes = (draft, true))
    (returning : WireMessage.Returning id document draft)
    (sound : draft.sound nestingLimit = true) (chain : MarshalChain σ) (state : σ) :
    (decode chain bytes).run state =
      (.ok (ofResult id ((resultValue chain document).run state).1),
        ((resultValue chain document).run state).2) := by
  unfold decode
  rw [WireMessage.decode_returning spelled returning sound]
  simp only [ofWire, Marshal.run_tryCatch, Marshal.run_bind]
  rcases (resultValue chain document).run state with ⟨fault | value, after⟩ <;> rfl

end ChannelMessage

namespace Speaker

variable {τ : Type} {id : UInt64} {document draft : Draft} {bytes : Bytes}

/-- A message has been accepted that answers a call: who waits for it is told a result, and that is
all there is to it. -/
structure Answered (speaker : Speaker τ) (id : UInt64) (result : CallResult)
    (after : Speaker τ) : Prop where
  accepted : after.verdict = some .accepted
  /-- The call that is pending under the id is pending no more, and every other is as it was. -/
  calls : after.desk.channel.calls = { speaker.desk.channel.calls with
    pending := speaker.desk.channel.calls.pending.filter fun call => call.id ≠ id }
  /-- Who waits for the call is told its result, once. -/
  told : ∀ call, speaker.desk.channel.calls.pending? id = some call →
    after.completed = speaker.completed ++ [(call.caller, result)]
  /-- If there is no such call, nobody is told anything. -/
  untold : speaker.desk.channel.calls.pending? id = none →
    after.desk.channel.calls = speaker.desk.channel.calls ∧ after.completed = speaker.completed
  jobs : after.jobs = speaker.jobs
  dispatches : after.dispatches = speaker.dispatches
  started : after.started = speaker.started

/-- What a caller is told of a result. -/
def resultOf (result : Except MarshalError Value) : CallResult :=
  result.mapError fun fault => .transport (.marshal fault.message)

/-- A result that is received completes the call, as a value or as the lack of one. -/
theorem receive_ofResult (channel : Channel) (id : UInt64) (result : Except MarshalError Value) :
    channel.receive (.ofResult id result) = channel.completeCall id fun _ => resultOf result := by
  cases result <;> rfl

theorem answered_receive (speaker : Speaker τ) (id : UInt64) (result : Except MarshalError Value)
    {desk : Desk τ} (calls : desk.channel.calls = speaker.desk.channel.calls) :
    speaker.Answered id (resultOf result)
      ({ speaker with desk, verdict := some .accepted }.change
        (desk.channel.receive (.ofResult id result))) := by
  have effects : desk.channel.receive (.ofResult id result) =
      ({ desk.channel with calls := (speaker.desk.channel.calls.finish id).2 },
        ((speaker.desk.channel.calls.pending? id).map fun call =>
          (call.caller, resultOf result)).toList.map fun entry =>
            ChannelEffect.complete entry.1 entry.2) := by
    rw [receive_ofResult]
    unfold Channel.completeCall
    rw [calls, CallTable.finish]
    cases speaker.desk.channel.calls.pending? id <;> rfl
  rw [effects, change_complete]
  constructor
  case told =>
    intro call waiting
    simp only [waiting, Option.map_some, Option.toList_some]
  case untold =>
    intro absent
    refine ⟨?_, ?_⟩
    · have others : speaker.desk.channel.calls.pending.filter (fun call => call.id ≠ id) =
          speaker.desk.channel.calls.pending := by
        refine List.filter_eq_self.mpr fun call listed => ?_
        simpa using List.find?_eq_none.mp absent call listed
      simp only [CallTable.finish, others]
    · simp only [absent, Option.map_none, Option.toList_none, List.append_nil]
  all_goals rfl

/-- **A result always resolves its call.**  Whatever the result of a return is, and whatever the
stages of the chain make of it, the return is read as a message about its call; the receiver accepts
it, and the call, if it is pending, is completed with the value or with the reason why there is
none. -/
theorem hear_returning (speaker : Speaker τ) (spelled : Json.read bytes = (draft, true))
    (returning : WireMessage.Returning id document draft)
    (formed : draft.formed nestingLimit = true) (expressible : draft.Expressible) :
    (∀ (σ : Type) (chain : MarshalChain σ) (state : σ),
      (ChannelMessage.decode chain bytes).run state =
        (.ok (.ofResult id ((ChannelMessage.resultValue chain document).run state).1),
          ((ChannelMessage.resultValue chain document).run state).2)) ∧
      speaker.Answered id
        (resultOf ((ChannelMessage.resultValue (Desk.chain speaker.further) document).run
          speaker.desk).1)
        (speaker.hear bytes) := by
  have sound := Draft.sound_of_formed formed expressible
  have decoded {σ : Type} (chain : MarshalChain σ) (state : σ) :=
    ChannelMessage.decode_returning spelled returning sound chain state
  refine ⟨fun _ => decoded, ?_⟩
  have kept := (Desk.keeps_chain speaker.further).decode bytes speaker.desk
  unfold hear
  rw [decoded] at kept ⊢
  exact speaker.answered_receive id _ (congrArg Prod.fst kept)

/-- A text that cannot be looked at everywhere is refused, and nothing else happens. -/
theorem hear_unsound (speaker : Speaker τ) (spelled : Json.read bytes = (draft, true))
    (unsound : draft.sound nestingLimit = false) :
    speaker.hear bytes = { speaker with
      verdict := some (.refused DecodeError.malformed.toMarshalError.message) } := by
  unfold hear ChannelMessage.decode
  rw [WireMessage.decode_unsound spelled unsound]
  rfl

/-- A return in which something cannot be expressed is refused, and the call stays as it is. -/
theorem hear_inexpressible (speaker : Speaker τ) (spelled : Json.read bytes = (draft, true))
    (inexpressible : ¬ draft.Expressible) :
    speaker.hear bytes = { speaker with
      verdict := some (.refused DecodeError.malformed.toMarshalError.message) } :=
  speaker.hear_unsound spelled
    (eq_false_of_ne_true fun sound => inexpressible (Draft.expressible_of_sound sound))

/-- A channel with one call that waits for its result. -/
def awaiting : Speaker Unit :=
  let speaker := new (.new 0 (fun _ => 0) (.empty .byName)) () []
  { speaker with desk.channel.calls := ⟨5, [⟨4, ⟨⟨"Meter", "read", []⟩, []⟩, "main", 7⟩]⟩ }

/-- The result is a number, which is no value. -/
theorem hear_returning_awaiting :
    let bytes := (ChannelMessage.returnJson 4 ("ok", .int 17)).render
    (awaiting.hear bytes).verdict = some .accepted ∧
      (awaiting.hear bytes).desk.channel.calls.pending = [] ∧
      ∃ reason, (awaiting.hear bytes).completed =
        [(7, .error (.transport (.marshal reason)))] := by
  intro bytes
  have spelled : Json.read bytes = ((ChannelMessage.returnJson 4 ("ok", .int 17)).draft, true) :=
    Json.read_render _ ⟨trivial, trivial, ⟨trivial, trivial⟩, trivial⟩
  have returning : WireMessage.Returning 4 (Json.int 17).draft
      (ChannelMessage.returnJson 4 ("ok", .int 17)).draft :=
    .object (Draft.word_ofInt 4) (.refl _) nofun
  have small (number : Nat) (bound : number < 2 ^ 64) : (Json.int number).draft.Expressible :=
    .number (Json.Numeral.inRange_ofInt (by simpa using bound))
  have outcome : (Json.object [("ok", .int 17)]).draft.Expressible :=
    .object (by simp [Json.draftMembers]) (by simpa [Json.draftMembers] using small 17 (by decide))
  have expressible : (ChannelMessage.returnJson 4 ("ok", .int 17)).draft.Expressible :=
    .object (by simp [Json.draftMembers]) (by
      simpa [Json.draftMembers] using ⟨.string "return", small 4 (by decide), outcome⟩)
  obtain ⟨_, answered⟩ := awaiting.hear_returning spelled returning rfl expressible
  refine ⟨answered.accepted, congrArg CallTable.pending answered.calls, ?_⟩
  exact ⟨_, answered.told _ rfl⟩

/-- A number beyond all floats keeps a return from being read at all, whoever waits for it. -/
theorem hear_outOfRange :
    let bytes := Bytes.ofText
      ("\x7b\"type\":\"return\",\"call_id\":4,\"outcome\":" ++
        "\x7b\"ok\":\x7b\"t\":\"float\",\"v\":1e400\x7d\x7d\x7d")
    ∃ draft document, Json.read bytes = (draft, true) ∧
      WireMessage.Returning 4 document draft ∧ draft.formed nestingLimit = true ∧
      awaiting.desk.channel.calls.pending? 4 ≠ none ∧
      (awaiting.hear bytes).verdict = some (.refused "decode failed: malformed document") ∧
      (awaiting.hear bytes).desk.channel.calls = awaiting.desk.channel.calls ∧
      (awaiting.hear bytes).completed = [] := by
  intro bytes
  let document : Draft := .object [(some "t", .string (some "float")),
    (some "v", .number ⟨false, [0x31], none, some 400⟩)]
  let draft : Draft := .object [(some "type", .string (some "return")),
    (some "call_id", .number (.ofInt 4)), (some "outcome", .object [(some "ok", document)])]
  have spelled : Json.read bytes = (draft, true) := rfl
  have unsound : draft.sound nestingLimit = false := by decide +kernel
  have refused := awaiting.hear_unsound spelled unsound
  refine ⟨draft, document, spelled, .object (Draft.word_ofInt 4) (.refl _) nofun, rfl, ?_, ?_⟩
  · exact Option.some_ne_none _
  · rw [refused]
    exact ⟨rfl, rfl, rfl⟩

set_option maxRecDepth 2000 in
/-- Neither is a return read with half of a surrogate pair in it. -/
theorem hear_unpaired :
    let bytes := Bytes.ofText
      ("\x7b\"type\":\"return\",\"call_id\":4,\"outcome\":" ++
        "\x7b\"ok\":\x7b\"t\":\"str\",\"v\":\"\\ud800\"\x7d\x7d\x7d")
    ∃ draft document, Json.read bytes = (draft, true) ∧
      WireMessage.Returning 4 document draft ∧ draft.formed nestingLimit = true ∧
      awaiting.desk.channel.calls.pending? 4 ≠ none ∧
      (awaiting.hear bytes).verdict = some (.refused "decode failed: malformed document") ∧
      (awaiting.hear bytes).desk.channel.calls = awaiting.desk.channel.calls ∧
      (awaiting.hear bytes).completed = [] := by
  intro bytes
  let document : Draft := .object [(some "t", .string (some "str")), (some "v", .string none)]
  let draft : Draft := .object [(some "type", .string (some "return")),
    (some "call_id", .number (.ofInt 4)), (some "outcome", .object [(some "ok", document)])]
  have spelled : Json.read bytes = (draft, true) := rfl
  have unsound : draft.sound nestingLimit = false := by decide +kernel
  have refused := awaiting.hear_unsound spelled unsound
  refine ⟨draft, document, spelled, .object (Draft.word_ofInt 4) (.refl _) nofun, rfl, ?_, ?_⟩
  · exact Option.some_ne_none _
  · rw [refused]
    exact ⟨rfl, rfl, rfl⟩

end Speaker

end Courier
