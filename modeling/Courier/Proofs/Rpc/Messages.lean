import Courier.Proofs.Json.Documents
import Courier.Proofs.Marshal.Keeping
import Courier.Rpc.Message
import Mathlib.Data.List.Basic

/-!
# What is read of a message that was written

A message of a channel that was written is read as a message of the same kind about the
same call, or it is not read at all.  That suffices for calls and results, whose values
may meet obstacles on the way that lie outside the library.  A return with an error has
no such values: it can always be written, and it is read as it was written.
-/

namespace Courier

set_option autoImplicit false

open Json (Draft)

/-- What a step that succeeds in the end has gone through. -/
theorem ok_of_bind {ε α β : Type} {first : Except ε α} {next : α → Except ε β} {result : β}
    (succeeded : first >>= next = .ok result) :
    ∃ value, first = .ok value ∧ next value = .ok result := by
  cases first with
  | error fault => cases succeeded
  | ok value => exact ⟨value, rfl, succeeded⟩

/-! ## The first members of an object -/

namespace Json

/-- The first two members of an object are read, whatever becomes of the others. -/
theorem read_two_members (first second third : String × Json) (others : List (String × Json))
    (firstLegible : first.2.Legible) (secondLegible : second.2.Legible) :
    ∃ more ends, Json.read (object (first :: second :: third :: others)).render =
      (.object ((some first.1, first.2.draft) :: (some second.1, second.2.draft) :: more),
        ends) := by
  have length := length_render_object (first :: second :: third :: others)
  rw [length_renderMembers, length_renderMembers] at length
  obtain ⟨fuel, enough, firstShort, secondShort⟩ : ∃ fuel,
      (object (first :: second :: third :: others)).render.length = fuel + 2 ∧
        first.2.render.length < fuel + 1 ∧ second.2.render.length < fuel :=
    ⟨_, length, by omega, by omega⟩
  -- Whatever is read behind the second comma.
  obtain ⟨more, left, others'⟩ : ∃ more left,
      readMembers fuel (renderMembers (third :: others) [0x7d]) = (more, left) := ⟨_, _, rfl⟩
  have secondRead : readMembers (fuel + 1) (renderMembers (second :: third :: others) [0x7d]) =
      ((some second.1, second.2.draft) :: more, left) :=
    readMembers_more
      (readValue_renderOnto second.2 fuel _ secondLegible (closes_comma _) secondShort)
      others'
  have firstRead : readMembers (fuel + 2)
      (renderMembers (first :: second :: third :: others) [0x7d]) =
      ((some first.1, first.2.draft) :: (some second.1, second.2.draft) :: more, left) :=
    readMembers_more
      (readValue_renderOnto first.2 (fuel + 1) _ firstLegible (closes_comma _) firstShort)
      secondRead
  have opens : Opens 0x22 := by decide
  obtain ⟨tail, front⟩ : ∃ tail,
      renderMembers (first :: second :: third :: others) [0x7d] = 0x22 :: tail := ⟨_, rfl⟩
  have read : readValue (fuel + 2 + 1) (object (first :: second :: third :: others)).render =
      (.object ((some first.1, first.2.draft) :: (some second.1, second.2.draft) :: more),
        left) := by
    rw [render, renderOnto, front, readValue_object opens, ← front, firstRead]
  rw [Json.read, enough, read]
  cases left with
  | none => exact ⟨more, false, rfl⟩
  | some rest => exact ⟨more, (skipBlank rest).isEmpty, rfl⟩

end Json

/-! ## Fields that are read once -/

namespace Json.Draft

variable {σ : Type}

/-- A field that has been read stays as it is: it cannot be read again. -/
theorem foldMembers_seen {names : List String}
    {step : σ → String → Draft → Except DecodeError σ} (kept : σ → Prop) {field : String}
    (others : ∀ state key value after, kept state → key ≠ field → key ∈ names →
      step state key value = .ok after → kept after)
    {members : List (Option String × Draft)} {seen : List String} {state result : σ}
    (known : field ∈ seen) (before : kept state)
    (folded : foldMembers names step seen state members = .ok result) : kept result := by
  induction members generalizing seen state with
  | nil =>
    obtain rfl := Except.ok.inj folded
    exact before
  | cons member members ih =>
    obtain ⟨_ | key, value⟩ := member
    · cases folded
    · simp only [foldMembers] at folded
      split at folded
      · rename_i named
        split at folded
        · cases folded
        · rename_i unseen
          cases stepped : step state key value with
          | error fault =>
            rw [stepped] at folded
            cases folded
          | ok after =>
            rw [stepped] at folded
            have other : key ≠ field := fun same => unseen (same ▸ known)
            exact ih (List.mem_cons_of_mem _ known) (others state key value after before other named
              stepped) folded
      · split at folded
        · exact ih known before folded
        · cases folded

/-- The call id of a message is a number of 64 bits. -/
theorem word_ofInt (id : UInt64) : (Draft.number (.ofInt id.toNat)).word = .ok id := by
  have bound := id.toNat_lt_size
  have small : (0 : Int) ≤ (id.toNat : Int) ∧ (id.toNat : Int) < (UInt64.size : Int) := by omega
  have modulo : (id.toNat : Int) % UInt64.size = id.toNat := Int.emod_eq_of_lt small.1 small.2
  have same : UInt64.ofInt (id.toNat : Int) = id := by
    have whole : UInt64.ofInt (id.toNat : Int) =
        UInt64.ofNat ((id.toNat : Int) % UInt64.size).toNat := rfl
    rw [whole, modulo, Int.toNat_natCast, UInt64.ofNat_toNat]
  simp only [word, Numeral.toInt?_ofInt, small, and_self, if_true, same]

end Json.Draft

/-! ## The call id of what is read -/

namespace WireMessage

/-- Of a message that begins with its type, the type says how the other members are read. -/
theorem ofFields_of_ofDraft {type : String} {second : Option String × Draft}
    {more : List (Option String × Draft)} {message : WireMessage} (other : second.1 ≠ some "type")
    (read :
      ofDraft (.object ((some "type", .string (some type)) :: second :: more)) = .ok message) :
    ∃ fields, ofFields type (.object (second :: fields)) = .ok message := by
  unfold ofDraft at read
  split at read
  · have types : typesOf ((some "type", .string (some type)) :: second :: more) =
        .string (some type) :: typesOf more := by
      simp [typesOf, other]
    simp only [types] at read
    cases rest : typesOf more with
    | nil =>
      rw [rest] at read
      refine ⟨more.filter fun member => member.1 ≠ some "type", ?_⟩
      have kept : ((some "type", Draft.string (some type)) :: second :: more).filter
          (fun member => member.1 ≠ some "type") =
          second :: more.filter fun member => member.1 ≠ some "type" := by
        simp [other]
      rw [← kept]
      exact read
    | cons _ _ =>
      rw [rest] at read
      cases read
  · cases read

theorem CallFields.callId_of_step {fields after : CallFields} {key : String} {value : Draft}
    (other : key ≠ "call_id") (stepped : fields.step key value = .ok after) :
    after.callId = fields.callId := by
  unfold CallFields.step at stepped
  split at stepped
  · exact absurd rfl other
  · obtain ⟨_, _, result⟩ := ok_of_bind stepped
    rw [← Except.ok.inj result]
  · obtain ⟨_, _, result⟩ := ok_of_bind stepped
    rw [← Except.ok.inj result]
  · obtain ⟨_, _, stepped⟩ := ok_of_bind stepped
    obtain ⟨_, _, result⟩ := ok_of_bind stepped
    rw [← Except.ok.inj result]

theorem callOfDraft_callId {id : UInt64} {fields : List (Option String × Draft)}
    {message : WireMessage}
    (read : callOfDraft (.object ((some "call_id", .number (.ofInt id.toNat)) :: fields)) =
      .ok message) :
    ∃ instanceId signature arguments, message = .call id instanceId signature arguments := by
  unfold callOfDraft at read
  cases folded : (Draft.object ((some "call_id", .number (.ofInt id.toNat)) :: fields)).foldRecord
      ["call_id", "instance_id", "method", "args"] CallFields.step ⟨none, none, none, none⟩ with
  | error fault =>
    rw [folded] at read
    cases read
  | ok result =>
    rw [folded] at read
    have first : Draft.foldMembers ["call_id", "instance_id", "method", "args"] CallFields.step
        ["call_id"] ⟨some id, none, none, none⟩ fields = .ok result := by
      rw [← folded]
      simp only [Draft.foldRecord, Draft.foldMembers, CallFields.step, Draft.word_ofInt]
      rfl
    have kept : result.callId = some id := by
      refine Draft.foldMembers_seen (fun state => state.callId = some id) ?_
        (List.mem_singleton_self _) rfl first
      intro state key value after same other _ stepped
      exact (CallFields.callId_of_step other stepped).trans same
    obtain ⟨callId, instanceId, signature, arguments⟩ := result
    obtain rfl := kept
    cases instanceId <;> cases signature <;> cases arguments <;> cases read
    exact ⟨_, _, _, rfl⟩

theorem returnOfDraft_callId {id : UInt64} {fields : List (Option String × Draft)}
    {message : WireMessage}
    (read : returnOfDraft (.object ((some "call_id", .number (.ofInt id.toNat)) :: fields)) =
      .ok message) :
    (∃ document, message = .result id document) ∨ ∃ error, message = .failure id error := by
  unfold returnOfDraft at read
  obtain ⟨result, folded, read⟩ := ok_of_bind read
  have kept : result.1 = some id := by
    simp only [Draft.foldRecord, Draft.foldMembers] at folded
    obtain ⟨first, started, folded⟩ := ok_of_bind folded
    have known : first.1 = some id := by
      simp only [if_true, Draft.word_ofInt] at started
      exact congrArg Prod.fst (Except.ok.inj started).symm
    refine Draft.foldMembers_seen (fun state => state.1 = some id) ?_ (List.mem_singleton_self _)
      known folded
    intro state key value after same other _ stepped
    rw [if_neg other] at stepped
    obtain ⟨outcome, _, result⟩ := ok_of_bind stepped
    rw [← Except.ok.inj result]
    exact same
  obtain ⟨callId, outcome⟩ := result
  obtain rfl := kept
  rcases outcome with _ | error | document
  · cases read
  · cases read
    exact .inr ⟨_, rfl⟩
  · cases read
    exact .inl ⟨_, rfl⟩

/-- What is read of the bytes of a message begins with its type and its call id. -/
theorem ofFields_of_decode {type : String} {id : UInt64} {third : String × Json}
    {others : List (String × Json)} {message : WireMessage}
    (read : decode (Json.object (("type", .string type) :: ("call_id", .int id.toNat) :: third ::
      others)).render = .ok message) :
    ∃ fields, ofFields type
      (.object ((some "call_id", .number (.ofInt id.toNat)) :: fields)) = .ok message := by
  obtain ⟨more, ends, spelled⟩ := Json.read_two_members ("type", .string type)
    ("call_id", .int id.toNat) third others trivial trivial
  unfold decode at read
  rw [spelled] at read
  obtain ⟨result, drafted, read⟩ := ok_of_bind read
  have same : result = message := by
    split at read
    · exact Except.ok.inj read
    · cases read
  rw [same] at drafted
  exact ofFields_of_ofDraft (by simp) drafted

/-- What is read of a call is a call with the same id. -/
theorem callId_of_decode_call {id : UInt64} {instanceId : String} {signature : Signature}
    {arguments : List Portable} {message : WireMessage}
    (read : decode (ChannelMessage.callJson id instanceId signature arguments).render =
      .ok message) :
    ∃ instanceId signature arguments, message = .call id instanceId signature arguments := by
  obtain ⟨fields, read⟩ := ofFields_of_decode read
  exact callOfDraft_callId read

/-- What is read of a return is a result or a failure with the same id. -/
theorem callId_of_decode_return {id : UInt64} {outcome : String × Json} {message : WireMessage}
    (read : decode (ChannelMessage.returnJson id outcome).render = .ok message) :
    (∃ document, message = .result id document) ∨ ∃ error, message = .failure id error := by
  obtain ⟨fields, read⟩ := ofFields_of_decode read
  exact returnOfDraft_callId read

end WireMessage

/-! ## Errors -/

namespace RemoteError

@[simp] theorem frameOfDraft_frameJson (frame : TraceFrame) :
    frameOfDraft (frameJson frame).draft = .ok frame := by
  obtain ⟨location, origin⟩ := frame
  cases origin <;> rfl

theorem mapM_frameOfDraft (trace : List TraceFrame) :
    (Json.draftItems (trace.map frameJson)).mapM frameOfDraft = .ok trace := by
  induction trace with
  | nil => rfl
  | cons frame trace ih =>
    rw [List.map_cons, Json.draftItems, List.mapM_cons, frameOfDraft_frameJson, ih]
    rfl

/-- An error is read as it was written. -/
theorem ofDraft_toJson (error : RemoteError) : ofDraft error.toJson.draft = .ok error := by
  have trace : (Draft.array (Json.draftItems (error.trace.map frameJson))).items =
      .ok (Json.draftItems (error.trace.map frameJson)) := rfl
  have text : ∀ content, (Draft.string (some content)).text = .ok content := fun _ => rfl
  simp [ofDraft, toJson, Json.draft, Json.draftMembers, Draft.foldRecord, Draft.foldMembers,
    Fields.step, text, trace, bind, Except.bind, mapM_frameOfDraft]
  rfl

theorem legibleItems_frames (trace : List TraceFrame) :
    Json.LegibleItems (trace.map frameJson) := by
  induction trace with
  | nil => trivial
  | cons frame trace ih => exact ⟨⟨trivial, trivial, trivial⟩, ih⟩

theorem legible_toJson (error : RemoteError) : error.toJson.Legible :=
  ⟨trivial, trivial, legibleItems_frames error.trace, trivial⟩

theorem sound_frames (trace : List TraceFrame) (depth : Nat) :
    (Json.draftItems (trace.map frameJson)).all (Draft.sound (depth + 1)) = true := by
  induction trace with
  | nil => rfl
  | cons frame trace ih =>
    rw [List.map_cons, Json.draftItems, List.all_cons, ih]
    simp [frameJson, Json.draft, Json.draftMembers, Draft.sound]

theorem sound_toJson (error : RemoteError) (depth : Nat) :
    error.toJson.draft.sound (depth + 3) = true := by
  have frames := sound_frames error.trace depth
  simpa [toJson, Json.draft, Json.draftMembers, Draft.sound] using frames

end RemoteError

namespace WireMessage

theorem sound_failure (id : UInt64) (error : RemoteError) :
    (ChannelMessage.returnJson id ("err", error.toJson)).draft.sound nestingLimit = true := by
  have inner : error.toJson.draft.sound 125 = true := error.sound_toJson 122
  have number : (Json.Numeral.ofInt id.toNat).inRange = true :=
    Json.Numeral.inRange_ofInt (by simpa using id.toNat_lt)
  simp only [ChannelMessage.returnJson, Json.draft, Json.draftMembers, nestingLimit, Draft.sound,
    List.all_cons, List.all_nil, number, inner]
  rfl

/-- A return with an error from its fields. -/
theorem returnOfDraft_failure {id : UInt64} {number document : Draft} {error : RemoteError}
    (named : number.word = .ok id) (spelled : RemoteError.ofDraft document = .ok error) :
    returnOfDraft (.object [(some "call_id", number),
      (some "outcome", .object [(some "err", document)])]) = .ok (.failure id error) := by
  have outcome : outcomeOfDraft (.object [(some "err", document)]) = .ok (.error error) := by
    rw [outcomeOfDraft, spelled]
    rfl
  simp [returnOfDraft, Draft.foldRecord, Draft.foldMembers, named, outcome, bind, Except.bind, pure,
    Except.pure]

/-- A message whose type comes first and is named once. -/
theorem ofDraft_of_ofFields {type : String} {members : List (Option String × Draft)}
    {message : WireMessage}
    (sound : (Draft.object ((some "type", .string (some type)) :: members)).sound
      nestingLimit = true)
    (others : ∀ member ∈ members, member.1 ≠ some "type")
    (fields : ofFields type (.object members) = .ok message) :
    ofDraft (.object ((some "type", .string (some type)) :: members)) = .ok message := by
  have none : members.filter (fun member => member.1 = some "type") = [] :=
    List.filter_eq_nil_iff.mpr fun member listed => by simpa using others member listed
  have all : members.filter (fun member => !decide (member.1 = some "type")) = members :=
    List.filter_eq_self.mpr fun member listed => by simpa using others member listed
  have text : (Draft.string (some type)).text = .ok type := rfl
  unfold ofDraft
  rw [if_pos sound]
  simpa [typesOf, none, all, text, bind, Except.bind] using fields

theorem ofDraft_failure (id : UInt64) (error : RemoteError) :
    ofDraft (ChannelMessage.returnJson id ("err", error.toJson)).draft =
      .ok (.failure id error) := by
  refine ofDraft_of_ofFields (sound_failure id error) ?_
    (returnOfDraft_failure (Draft.word_ofInt id) error.ofDraft_toJson)
  intro member listed
  simp only [Json.draftMembers, List.mem_cons, List.not_mem_nil, or_false] at listed
  rcases listed with rfl | rfl <;> simp

/-- A return with an error is read as it was written. -/
theorem decode_failure (id : UInt64) (error : RemoteError) :
    decode (ChannelMessage.returnJson id ("err", error.toJson)).render =
      .ok (.failure id error) := by
  have legible : (ChannelMessage.returnJson id ("err", error.toJson)).Legible :=
    ⟨trivial, trivial, ⟨error.legible_toJson, trivial⟩, trivial⟩
  rw [decode, Json.read_render _ legible]
  simp only [ofDraft_failure]
  rfl

end WireMessage

/-! ## Messages on their way through a chain -/

namespace ChannelMessage

variable {σ : Type} {chain : MarshalChain σ} {state after : σ} {bytes : Bytes}

theorem json_of_encode {message : ChannelMessage}
    (encoded : (message.encode chain).run state = (.ok bytes, after)) :
    ∃ json, (message.toJson chain).run state = (.ok json, after) ∧ bytes = json.render := by
  obtain ⟨json, between, drawn, result⟩ := Marshal.ok_of_bind encoded
  obtain ⟨same, rfl⟩ := Prod.mk.inj result
  exact ⟨json, drawn, (Except.ok.inj same).symm⟩

/-- The bytes of a call name its id, whatever its arguments have become. -/
theorem encode_call {request : CallRequest}
    (encoded : ((call request).encode chain).run state = (.ok bytes, after)) :
    ∃ arguments, bytes =
      (callJson request.callId request.instanceId request.signature arguments).render := by
  obtain ⟨json, drawn, rfl⟩ := json_of_encode encoded
  obtain ⟨arguments, between, _, result⟩ := Marshal.ok_of_bind drawn
  exact ⟨arguments, congrArg Json.render (Except.ok.inj (Prod.mk.inj result).1).symm⟩

/-- The bytes of a result name the id of its call, whatever the value has become. -/
theorem encode_result {id : UInt64} {value : Value}
    (encoded : ((reply id (.ok value)).encode chain).run state = (.ok bytes, after)) :
    ∃ portable : Portable, bytes = (returnJson id ("ok", portable.toJson)).render := by
  obtain ⟨json, drawn, rfl⟩ := json_of_encode encoded
  obtain ⟨portable, between, _, result⟩ := Marshal.ok_of_bind drawn
  exact ⟨portable, congrArg Json.render (Except.ok.inj (Prod.mk.inj result).1).symm⟩

/-- An error can always be written. -/
theorem encode_failure (chain : MarshalChain σ) (id : UInt64) (error : RemoteError) (state : σ) :
    ((reply id (.error error)).encode chain).run state =
      (.ok (returnJson id ("err", error.toJson)).render, state) := rfl

/-- What is read of a call is a call with the same id. -/
theorem decode_call {id : UInt64} {instanceId : String} {signature : Signature}
    {arguments : List Portable} {message : ChannelMessage}
    (decoded : (decode chain (callJson id instanceId signature arguments).render).run state =
      (.ok message, after)) :
    ∃ request : CallRequest, message = .call request ∧ request.callId = id := by
  unfold decode at decoded
  split at decoded
  · rename_i wire read
    obtain ⟨instanceId, signature, arguments, rfl⟩ := WireMessage.callId_of_decode_call read
    obtain ⟨values, between, _, result⟩ := Marshal.ok_of_bind decoded
    exact ⟨_, (Except.ok.inj (Prod.mk.inj result).1).symm, rfl⟩
  · cases decoded

/-- What is read of a return answers the same call. -/
theorem decode_return {id : UInt64} {outcome : String × Json} {message : ChannelMessage}
    (decoded : (decode chain (returnJson id outcome).render).run state = (.ok message, after)) :
    (∃ outcome, message = .reply id outcome) ∨ ∃ reason, message = .unreadable id reason := by
  unfold decode at decoded
  split at decoded
  · rename_i wire read
    rcases WireMessage.callId_of_decode_return read with ⟨document, rfl⟩ | ⟨error, rfl⟩
    · rw [ofWire, Marshal.run_tryCatch, Marshal.run_bind] at decoded
      generalize (resultValue chain document).run state = resolved at decoded
      obtain ⟨fault | value, between⟩ := resolved
      · exact .inr ⟨_, (Except.ok.inj (Prod.mk.inj decoded).1).symm⟩
      · exact .inl ⟨_, (Except.ok.inj (Prod.mk.inj decoded).1).symm⟩
    · exact .inl ⟨_, (Except.ok.inj (Prod.mk.inj decoded).1).symm⟩
  · cases decoded

/-- A return with an error is always read, and as it was written. -/
theorem decode_failure (chain : MarshalChain σ) (id : UInt64) (error : RemoteError) (state : σ) :
    (decode chain (returnJson id ("err", error.toJson)).render).run state =
      (.ok (.reply id (.error error)), state) := by
  rw [decode, WireMessage.decode_failure]
  rfl

end ChannelMessage

end Courier
