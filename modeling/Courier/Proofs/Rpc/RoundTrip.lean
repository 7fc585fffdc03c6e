import Courier.Proofs.Rpc.Conveying
import Courier.Proofs.Value.RoundTrip

/-!
# Messages come back as they were sent

A value stands in a message in one of two places.  The arguments of a call are read where
they stand; the result of a call is first kept as a document, whose members are put in the
order of their keys, and read from there.  A plain value is read as itself in both, and
then so is the message around it (`ChannelMessage.round_trip`).

Only the reader has a limit to how deep a message may nest, so a message can always be
written, except for a return that could not be decoded, which is never sent on.
-/

namespace Courier

set_option autoImplicit false

open Json (Draft)

/-! ## How deep a message nests -/

section Nesting

variable {id : UInt64}

/-- Around an argument a call has the array of all arguments and itself. -/
theorem nesting_argument {instanceId : String} {signature : Signature} {arguments : List Portable}
    (deep : (ChannelMessage.callJson id instanceId signature arguments).nesting ≤ nestingLimit) :
    ∀ argument ∈ arguments, argument.toJson.nesting ≤ valueLimit := by
  simp only [ChannelMessage.callJson, Json.nesting, Json.nestingMembers, nestingLimit] at deep
  have items : Json.nestingItems (arguments.map Portable.toJson) ≤ 125 := by omega
  exact fun argument among =>
    Json.nestingItems_le_iff.mp items _ (List.mem_map.mpr ⟨argument, among, rfl⟩)

/-- Around a result a return has the outcome and itself. -/
theorem nesting_result {portable : Portable}
    (deep : (ChannelMessage.returnJson id ("ok", portable.toJson)).nesting ≤ nestingLimit) :
    portable.toJson.nesting ≤ valueLimit := by
  simp only [ChannelMessage.returnJson, Json.nesting, Json.nestingMembers, nestingLimit] at deep
  have result : portable.toJson.nesting ≤ 125 := by omega
  exact result

end Nesting

/-- A plain value can be read from a message. -/
theorem Portable.readable_of_plain {portable : Portable} (plain : portable.value.Plain)
    (deep : portable.toJson.nesting ≤ valueLimit) : portable.Readable valueLimit :=
  portable.readable_of_fits (portable.fits_of_nesting plain deep)

/-! ## Messages -/

namespace ChannelMessage

/-- A message whose values are plain, and that was not read in vain. -/
def Plain : ChannelMessage → Prop
  | call request => ∀ argument ∈ request.arguments, argument.Plain
  | reply _ (.ok value) => value.Plain
  | reply _ (.error _) => True
  | unreadable _ _ => False

variable {σ : Type}

/-- The arguments of a call are read where they stand. -/
theorem call_comes_back {request : CallRequest}
    (plain : ∀ argument ∈ request.arguments, argument.Plain) (state : σ) :
    ∃ json, ((call request).toJson .empty).run state = (.ok json, state) ∧
      (json.nesting ≤ nestingLimit → ∀ other : σ,
        (decode .empty json.render).run other = (.ok (call request), other)) := by
  obtain ⟨id, instanceId, signature, arguments⟩ := request
  obtain ⟨portables, rfl⟩ := Value.exists_portables arguments (Value.plainItems_iff.mpr plain)
  refine ⟨callJson id instanceId signature portables, ?_, fun deep other => ?_⟩
  · rw [toJson, MarshalChain.mapM_toPortable_empty]
    rfl
  · have shallow := nesting_argument deep
    have each (portable : Portable) (among : portable ∈ portables) : portable.value.Plain :=
      plain _ (Portable.values_eq_map portables ▸ List.mem_map.mpr ⟨portable, among, rfl⟩)
    have items : Json.nestingItems (Portable.itemsJson portables) ≤ nestingLimit := by
      rw [Portable.itemsJson_eq_map, Json.nestingItems_le_iff]
      intro item listed
      obtain ⟨portable, among, rfl⟩ := List.mem_map.mp listed
      exact Nat.le_trans (shallow portable among) (by decide)
    have read : (portables.map fun portable => portable.toJson.draft).mapM
        Portable.ofDraftAside = .ok portables := by
      have read := Portable.mapM_ofDraftWithin true portables (Value.plainItems_iff.mpr plain) items
      rwa [Portable.itemsJson_eq_map, WireMessage.draftItems_arguments] at read
    rw [decode, WireMessage.decode_call (fun portable among =>
      Portable.readable_of_plain (each portable among) (shallow portable among)) read]
    simp only [ofWire, MarshalChain.mapM_ofPortable_empty]
    rfl

/-- The result of a call is read from a document in which members are in the order of their keys. -/
theorem result_comes_back {value : Value} (plain : value.Plain) (id : UInt64) (state : σ) :
    ∃ json, ((reply id (.ok value)).toJson .empty).run state = (.ok json, state) ∧
      (json.nesting ≤ nestingLimit → ∀ other : σ,
        (decode .empty json.render).run other = (.ok (reply id (.ok value)), other)) := by
  obtain ⟨portable, rfl⟩ := value.exists_portable plain
  refine ⟨returnJson id ("ok", portable.toJson), ?_, fun deep other => ?_⟩
  · rw [toJson, MarshalChain.toPortable_empty]
    rfl
  · have shallow := nesting_result deep
    have readable := Portable.readable_of_plain plain shallow
    have read : Portable.ofDraft portable.toJson.draft.settled = .ok portable := by
      rw [readable.settled]
      exact portable.ofDraftWithin_toJson false plain (Nat.le_trans shallow (by decide))
    rw [decode, WireMessage.decode_result readable]
    simp only [ofWire, resultValue, read, MarshalChain.ofPortable_empty]
    rfl

/-- **A plain message can be written**, and comes back if what is written does not nest too deep. -/
theorem comes_back {message : ChannelMessage} (plain : message.Plain) (state : σ) :
    ∃ json, (message.toJson .empty).run state = (.ok json, state) ∧
      (json.nesting ≤ nestingLimit → ∀ other : σ,
        (decode .empty json.render).run other = (.ok message, other)) := by
  match message, plain with
  | call request, plain => exact call_comes_back plain state
  | reply id (.ok value), plain => exact result_comes_back plain id state
  | reply id (.error error), _ =>
    exact ⟨returnJson id ("err", error.toJson), rfl,
      fun _ other => decode_failure .empty id error other⟩

/-- What is drawn as a document is written as its bytes. -/
theorem encode_of_toJson {chain : MarshalChain σ} {message : ChannelMessage} {state after : σ}
    {json : Json} (drawn : (message.toJson chain).run state = (.ok json, after)) :
    (message.encode chain).run state = (.ok json.render, after) := by
  rw [encode, Marshal.run_bind, drawn]
  rfl

/-- **Values and messages come back as they were sent**, without stages between: whatever is plain
can be written, and the text is read as the same value or message if it does not nest too deep for
the reader.  A return that could not be decoded is never written, whatever the chain. -/
theorem round_trip {σ : Type} (state other : σ) :
    (∀ value : Value, value.Plain → ∃ portable : Portable,
      (MarshalChain.empty.toPortable value).run state = (.ok portable, state) ∧
      (MarshalChain.empty.encodeValue value).run state = (.ok portable.toJson.render, state) ∧
      (portable.toJson.nesting ≤ nestingLimit →
        (MarshalChain.empty.decodeValue portable.toJson.render).run other = (.ok value, other))) ∧
    (∀ message : ChannelMessage, message.Plain → ∃ json : Json,
      (message.toJson .empty).run state = (.ok json, state) ∧
      (message.encode .empty).run state = (.ok json.render, state) ∧
      (json.nesting ≤ nestingLimit →
        (decode .empty json.render).run other = (.ok message, other))) ∧
    (∀ (chain : MarshalChain σ) (id : UInt64) (reason : String),
      ((unreadable id reason).encode chain).run state =
        (.error (.encode s!"return {id.toNat} was never decoded"), state)) := by
  refine ⟨fun value plain => ?_, fun message plain => ?_, fun chain id reason => rfl⟩
  · obtain ⟨portable, formed, written, read⟩ := MarshalChain.value_comes_back plain state
    exact ⟨portable, formed, written, fun deep => read deep other⟩
  · obtain ⟨json, drawn, read⟩ := comes_back plain state
    exact ⟨json, drawn, encode_of_toJson drawn, fun deep => read deep other⟩

/-- A call with a value of each kind. -/
def variedCall : ChannelMessage :=
  .call ⟨0xffffffffffffffff, "@clock", ⟨"Clock", "set", ["any", "any"]⟩,
    [.map [("", .null), ("\"\\\n\u0001", .list [.bool true, .int (-9223372036854775808)]),
      ("é", .list [.float (-0.1), .float (0.0 / 0.0), .float (-1.0 / 0.0)])],
      .list [.bytes [0, 255], .str "\\u0000", .remote ⟨"7", ["Clock", ""]⟩]]⟩

theorem round_trip_variedCall :
    ∃ text, (variedCall.encode (.empty : MarshalChain Unit)).run () = (.ok text, ()) ∧
      (decode (.empty : MarshalChain Unit) text).run () = (.ok variedCall, ()) := by
  have floats : Json.ReadsBack (-0.1) ∧ (0.0 / 0.0 : Float).isFinite = false ∧
      (-1.0 / 0.0 : Float).isFinite = false := by decide +kernel
  have plain : variedCall.Plain := by
    refine Value.plainItems_iff.mp ⟨⟨?_, trivial, ⟨trivial, trivial, trivial⟩, ?_, trivial⟩,
      ⟨trivial, trivial, trivial, trivial⟩, trivial⟩
    · unfold Entries.Ascending
      decide +kernel
    · refine ⟨fun _ => floats.1, fun finite => ?_, fun finite => ?_, trivial⟩
      · exact absurd finite (by rw [floats.2.1]; decide)
      · exact absurd finite (by rw [floats.2.2]; decide)
  obtain ⟨json, drawn, written, read⟩ := (round_trip () ()).2.1 variedCall plain
  have deep : json.nesting ≤ nestingLimit := by
    cases drawn
    decide +kernel
  exact ⟨json.render, written, read deep⟩

end ChannelMessage

end Courier
