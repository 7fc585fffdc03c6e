import Courier.Proofs.Rpc.Crossing
import Courier.Proofs.Rpc.Messages
import Courier.Proofs.Value.Fitting

/-!
# Values that messages convey

The arguments of a call and the result of a call are read from a message just as
they would be read if each of them had been sent on its own, as long as they fit
into the message.  So what a message conveys is said in terms of values alone
(`Desk.Conveys`).
-/

namespace Courier

set_option autoImplicit false

open Json (Draft)

/-! ## Signatures -/

namespace Signature

theorem legible_toJson (signature : Signature) : signature.toJson.Legible :=
  ⟨trivial, trivial, Json.legible_strings _, trivial⟩

theorem sound_toJson (signature : Signature) (depth : Nat) :
    signature.toJson.draft.sound (depth + 2) = true := by
  have params := Json.sound_strings signature.params depth
  simp [toJson, Json.draft, Json.draftMembers, Draft.sound, params]

/-- A signature is read as it was written. -/
theorem ofDraft_toJson (signature : Signature) :
    ofDraft signature.toJson.draft = .ok signature := by
  have text : ∀ content, (Draft.string (some content)).text = .ok content := fun _ => rfl
  have params := Json.texts_strings signature.params
  simp [ofDraft, toJson, Json.draft, Json.draftMembers, Draft.foldRecord, Draft.foldMembers,
    Fields.step, text, params, bind, Except.bind, pure, Except.pure]

end Signature

/-! ## Messages of the wire -/

/-- How many arrays and objects of a value may stand inside one another in a message, which has two
around the value. -/
def valueLimit : Nat := 125

namespace WireMessage

variable {id : UInt64}

theorem inRange_callId (id : UInt64) : (Json.Numeral.ofInt id.toNat).inRange = true :=
  Json.Numeral.inRange_ofInt (by simpa using id.toNat_lt)

section Calls

variable {instanceId : String} {signature : Signature} {arguments again : List Portable}

theorem draftItems_arguments (arguments : List Portable) :
    Json.draftItems (arguments.map Portable.toJson) =
      arguments.map fun argument => argument.toJson.draft := by
  rw [Json.draftItems_eq_map, List.map_map]
  rfl

theorem legible_call (readable : ∀ argument ∈ arguments, argument.Readable valueLimit) :
    (ChannelMessage.callJson id instanceId signature arguments).Legible := by
  refine ⟨trivial, trivial, trivial, signature.legible_toJson, ?_, trivial⟩
  refine Json.legibleItems_iff.mpr fun item listed => ?_
  obtain ⟨argument, among, rfl⟩ := List.mem_map.mp listed
  exact (readable argument among).legible

theorem sound_call (readable : ∀ argument ∈ arguments, argument.Readable valueLimit) :
    (ChannelMessage.callJson id instanceId signature arguments).draft.sound nestingLimit =
      true := by
  have inner : (arguments.map fun argument => argument.toJson.draft).all (Draft.sound 125) =
      true := by
    rw [List.all_map, List.all_eq_true]
    exact fun argument among => (readable argument among).sound
  have method := signature.sound_toJson 124
  simp only [ChannelMessage.callJson, Json.draft, Json.draftMembers, draftItems_arguments,
    nestingLimit, Draft.sound, List.all_cons, List.all_nil, inRange_callId, method, inner]
  rfl

theorem callOfDraft_call {number method : Draft} {drafts : List Draft}
    (named : number.word = .ok id) (signed : Signature.ofDraft method = .ok signature)
    (read : drafts.mapM Portable.ofDraftAside = .ok again) :
    callOfDraft (.object [(some "call_id", number), (some "instance_id", .string (some instanceId)),
      (some "method", method), (some "args", .array drafts)]) =
        .ok (.call id instanceId signature again) := by
  have text : (Draft.string (some instanceId)).text = .ok instanceId := rfl
  have items : (Draft.array drafts).items = .ok drafts := rfl
  simp [callOfDraft, Draft.foldRecord, Draft.foldMembers, CallFields.step, named, text, signed,
    items, read, bind, Except.bind, pure, Except.pure]

/-- A call is read as it was written, but for its arguments, which are read as they are. -/
theorem decode_call (readable : ∀ argument ∈ arguments, argument.Readable valueLimit)
    (read : (arguments.map fun argument => argument.toJson.draft).mapM Portable.ofDraftAside =
      .ok again) :
    decode (ChannelMessage.callJson id instanceId signature arguments).render =
      .ok (.call id instanceId signature again) := by
  have sound := @sound_call id instanceId signature arguments readable
  have drafted : ofDraft (ChannelMessage.callJson id instanceId signature arguments).draft =
      .ok (.call id instanceId signature again) := by
    simp only [ChannelMessage.callJson, Json.draft, Json.draftMembers, draftItems_arguments]
      at sound ⊢
    refine ofDraft_of_ofFields sound (fun member listed => ?_)
      (callOfDraft_call (Draft.word_ofInt id) signature.ofDraft_toJson read)
    simp only [List.mem_cons, List.not_mem_nil, or_false] at listed
    rcases listed with rfl | rfl | rfl | rfl <;> simp
  rw [decode, Json.read_render _ (legible_call readable)]
  simp only [drafted]
  rfl

end Calls

section Results

variable {portable : Portable}

theorem sound_result (readable : portable.Readable valueLimit) :
    (ChannelMessage.returnJson id ("ok", portable.toJson)).draft.sound nestingLimit = true := by
  have inner : portable.toJson.draft.sound 125 = true := readable.sound
  simp only [ChannelMessage.returnJson, Json.draft, Json.draftMembers, nestingLimit, Draft.sound,
    List.all_cons, List.all_nil, inRange_callId, inner]
  rfl

theorem returnOfDraft_result {number : Draft} (named : number.word = .ok id) (document : Draft) :
    returnOfDraft (.object [(some "call_id", number),
      (some "outcome", .object [(some "ok", document)])]) = .ok (.result id document) := by
  simp [returnOfDraft, Draft.foldRecord, Draft.foldMembers, named, outcomeOfDraft, bind,
    Except.bind, pure, Except.pure]

/-- A result is read with its document as it was written. -/
theorem decode_result (readable : portable.Readable valueLimit) :
    decode (ChannelMessage.returnJson id ("ok", portable.toJson)).render =
      .ok (.result id portable.toJson.draft) := by
  have legible : (ChannelMessage.returnJson id ("ok", portable.toJson)).Legible :=
    ⟨trivial, trivial, ⟨readable.legible, trivial⟩, trivial⟩
  have drafted : ofDraft (ChannelMessage.returnJson id ("ok", portable.toJson)).draft =
      .ok (.result id portable.toJson.draft) := by
    refine ofDraft_of_ofFields (sound_result readable) (fun member listed => ?_)
      (returnOfDraft_result (Draft.word_ofInt id) _)
    simp only [Json.draftMembers, List.mem_cons, List.not_mem_nil, or_false] at listed
    rcases listed with rfl | rfl <;> simp
  rw [decode, Json.read_render _ legible]
  simp only [drafted]
  rfl

end Results

end WireMessage

/-! ## Values one after the other -/

namespace MarshalChain

variable {σ : Type} {chain : MarshalChain σ} {state after : σ}

theorem run_encodeValues {values : List Value} {portables : List Portable}
    (written : (values.mapM chain.toPortable).run state = (.ok portables, after)) :
    (values.mapM chain.encodeValue).run state = (.ok (portables.map Portable.encode), after) := by
  induction values generalizing state portables with
  | nil =>
    obtain ⟨same, rfl⟩ := Prod.mk.inj written
    rw [← Except.ok.inj same]
    rfl
  | cons value values ih =>
    rw [List.mapM_cons] at written
    obtain ⟨first, between, run, written⟩ := Marshal.ok_of_bind written
    obtain ⟨others, last, run', written⟩ := Marshal.ok_of_bind written
    obtain ⟨same, rfl⟩ := Prod.mk.inj written
    have encoded : (chain.encodeValue value).run state = (.ok first.encode, between) := by
      rw [encodeValue, Marshal.run_bind, run]
      rfl
    rw [List.mapM_cons, Marshal.run_bind, encoded]
    simp only [Marshal.run_bind, ih run', ← Except.ok.inj same]
    rfl

theorem decodeValues_eq {texts : List Bytes} {portables : List Portable}
    (each : List.Forall₂ (fun text portable => Portable.decode text = .ok portable) texts
      portables) :
    texts.mapM chain.decodeValue = portables.mapM chain.ofPortable := by
  induction each with
  | nil => rfl
  | cons first _ ih =>
    rw [List.mapM_cons, List.mapM_cons, ih, decodeValue, first]

end MarshalChain

/-! ## Work at a desk -/

namespace Desk

variable {τ : Type}

/-- The channel at a desk has done some work. -/
def Grows (desk after : Desk τ) : Prop := desk.channel.Grows after.channel

theorem habit_grows : Marshal.Habit (Grows : Desk τ → Desk τ → Prop) :=
  ⟨fun _ => .refl, .trans⟩

theorem grows_replaceNode (value : Value) (channel : Channel) :
    channel.Grows (Channel.replaceNode value channel).2 := by
  cases value with
  | live object =>
    cases object with
    | service service =>
      cases named : channel.singletons.nameOf? service with
      | some name =>
        simp only [Channel.replaceNode, Channel.refer_singleton named]
        exact .refl
      | none =>
        simp only [Channel.replaceNode, Channel.refer_export named]
        exact .single (.publish service.interfaces service)
    | _ => exact .refl
  | _ => exact .refl

theorem grows_resolveNode (value : Value) (channel : Channel) :
    channel.Grows (Channel.resolveNode value channel).2 := by
  cases value with
  | remote handle =>
    cases seen : channel.lookup? handle.instanceId with
    | some service =>
      simp only [Channel.resolveNode, Channel.resolve, seen]
      exact .refl
    | none =>
      simp only [Channel.resolveNode, Channel.resolve, seen]
      exact .single (.proxy handle)
  | _ => exact .refl

/-- All that marshaling does to a channel is work, whether it succeeds or not. -/
theorem grows_chain (further : List (Stage τ)) : (chain further).Leads Grows := by
  intro stage listed
  rcases List.mem_append.mp listed with before | last
  · obtain ⟨other, _, rfl⟩ := List.mem_map.mp before
    exact ⟨fun _ _ => .refl, fun _ _ => .refl⟩
  · rw [List.mem_singleton.mp last]
    exact ⟨fun value desk => grows_replaceNode value desk.channel,
      fun value desk => grows_resolveNode value desk.channel⟩

end Desk

/-! ## What messages convey -/

/-- A value that a message of a channel can convey: no object of the application is in it, for which
the channel has no stage, it is nested no deeper than a message allows, and the text of each float
in it can be read (`FloatTravels`), which is an assumption on how floats are written. -/
structure Value.Conveyable (value : Value) : Prop where
  crosses : value.Crosses
  fits : value.Fits valueLimit

namespace Desk

variable {τ : Type} {sender : Desk τ}

/-- One desk marshals some values, and the other unmarshals what comes of it. -/
def Conveys (sender receiver : Desk τ) (values received : List Value) : Prop :=
  ∃ texts written read,
    (values.mapM (chain []).encodeValue).run sender = (.ok texts, written) ∧
      (texts.mapM (chain []).decodeValue).run receiver = (.ok received, read)

/-- Values that can be conveyed are written, each in a form that can be read. -/
theorem exists_toPortable {values : List Value} (conveyable : ∀ value ∈ values, value.Conveyable)
    (sound : sender.channel.Sound) :
    ∃ portables after, (values.mapM (chain []).toPortable).run sender = (.ok portables, after) ∧
      ∀ portable ∈ portables, portable.Readable valueLimit := by
  have each : Succeeds Channel.Grows (values.mapM (chain ([] : List (Stage τ))).toPortable)
      fun channel => List.Forall₂ (fun value => Writing value channel) values :=
    .mapM .growing (fun _ _ _ _ writing grows => writing.grows grows) fun value listed =>
      succeeds_toPortable (conveyable value listed).crosses
  obtain ⟨portables, after, run, _, written⟩ := each sender sound
  refine ⟨portables, after, run, fun portable listed => ?_⟩
  obtain ⟨value, among, writing⟩ := Value.exists_of_mem_forall₂ written listed
  exact portable.readable_of_fits ((conveyable value among).fits.of_shape writing.shape)

/-- A portable form is read from a message, whether it was put aside or not, as it is read from a
text of its own. -/
theorem exists_again {portable : Portable} (readable : portable.Readable valueLimit) :
    ∃ again, Portable.ofDraftAside portable.toJson.draft = .ok again ∧
      Portable.ofDraft portable.toJson.draft.settled = .ok again ∧
        Portable.decode portable.encode = .ok again := by
  obtain ⟨again, read⟩ := readable.read
  have plain : Portable.ofDraft portable.toJson.draft = .ok again := read false _ (by decide)
  exact ⟨again, read true _ (by decide), (congrArg _ readable.settled).trans plain,
    Portable.decode_encode readable.legible plain⟩

theorem exists_agains {portables : List Portable}
    (readable : ∀ portable ∈ portables, portable.Readable valueLimit) :
    ∃ agains, (portables.map fun portable => portable.toJson.draft).mapM Portable.ofDraftAside =
        .ok agains ∧
      List.Forall₂ (fun text again => Portable.decode text = .ok again)
        (portables.map Portable.encode) agains := by
  induction portables with
  | nil => exact ⟨[], rfl, .nil⟩
  | cons portable rest ih =>
    obtain ⟨again, aside, _, alone⟩ := exists_again (readable portable (List.mem_cons_self ..))
    obtain ⟨agains, asides, each⟩ :=
      ih fun other listed => readable other (List.mem_cons_of_mem _ listed)
    refine ⟨again :: agains, ?_, .cons alone each⟩
    rw [List.map_cons, List.mapM_cons, aside, asides]
    rfl

/-- Portable values are read at a desk whose registries are in order. -/
theorem exists_ofPortable {receiver : Desk τ} (sound : receiver.channel.Sound)
    (portables : List Portable) :
    ∃ received after, (portables.mapM (chain []).ofPortable).run receiver =
      (.ok received, after) := by
  have each : Succeeds Channel.Learns (portables.mapM (chain ([] : List (Stage τ))).ofPortable)
      fun channel => List.Forall₂ (fun portable => Reading portable channel) portables :=
    .mapM .learning (fun _ _ _ _ reading learns => reading.learns learns) fun portable _ =>
      succeeds_ofPortable portable
  obtain ⟨received, after, run, _⟩ := each receiver sound
  exact ⟨received, after, run⟩

/-- The message of a call conveys its arguments. -/
theorem conveys_call {request : CallRequest}
    (conveyable : ∀ value ∈ request.arguments, value.Conveyable) (sound : sender.channel.Sound) :
    ∃ bytes after,
      ((ChannelMessage.call request).encode (chain [])).run sender = (.ok bytes, after) ∧
        ∀ receiver : Desk τ, receiver.channel.Sound → ∃ received after,
          (ChannelMessage.decode (chain []) bytes).run receiver =
            (.ok (.call { request with arguments := received }), after) ∧
              sender.Conveys receiver request.arguments received := by
  obtain ⟨portables, after, written, readable⟩ := exists_toPortable conveyable sound
  obtain ⟨agains, aside, each⟩ := exists_agains readable
  refine ⟨(ChannelMessage.callJson request.callId request.instanceId request.signature
    portables).render, after, ?_, fun receiver sound => ?_⟩
  · rw [ChannelMessage.encode, ChannelMessage.toJson, Marshal.run_bind, Marshal.run_bind, written]
    rfl
  · obtain ⟨received, last, read⟩ := exists_ofPortable sound agains
    refine ⟨received, last, ?_, portables.map Portable.encode, after, last,
      MarshalChain.run_encodeValues written, ?_⟩
    · rw [ChannelMessage.decode, WireMessage.decode_call readable aside]
      simp only [ChannelMessage.ofWire, Marshal.run_bind, read]
      rfl
    · rw [MarshalChain.decodeValues_eq each]
      exact read

/-- The message of a result conveys it. -/
theorem conveys_result {value : Value} (conveyable : value.Conveyable)
    (sound : sender.channel.Sound) (id : UInt64) :
    ∃ bytes after,
      ((ChannelMessage.reply id (.ok value)).encode (chain [])).run sender = (.ok bytes, after) ∧
        ∀ receiver : Desk τ, receiver.channel.Sound → ∃ received after,
          (ChannelMessage.decode (chain []) bytes).run receiver =
            (.ok (.reply id (.ok received)), after) ∧
              sender.Conveys receiver [value] [received] := by
  obtain ⟨portable, after, written, _, writing⟩ :=
    succeeds_toPortable conveyable.crosses sender sound
  have readable : portable.Readable valueLimit :=
    portable.readable_of_fits (conveyable.fits.of_shape writing.shape)
  obtain ⟨again, _, settled, alone⟩ := exists_again readable
  refine ⟨(ChannelMessage.returnJson id ("ok", portable.toJson)).render, after, ?_,
    fun receiver sound => ?_⟩
  · rw [ChannelMessage.encode, ChannelMessage.toJson, Marshal.run_bind, Marshal.run_bind, written]
    rfl
  · obtain ⟨received, last, read, _⟩ := succeeds_ofPortable again receiver sound
    refine ⟨received, last, ?_, [portable.encode], after, last, ?_, ?_⟩
    · rw [ChannelMessage.decode, WireMessage.decode_result readable]
      simp only [ChannelMessage.ofWire, ChannelMessage.resultValue, settled, Marshal.run_tryCatch,
        Marshal.run_bind, read]
      rfl
    · have whole : ([value].mapM (chain []).toPortable).run sender = (.ok [portable], after) := by
        rw [List.mapM_cons, Marshal.run_bind, written]
        rfl
      exact MarshalChain.run_encodeValues whole
    · have single : List.Forall₂ (fun text again => Portable.decode text = .ok again)
          [portable.encode] [again] := .cons alone .nil
      rw [MarshalChain.decodeValues_eq single, List.mapM_cons, Marshal.run_bind, read]
      rfl

end Desk

end Courier
