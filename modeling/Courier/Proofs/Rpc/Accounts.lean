import Courier.Proofs.Numbering
import Courier.Proofs.Rpc.Dialogue
import Courier.Proofs.Rpc.Messages
import Mathlib.Data.List.Perm.Basic

/-!
# Accounts of calls

A pending call is held by exactly one thing: the message of the call, a job of the peer,
the message of its return, or a return that was given up.  A message holds its call until
the receiver of the peer has accepted it.

So accounts are kept on both sides: of the pending calls, of those that the messages of
calls hold, and of those that the peer owes a return for.  This module says what the
operations of a table of calls and of a speaker do to the accounts.  Ids are used again in
the course of time, and therefore they are counted.
-/

namespace Courier

set_option autoImplicit false

/-! ## Tables of calls -/

namespace CallTable

variable (table : CallTable) (method : Method) (callSite : String) (caller : Ticket)

theorem start_not_mem (room : table.busyIds.length < UInt64.size) :
    (table.start method callSite caller).1 ∉ table.busyIds :=
  Numbering.firstFree_succ_not_mem room table.nextId

/-- Without a pending call with its id, nothing is taken out; else just that call is. -/
theorem finish_cases {table : CallTable} (distinct : table.busyIds.Nodup) (id : UInt64) :
    id ∉ table.busyIds ∧ table.finish id = (none, table) ∨
      ∃ call after, call.id = id ∧ table.finish id = (some call, after) ∧
        table.pending.Perm (call :: after.pending) := by
  cases found : table.pending? id with
  | none =>
    have others : ∀ call ∈ table.pending, call.id ≠ id := by
      simpa [pending?] using List.find?_eq_none.mp found
    refine .inl ⟨?_, ?_⟩
    · intro listed
      obtain ⟨call, pending, named⟩ := List.mem_map.mp listed
      exact others call pending named
    · have same : (table.pending.filter fun call => call.id ≠ id) = table.pending :=
        List.filter_eq_self.mpr fun call pending => by simpa using others call pending
      rw [finish, found, same]
  | some call =>
    obtain ⟨named, before, behind, split, earlier⟩ := List.find?_eq_some_iff_append.mp found
    have named : call.id = id := by simpa using named
    -- No other call has the id: not an earlier one, which was not found, nor a later one.
    have later : ∀ other ∈ behind, other.id ≠ id := by
      intro other listed same
      rw [busyIds, split, List.map_append, List.map_cons] at distinct
      have apart := (List.nodup_cons.mp (List.nodup_append.mp distinct).2.1).1
      exact apart (named.trans same.symm ▸ List.mem_map_of_mem listed)
    have rest : (table.pending.filter fun call => call.id ≠ id) = before ++ behind := by
      rw [split, List.filter_append, List.filter_cons_of_neg (by simpa using named)]
      congr 1
      · exact List.filter_eq_self.mpr fun other listed => by simpa using earlier other listed
      · exact List.filter_eq_self.mpr fun other listed => by simpa using later other listed
    refine .inr ⟨call, { table with pending := before ++ behind }, named, ?_, ?_⟩
    · rw [finish, found, rest]
    · rw [split]
      exact List.perm_middle

end CallTable

/-! ## Errands -/

namespace Errand

/-- The call that a message carries. -/
def callId? : Errand → Option UInt64
  | call id => some id
  | reply _ _ => none

/-- The call that a message answers. -/
def replyId? : Errand → Option UInt64
  | call _ => none
  | reply id _ => some id

/-- The bytes of the messages for an errand. -/
inductive CarriedBy : Errand → Bytes → Prop
  | call (id : UInt64) (instanceId : String) (signature : Signature) (arguments : List Portable) :
      CarriedBy (.call id) (ChannelMessage.callJson id instanceId signature arguments).render
  | result (id : UInt64) (portable : Portable) :
      CarriedBy (.reply id false) (ChannelMessage.returnJson id ("ok", portable.toJson)).render
  | failure (id : UInt64) (error : RemoteError) :
      CarriedBy (.reply id true) (ChannelMessage.returnJson id ("err", error.toJson)).render

end Errand

/-- What is written of a message is for the errand of the message. -/
theorem ChannelMessage.carriedBy_of_encode {σ : Type} {chain : MarshalChain σ} {state after : σ}
    {message : ChannelMessage} {bytes : Bytes}
    (encoded : (message.encode chain).run state = (.ok bytes, after)) :
    message.errand.CarriedBy bytes := by
  cases message with
  | call request =>
    obtain ⟨arguments, rfl⟩ := encode_call encoded
    exact .call ..
  | reply id outcome =>
    cases outcome with
    | ok value =>
      obtain ⟨portable, rfl⟩ := encode_result encoded
      exact .result id portable
    | error error =>
      obtain ⟨same, _⟩ := Prod.mk.inj ((encode_failure chain id error state).symm.trans encoded)
      obtain rfl := Except.ok.inj same
      exact .failure id error
  | unreadable id reason => cases encoded

/-! ## What messages hold -/

namespace Dispatch

/-- The ticket of a message that was sent. -/
def ticket? (dispatch : Dispatch) : Option Ticket := dispatch.sent.toOption

theorem ticket?_eq_some {dispatch : Dispatch} {ticket : Ticket} :
    dispatch.ticket? = some ticket ↔ dispatch.sent = .ok ticket := by
  unfold ticket?
  cases dispatch.sent <;> simp [Except.toOption]

/-- Whether a message still holds its call, given how the receiver of the peer has ended with the
messages so far: it could not be sent, or it has not been accepted. -/
def Holds (ended : List Receipt) (dispatch : Dispatch) : Prop :=
  match dispatch.sent with
  | .error _ => True
  | .ok ticket => ended[ticket]? ≠ some .accepted

instance (ended : List Receipt) (dispatch : Dispatch) : Decidable (dispatch.Holds ended) := by
  unfold Holds
  cases dispatch.sent <;> infer_instance

variable {ended : List Receipt}

/-- A message holds its call as before, unless it is the one that is accepted. -/
theorem holds_append {dispatch : Dispatch} {receipt : Receipt}
    (other : dispatch.sent ≠ .ok ended.length ∨ receipt ≠ .accepted) :
    dispatch.Holds (ended ++ [receipt]) ↔ dispatch.Holds ended := by
  unfold Holds
  cases sent : dispatch.sent with
  | error error => exact Iff.rfl
  | ok ticket =>
    simp only [sent] at other ⊢
    rcases Nat.lt_trichotomy ticket ended.length with known | rfl | beyond
    · rw [List.getElem?_append_left known]
    · simpa using other
    · have bound : (ended ++ [receipt]).length ≤ ticket := by
        rw [List.length_append]
        exact beyond
      rw [List.getElem?_eq_none bound, List.getElem?_eq_none (Nat.le_of_lt beyond)]

/-- The calls that messages of one kind hold. -/
def held (part : Errand → Option UInt64) (ended : List Receipt) (dispatches : List Dispatch) :
    List UInt64 :=
  (dispatches.filter fun dispatch => dispatch.Holds ended).filterMap fun dispatch =>
    part dispatch.errand

variable (part : Errand → Option UInt64) (id : UInt64)

theorem held_append (first second : List Dispatch) :
    held part ended (first ++ second) = held part ended first ++ held part ended second := by
  simp [held]

theorem held_singleton {dispatch : Dispatch} (holds : dispatch.Holds ended) :
    held part ended [dispatch] = (part dispatch.errand).toList := by
  cases named : part dispatch.errand <;> simp [held, holds, named]

theorem held_singleton_eq_nil {dispatch : Dispatch} (released : ¬ dispatch.Holds ended) :
    held part ended [dispatch] = [] := by
  simp [held, released]

/-- What a message holds no longer counts when the message is taken away. -/
theorem count_held_eraseIdx {dispatches : List Dispatch} {place : Nat} {dispatch : Dispatch}
    (found : dispatches[place]? = some dispatch) :
    (held part ended dispatches).count id =
      (held part ended [dispatch]).count id +
        (held part ended (dispatches.eraseIdx place)).count id := by
  obtain ⟨bound, rfl⟩ := List.getElem?_eq_some_iff.mp found
  have perm := List.getElem_cons_eraseIdx_perm bound
  have same := ((perm.filter fun dispatch => dispatch.Holds ended).filterMap fun dispatch =>
    part dispatch.errand).count_eq id
  rw [← List.count_append, ← held_append]
  exact same.symm

/-- A message that is not accepted changes nothing of what messages hold. -/
theorem held_refused {receipt : Receipt} (refused : receipt ≠ .accepted)
    (dispatches : List Dispatch) :
    held part (ended ++ [receipt]) dispatches = held part ended dispatches := by
  unfold held
  congr 2
  funext dispatch
  exact decide_eq_decide.mpr (holds_append (.inr refused))

/-- No other task waits for the message of a ticket. -/
theorem alone_of_tickets {dispatches : List Dispatch} {dispatch : Dispatch} {ticket : Ticket}
    (tickets : (dispatches.filterMap ticket?).Nodup) (listed : dispatch ∈ dispatches)
    (sent : dispatch.sent = .ok ticket) :
    ∃ before behind, dispatches = before ++ dispatch :: behind ∧
      ∀ other ∈ before ++ behind, other.sent ≠ .ok ticket := by
  obtain ⟨before, behind, rfl⟩ := List.append_of_mem listed
  refine ⟨before, behind, rfl, fun other elsewhere same => ?_⟩
  have once := List.perm_middle.filterMap ticket? |>.nodup_iff.mp tickets
  rw [List.filterMap_cons_some (ticket?_eq_some.mpr sent), List.nodup_cons] at once
  exact once.1 (List.mem_filterMap.mpr ⟨other, elsewhere, ticket?_eq_some.mpr same⟩)

/-- A message that is accepted lets go of its call. -/
theorem count_held_accepted {dispatches : List Dispatch} {dispatch : Dispatch}
    (tickets : (dispatches.filterMap ticket?).Nodup) (listed : dispatch ∈ dispatches)
    (sent : dispatch.sent = .ok ended.length) :
    (held part ended dispatches).count id =
      (part dispatch.errand).toList.count id +
        (held part (ended ++ [.accepted]) dispatches).count id := by
  obtain ⟨before, behind, rfl, others⟩ := alone_of_tickets tickets listed sent
  have same : ∀ list : List Dispatch, (∀ other ∈ list, other.sent ≠ .ok ended.length) →
      held part (ended ++ [.accepted]) list = held part ended list := by
    intro list apart
    unfold held
    congr 1
    exact List.filter_congr fun other elsewhere =>
      decide_eq_decide.mpr (holds_append (.inl (apart other elsewhere)))
  have holds : dispatch.Holds ended := by simp [Holds, sent]
  have released : ¬ dispatch.Holds (ended ++ [.accepted]) := by simp [Holds, sent]
  have whole : ∀ seen, held part seen (before ++ dispatch :: behind) =
      held part seen before ++ (held part seen [dispatch] ++ held part seen behind) := by
    intro seen
    rw [← held_append, ← held_append, List.singleton_append]
  rw [whole, whole, same before fun other elsewhere =>
    others other (List.mem_append_left _ elsewhere),
    same behind fun other elsewhere => others other (List.mem_append_right _ elsewhere),
    held_singleton part holds, held_singleton_eq_nil part released]
  simp only [List.count_append, List.count_nil]
  omega

end Dispatch

/-! ## Speakers -/

namespace Speaker

variable {τ : Type} (speaker : Speaker τ)

/-- The ids of the pending calls. -/
def pending : List UInt64 := speaker.desk.channel.calls.busyIds

/-- Who waits for the pending calls. -/
def callers : List Ticket := speaker.desk.channel.calls.pending.map (·.caller)

/-- The calls that the messages of calls hold. -/
def calling (ended : List Receipt) : List UInt64 :=
  Dispatch.held Errand.callId? ended speaker.dispatches

/-- The calls of the peer for which a return is owed: they are jobs, or the message of their return
holds them, or their return has been given up. -/
def owing (ended : List Receipt) : List UInt64 :=
  speaker.jobs.map CallRequest.callId ++ Dispatch.held Errand.replyId? ended speaker.dispatches ++
    speaker.givenUp.map Prod.fst

theorem pending_desk {speaker : Speaker τ} {desk : Desk τ}
    (kept : desk.standing = speaker.desk.standing) :
    ({ speaker with desk } : Speaker τ).pending = speaker.pending :=
  congrArg (fun standing : CallTable × Bool => standing.1.busyIds) kept

theorem calling_refused {receipt : Receipt} (refused : receipt ≠ .accepted) (ended : List Receipt) :
    speaker.calling (ended ++ [receipt]) = speaker.calling ended :=
  Dispatch.held_refused _ refused _

theorem owing_refused {receipt : Receipt} (refused : receipt ≠ .accepted) (ended : List Receipt) :
    speaker.owing (ended ++ [receipt]) = speaker.owing ended := by
  rw [owing, owing, Dispatch.held_refused _ refused]

section Accepted

variable {speaker : Speaker τ} {ended : List Receipt} {dispatch : Dispatch}

theorem count_calling_accepted (tickets : (speaker.dispatches.filterMap Dispatch.ticket?).Nodup)
    (listed : dispatch ∈ speaker.dispatches) (sent : dispatch.sent = .ok ended.length)
    (id : UInt64) :
    (speaker.calling ended).count id =
      dispatch.errand.callId?.toList.count id + (speaker.calling (ended ++ [.accepted])).count id :=
  Dispatch.count_held_accepted _ id tickets listed sent

theorem count_owing_accepted (tickets : (speaker.dispatches.filterMap Dispatch.ticket?).Nodup)
    (listed : dispatch ∈ speaker.dispatches) (sent : dispatch.sent = .ok ended.length)
    (id : UInt64) :
    (speaker.owing ended).count id =
      dispatch.errand.replyId?.toList.count id +
        (speaker.owing (ended ++ [.accepted])).count id := by
  have accepted := Dispatch.count_held_accepted Errand.replyId? id tickets listed sent
  simp only [owing, List.count_append]
  omega

end Accepted

/-- A call that is not pending cannot be completed.  A pending one leaves the table, and its caller
is told. -/
theorem change_completeCall_cases {speaker : Speaker τ} (distinct : speaker.pending.Nodup)
    (id : UInt64) (result : PendingCall → CallResult) :
    id ∉ speaker.pending ∧
        speaker.change (speaker.desk.channel.completeCall id result) = speaker ∨
      ∃ call desk,
        speaker.change (speaker.desk.channel.completeCall id result) =
          { speaker with
            desk
            completed := speaker.completed ++ [(call.caller, result call)] } ∧
        call.id = id ∧ desk.channel.terminated = speaker.desk.channel.terminated ∧
        speaker.desk.channel.calls.pending.Perm (call :: desk.channel.calls.pending) := by
  unfold Channel.completeCall
  rcases CallTable.finish_cases distinct id with ⟨absent, same⟩ | ⟨call, after, named, found, perm⟩
  · refine .inl ⟨absent, ?_⟩
    rw [same]
    rfl
  · refine .inr ⟨call, ⟨{ speaker.desk.channel with calls := after }, speaker.desk.kept⟩, ?_, named,
      rfl, perm⟩
    rw [found]
    rfl

/-- What a speaker makes of a message that is on an errand. -/
inductive Hears (speaker : Speaker τ) : Errand → Speaker τ → Prop
  /-- The message cannot be read; that does not happen to errors. -/
  | refused (errand : Errand) (desk : Desk τ) (reason : String)
      (kept : desk.standing = speaker.desk.standing)
      (readable : ∀ id, errand ≠ .reply id true) :
      Hears speaker errand { speaker with desk, verdict := some (.refused reason) }
  | called (request : CallRequest) (desk : Desk τ) (kept : desk.standing = speaker.desk.standing) :
      Hears speaker (.call request.callId)
        { speaker with desk, verdict := some .accepted, jobs := speaker.jobs ++ [request] }
  | answered (id : UInt64) (failed : Bool) (desk : Desk τ)
      (kept : desk.standing = speaker.desk.standing) (result : PendingCall → CallResult) :
      Hears speaker (.reply id failed)
        ({ speaker with desk, verdict := some .accepted }.change
          (desk.channel.completeCall id result))

theorem hears_hear {errand : Errand} {bytes : Bytes} (carried : errand.CarriedBy bytes) :
    speaker.Hears errand (speaker.hear bytes) := by
  have kept := (Desk.keeps_chain speaker.further).decode bytes speaker.desk
  unfold hear
  rcases read : (ChannelMessage.decode (Desk.chain speaker.further) bytes).run speaker.desk with
    ⟨fault | message, desk⟩
  · rw [read] at kept
    refine .refused errand desk fault.message kept ?_
    rintro id rfl
    cases carried with
    | failure id error =>
      have always := ChannelMessage.decode_failure (Desk.chain speaker.further) id error
        speaker.desk
      rw [read] at always
      cases (Prod.mk.inj always).1
  · rw [read] at kept
    have answered : ∀ id failed, ((∃ outcome, message = .reply id outcome) ∨
        ∃ reason, message = .unreadable id reason) → speaker.Hears (.reply id failed)
          ({ speaker with desk, verdict := some .accepted }.change
            (desk.channel.receive message)) := by
      rintro id failed (⟨outcome, rfl⟩ | ⟨reason, rfl⟩)
      · exact .answered id failed desk kept _
      · exact .answered id failed desk kept _
    cases carried with
    | call id instanceId signature arguments =>
      obtain ⟨request, rfl, rfl⟩ := ChannelMessage.decode_call read
      exact .called request desk kept
    | result id portable => exact answered id false (ChannelMessage.decode_return read)
    | failure id error => exact answered id true (ChannelMessage.decode_return read)

end Speaker

end Courier
