import Courier.Proofs.Pipe.Reliance
import Courier.Proofs.Rpc.Accounts

/-!
# Dialogues are kept in order

What holds of each side of a dialogue at any time: the callers that have been told and
those that wait are all the callers, a task waits for each message of which the pipe has
not reported, and each such message is on the wire for what the task believes.  All that
is asked of the pipes is that they can be relied on, whatever happens to the streams.
-/

namespace Courier

set_option autoImplicit false

/-- What concerns a speaker of its pipe, for which time does not go back. -/
structure Party.Precedes (before after : Party) : Prop where
  accepted : after.accepted = before.accepted
  reports : before.reports <+: after.reports
  settings : after.pipe.settings = before.pipe.settings

theorem Party.Moves.precedes {before after : Party} (moves : before.Moves after) :
    before.Precedes after :=
  ⟨moves.accepted, moves.reports, moves.settings⟩

/-- Why a pipe may not take a message: too many are in flight, or the message could not be written,
which does not happen to errors. -/
inductive Party.Refuses (party : Party) (errand : Errand) : PipeError → Prop
  | full : Refuses party errand (.tooManyInFlight party.pipe.settings.inFlightLimit)
  | unwritten (reason : String) (writable : ∀ id, errand ≠ .reply id true) :
      Refuses party errand (.marshal reason)

/-! ## One side -/

namespace Speaker

variable {τ : Type} {speaker : Speaker τ} {party : Party} {ended : List Receipt}

/-- What holds at a speaker with a pipe, when the receiver of the peer has ended in these ways with
the messages so far. -/
structure Orderly (speaker : Speaker τ) (party : Party) (ended : List Receipt) : Prop where
  isOpen : speaker.desk.channel.terminated = false
  distinct : speaker.pending.Nodup
  callers : (speaker.completed.map Prod.fst ++ speaker.callers).Perm (List.range speaker.started)
  /-- A task waits for each message of which nothing is reported. -/
  awaited : ∀ ticket : Nat, ticket ∉ party.reports.map Prod.fst →
    ticket < party.accepted.length → ∃ dispatch ∈ speaker.dispatches, dispatch.sent = .ok ticket
  tickets : (speaker.dispatches.filterMap Dispatch.ticket?).Nodup
  carried : ∀ dispatch ∈ speaker.dispatches, ∀ ticket, dispatch.sent = .ok ticket →
    ∃ bytes, party.accepted[ticket]? = some bytes ∧ dispatch.errand.CarriedBy bytes
  refused : ∀ dispatch ∈ speaker.dispatches, ∀ error, dispatch.sent = .error error →
    party.Refuses dispatch.errand error
  /-- An error that the peer is answered is always accepted. -/
  heard : ∀ dispatch ∈ speaker.dispatches, ∀ id ticket receipt, dispatch.errand = .reply id true →
    dispatch.sent = .ok ticket → ended[ticket]? = some receipt → receipt = .accepted
  givenUp : ∀ entry ∈ speaker.givenUp,
    entry.2 = .tooManyInFlight party.pipe.settings.inFlightLimit

/-- What happens at the pipe without a message being sent. -/
theorem Orderly.precedes {after : Party} (orderly : speaker.Orderly party ended)
    (precedes : party.Precedes after) : speaker.Orderly after ended where
  isOpen := orderly.isOpen
  distinct := orderly.distinct
  callers := orderly.callers
  awaited ticket unreported bound :=
    orderly.awaited ticket
      (fun told => unreported ((precedes.reports.map Prod.fst).subset told))
      (precedes.accepted ▸ bound)
  tickets := orderly.tickets
  carried := by
    rw [precedes.accepted]
    exact orderly.carried
  refused dispatch listed error sent := by
    have limit := precedes.settings
    cases orderly.refused dispatch listed error sent with
    | full =>
      rw [← limit]
      exact .full
    | unwritten reason writable => exact .unwritten reason writable
  heard := orderly.heard
  givenUp := by
    rw [precedes.settings]
    exact orderly.givenUp

/-- Another desk with the same table of calls. -/
theorem Orderly.desk (orderly : speaker.Orderly party ended) {desk : Desk τ}
    (kept : desk.standing = speaker.desk.standing) :
    ({ speaker with desk } : Speaker τ).Orderly party ended := by
  obtain ⟨calls, terminated⟩ := Prod.mk.inj kept
  exact { orderly with
    isOpen := terminated.trans orderly.isOpen
    distinct := by
      rw [pending, calls]
      exact orderly.distinct
    callers := by
      rw [Speaker.callers, calls]
      exact orderly.callers }

/-- A task that has nothing more to learn goes on. -/
theorem Orderly.dismiss (orderly : speaker.Orderly party ended) {place : Nat} {dispatch : Dispatch}
    (found : speaker.dispatches[place]? = some dispatch)
    (known : ∀ ticket, dispatch.sent = .ok ticket → ticket ∈ party.reports.map Prod.fst) :
    (speaker.dismiss place).Orderly party ended := by
  obtain ⟨bound, rfl⟩ := List.getElem?_eq_some_iff.mp found
  have perm := List.getElem_cons_eraseIdx_perm bound
  have among : ∀ other ∈ speaker.dispatches.eraseIdx place, other ∈ speaker.dispatches :=
    fun other listed => List.mem_of_mem_eraseIdx listed
  exact { orderly with
    awaited := by
      intro ticket unreported accepted
      obtain ⟨other, listed, sent⟩ := orderly.awaited ticket unreported accepted
      rcases List.mem_cons.mp (perm.mem_iff.mpr listed) with rfl | elsewhere
      · exact absurd (known ticket sent) unreported
      · exact ⟨other, elsewhere, sent⟩
    tickets := orderly.tickets.sublist ((List.eraseIdx_sublist ..).filterMap _)
    carried := fun other listed => orderly.carried other (among other listed)
    refused := fun other listed => orderly.refused other (among other listed)
    heard := fun other listed => orderly.heard other (among other listed) }

/-- A task waits for a message that the pipe has not taken. -/
theorem Orderly.refuse (orderly : speaker.Orderly party ended) {errand : Errand} {error : PipeError}
    (refuses : party.Refuses errand error) :
    ({ speaker with dispatches := speaker.dispatches ++ [⟨errand, .error error⟩] } :
      Speaker τ).Orderly party ended :=
  { orderly with
    awaited := by
      intro ticket unreported accepted
      obtain ⟨other, listed, sent⟩ := orderly.awaited ticket unreported accepted
      exact ⟨other, List.mem_append_left _ listed, sent⟩
    tickets := by
      have unsent : [Dispatch.mk errand (.error error)].filterMap Dispatch.ticket? = [] := rfl
      rw [List.filterMap_append, unsent, List.append_nil]
      exact orderly.tickets
    carried := by
      intro dispatch listed ticket sent
      rcases List.mem_append.mp listed with before | last
      · exact orderly.carried dispatch before ticket sent
      · obtain rfl := List.mem_singleton.mp last
        cases sent
    refused := by
      intro dispatch listed fault sent
      rcases List.mem_append.mp listed with before | last
      · exact orderly.refused dispatch before fault sent
      · obtain rfl := List.mem_singleton.mp last
        obtain rfl := Except.error.inj sent
        exact refuses
    heard := by
      intro dispatch listed id ticket receipt errand sent
      rcases List.mem_append.mp listed with before | last
      · exact orderly.heard dispatch before id ticket receipt errand sent
      · obtain rfl := List.mem_singleton.mp last
        cases sent }

/-- A task waits for a message that the pipe has taken. -/
theorem Orderly.accept (orderly : speaker.Orderly party ended) {errand : Errand} {bytes : Bytes}
    (carried : errand.CarriedBy bytes) (behind : ended.length ≤ party.accepted.length) :
    ({ speaker with
        dispatches := speaker.dispatches ++ [⟨errand, .ok party.accepted.length⟩] } :
      Speaker τ).Orderly (party.entering bytes) ended :=
  { orderly with
    awaited := by
      intro ticket unreported accepted
      rcases Nat.lt_or_ge ticket party.accepted.length with before | last
      · obtain ⟨other, listed, sent⟩ := orderly.awaited ticket unreported before
        exact ⟨other, List.mem_append_left _ listed, sent⟩
      · have newest : ticket = party.accepted.length := by
          simp only [Party.entering, List.length_append, List.length_singleton] at accepted
          omega
        exact ⟨_, List.mem_append_right _ (List.mem_singleton_self _), congrArg _ newest.symm⟩
    tickets := by
      rw [List.filterMap_append]
      refine List.nodup_append.mpr ⟨orderly.tickets, List.nodup_singleton _, ?_⟩
      rintro ticket known _ last rfl
      obtain rfl := List.mem_singleton.mp last
      obtain ⟨other, listed, sent⟩ := List.mem_filterMap.mp known
      obtain ⟨_, accepted, _⟩ := orderly.carried other listed _ (Dispatch.ticket?_eq_some.mp sent)
      exact absurd (List.getElem?_eq_some_iff.mp accepted).1 (Nat.lt_irrefl _)
    carried := by
      intro dispatch listed ticket sent
      rcases List.mem_append.mp listed with before | last
      · obtain ⟨bytes, accepted, carried⟩ := orderly.carried dispatch before ticket sent
        refine ⟨bytes, ?_, carried⟩
        exact (List.getElem?_append_left (List.getElem?_eq_some_iff.mp accepted).1).trans accepted
      · obtain rfl := List.mem_singleton.mp last
        obtain rfl := Except.ok.inj sent
        exact ⟨bytes, by simp [Party.entering], carried⟩
    refused := by
      intro dispatch listed error sent
      rcases List.mem_append.mp listed with before | last
      · cases orderly.refused dispatch before error sent with
        | full => exact .full
        | unwritten reason writable => exact .unwritten reason writable
      · obtain rfl := List.mem_singleton.mp last
        cases sent
    heard := by
      intro dispatch listed id ticket receipt errand sent judged
      rcases List.mem_append.mp listed with before | last
      · exact orderly.heard dispatch before id ticket receipt errand sent judged
      · obtain rfl := List.mem_singleton.mp last
        obtain rfl := Except.ok.inj sent
        exact absurd (List.getElem?_eq_some_iff.mp judged).1 (Nat.not_lt.mpr behind) }

/-- The receiver of the peer is going to end with one more message.  If it refuses it, then no task
waits for an error that was answered with it. -/
theorem Orderly.judge (orderly : speaker.Orderly party ended) {receipt : Receipt}
    (honest : receipt = .accepted ∨ ∀ dispatch ∈ speaker.dispatches, ∀ id,
      dispatch.errand = .reply id true → dispatch.sent ≠ .ok ended.length) :
    speaker.Orderly party (ended ++ [receipt]) :=
  { orderly with
    heard := by
      intro dispatch listed id ticket found errand sent judged
      rcases getElem?_concat_cases judged with before | ⟨rfl, rfl⟩
      · exact orderly.heard dispatch listed id ticket found errand sent before
      · exact honest.resolve_right fun refused => refused dispatch listed id errand sent }

/-- The speaker after a call has been entered in its table. -/
def starting (speaker : Speaker τ) (table : CallTable) : Speaker τ :=
  { speaker with
    started := speaker.started + 1
    desk := { speaker.desk with channel := { speaker.desk.channel with calls := table } } }

/-- A call is entered under an id that no pending call has. -/
theorem Orderly.exists_starting (orderly : speaker.Orderly party ended) (method : Method)
    (callSite : String) (room : speaker.desk.channel.calls.busyIds.length < UInt64.size) :
    ∃ id table,
      speaker.desk.channel.startCall method callSite speaker.started =
        some (id, { speaker.desk.channel with calls := table }) ∧
      table.pending = speaker.desk.channel.calls.pending ++
        [⟨id, method, callSite, speaker.started⟩] ∧
      id ∉ speaker.pending := by
  refine ⟨(speaker.desk.channel.calls.start method callSite speaker.started).1,
    (speaker.desk.channel.calls.start method callSite speaker.started).2, ?_, rfl,
    CallTable.start_not_mem speaker.desk.channel.calls method callSite speaker.started room⟩
  rw [Channel.startCall, if_neg (by simp [orderly.isOpen])]

theorem Orderly.enter (orderly : speaker.Orderly party ended) {table : CallTable}
    {call : PendingCall} (entered : table.pending = speaker.desk.channel.calls.pending ++ [call])
    (caller : call.caller = speaker.started) (fresh : call.id ∉ speaker.pending) :
    (speaker.starting table).Orderly party ended :=
  { orderly with
    isOpen := orderly.isOpen
    distinct := by
      rw [Speaker.pending, starting, CallTable.busyIds, entered, List.map_append]
      refine List.nodup_append.mpr ⟨orderly.distinct, List.nodup_singleton _, ?_⟩
      rintro id known _ last rfl
      obtain rfl := List.mem_singleton.mp last
      exact fresh known
    callers := by
      rw [Speaker.callers, starting, entered, List.map_append, List.map_singleton, caller,
        ← List.append_assoc, List.range_succ]
      exact orderly.callers.append_right _ }

/-- A caller is told its result. -/
theorem Orderly.complete (orderly : speaker.Orderly party ended) (id : UInt64)
    (result : PendingCall → CallResult) :
    (speaker.change (speaker.desk.channel.completeCall id result)).Orderly party ended := by
  rcases change_completeCall_cases orderly.distinct id result with
    ⟨_, same⟩ | ⟨call, desk, changed, _, terminated, perm⟩
  · rw [same]
    exact orderly
  · rw [changed]
    exact { orderly with
      isOpen := terminated.trans orderly.isOpen
      distinct := by
        have distinct := (perm.map PendingCall.id).nodup_iff.mp orderly.distinct
        exact (List.nodup_cons.mp distinct).2
      callers := by
        refine List.Perm.trans ?_ orderly.callers
        simp only [List.map_append, List.map_cons, List.map_nil, List.append_assoc]
        exact (perm.map PendingCall.caller).symm.append_left _ }

end Speaker

/-! ## Both sides -/

namespace Dialogue

variable {τ : Type} {dialogue : Dialogue τ} {side : Side}

@[simp] theorem speaker_setSpeaker_self (speaker : Speaker τ) :
    (dialogue.setSpeaker side speaker).speaker side = speaker := by
  simp [setSpeaker]

@[simp] theorem speaker_setSpeaker_other (speaker : Speaker τ) :
    (dialogue.setSpeaker side speaker).speaker side.other = dialogue.speaker side.other := by
  simp [setSpeaker, Side.other_ne]

@[simp] theorem pair_setSpeaker (speaker : Speaker τ) :
    (dialogue.setSpeaker side speaker).pair = dialogue.pair := rfl

@[simp] theorem setSpeaker_setSpeaker (first second : Speaker τ) :
    (dialogue.setSpeaker side first).setSpeaker side second = dialogue.setSpeaker side second := by
  simp [setSpeaker]

/-- How the receiver of a side has ended with the messages so far, and how it will end with the one
that it is at. -/
def ended (dialogue : Dialogue τ) (side : Side) : List Receipt :=
  (dialogue.pair.party side).receipts ++ (dialogue.speaker side).verdict.toList

/-- What holds of a dialogue as long as its pipes can be relied on. -/
structure Orderly (dialogue : Dialogue τ) : Prop where
  reliable : dialogue.pair.Reliable
  judged : ∀ side,
    (dialogue.speaker side).verdict.isSome = (dialogue.pair.party side).busy.isSome
  speaker : ∀ side, (dialogue.speaker side).Orderly (dialogue.pair.party side)
    (dialogue.ended side.other)

/-- Something happens at one side.  The other notices it at most by how the receiver ends with its
messages. -/
theorem Orderly.change (orderly : dialogue.Orderly) {after : Pair} (speaker : Speaker τ)
    (reliable : after.Reliable) (peer : after.party side.other = dialogue.pair.party side.other)
    (judged : speaker.verdict.isSome = (after.party side).busy.isSome)
    (own : speaker.Orderly (after.party side) (dialogue.ended side.other))
    (other : (dialogue.speaker side.other).Orderly (dialogue.pair.party side.other)
      ((after.party side).receipts ++ speaker.verdict.toList)) :
    ((dialogue.setPair after).setSpeaker side speaker).Orderly where
  reliable := reliable
  judged subject := by
    rcases side.eq_or_eq_other subject with rfl | rfl
    · rw [speaker_setSpeaker_self]
      exact judged
    · rw [speaker_setSpeaker_other, pair_setSpeaker, setPair, peer]
      exact orderly.judged side.other
  speaker subject := by
    rcases side.eq_or_eq_other subject with rfl | rfl
    · have same : ((dialogue.setPair after).setSpeaker subject speaker).ended subject.other =
          dialogue.ended subject.other := by
        rw [ended, speaker_setSpeaker_other, pair_setSpeaker, setPair, peer]
        rfl
      rw [speaker_setSpeaker_self, same]
      exact own
    · rw [speaker_setSpeaker_other, pair_setSpeaker, Side.other_other, ended,
        speaker_setSpeaker_self, pair_setSpeaker, setPair, peer]
      exact other

theorem ended_setPair {after : Pair} (moves : ∀ side, (dialogue.pair.party side).Moves
    (after.party side)) (side : Side) : (dialogue.setPair after).ended side = dialogue.ended side :=
  congrArg (· ++ _) (moves side).receipts

/-- Something happens on the streams alone. -/
theorem Orderly.setPair (orderly : dialogue.Orderly) {after : Pair} (reliable : after.Reliable)
    (moves : ∀ side, (dialogue.pair.party side).Moves (after.party side)) :
    (dialogue.setPair after).Orderly where
  reliable := reliable
  judged side := (orderly.judged side).trans (congrArg Option.isSome (moves side).busy.symm)
  speaker side := by
    rw [ended_setPair moves]
    exact (orderly.speaker side).precedes (moves side).precedes

/-- Something happens at a channel alone. -/
theorem Orderly.setSpeaker (orderly : dialogue.Orderly) (speaker : Speaker τ)
    (verdict : speaker.verdict = (dialogue.speaker side).verdict)
    (own : speaker.Orderly (dialogue.pair.party side) (dialogue.ended side.other)) :
    (dialogue.setSpeaker side speaker).Orderly := by
  refine orderly.change speaker orderly.reliable rfl ?_ own ?_
  · rw [verdict]
    exact orderly.judged side
  · rw [verdict]
    have other := orderly.speaker side.other
    rwa [Side.other_other] at other

/-- The receiver has ended, or will end, with each message that was handed to it. -/
theorem Orderly.length_ended (orderly : dialogue.Orderly) (side : Side) :
    (dialogue.ended side).length = (dialogue.pair.party side).handed.length := by
  have judged := orderly.judged side
  rw [ended, List.length_append]
  cases busy : (dialogue.pair.party side).busy with
  | none =>
    rw [busy] at judged
    have none : (dialogue.speaker side).verdict = none := by simpa using judged
    rw [none, orderly.reliable.idle side busy]
    rfl
  | some id =>
    rw [busy] at judged
    obtain ⟨receipt, found⟩ := Option.isSome_iff_exists.mp judged
    rw [found, ← orderly.reliable.engaged side id busy]
    rfl

/-- No message that has been handed over is yet to be sent. -/
theorem Orderly.ended_le (orderly : dialogue.Orderly) (side : Side) :
    (dialogue.ended side.other).length ≤ (dialogue.pair.party side).accepted.length := by
  have inOrder := (orderly.reliable.inOrder side).length_le
  rw [List.length_append] at inOrder
  rw [orderly.length_ended]
  omega

/-! ### Messages are sent -/

/-- What becomes of a message for an errand that is given to a pipe: it is refused, or it is entered
under the next ticket. -/
inductive Submits (pair : Pair) (side : Side) (errand : Errand) :
    Except PipeError Ticket → Pair → Prop
  | refused (error : PipeError) (refuses : (pair.party side).Refuses errand error) :
      Submits pair side errand (.error error) pair
  | accepted (bytes : Bytes) (carried : errand.CarriedBy bytes) {after : Pair}
      {sending receiving : Course}
      (entered : pair.Becomes side after ((pair.party side).entering bytes) sending receiving) :
      Submits pair side errand (.ok (pair.party side).accepted.length) after

/-- Sending a message leaves a task behind, and changes nothing else at the channel. -/
theorem Orderly.post_cases (orderly : dialogue.Orderly) (side : Side)
    (message : ChannelMessage) :
    ∃ desk sent pair,
      dialogue.post side message =
        (dialogue.setPair pair).setSpeaker side { dialogue.speaker side with
          desk
          dispatches := (dialogue.speaker side).dispatches ++ [⟨message.errand, sent⟩] } ∧
      desk.standing = (dialogue.speaker side).desk.standing ∧
      Submits dialogue.pair side message.errand sent pair := by
  have kept := (Desk.keeps_chain (dialogue.speaker side).further).encode message
    (dialogue.speaker side).desk
  unfold post
  rcases written : (message.encode (Desk.chain (dialogue.speaker side).further)).run
    (dialogue.speaker side).desk with ⟨fault | bytes, desk⟩
  · rw [written] at kept
    simp only [written]
    refine ⟨desk, _, _, rfl, kept, .refused _ (.unwritten _ ?_)⟩
    intro id failure
    cases message with
    | call request => cases failure
    | unreadable other reason => cases failure
    | reply other outcome =>
      cases outcome with
      | ok value => cases failure
      | error error => cases written
  · rw [written] at kept
    simp only [written]
    refine ⟨desk, _, _, rfl, kept, ?_⟩
    rcases dialogue.pair.send_cases side bytes (orderly.reliable.regular side).sent with
      ⟨error, reason, refused, same⟩ | ⟨_, _, accepted, _, _, entered⟩
    · simp only [Pair.submit, refused, same]
      obtain rfl : error = _ := reason.resolve_right (by simp [orderly.reliable.isOpen side])
      exact .refused _ .full
    · simp only [Pair.submit, accepted]
      exact .accepted bytes (ChannelMessage.carriedBy_of_encode written) entered

theorem Orderly.post (orderly : dialogue.Orderly) (side : Side) (message : ChannelMessage)
    (reliable : (dialogue.post side message).pair.Reliable) :
    (dialogue.post side message).Orderly := by
  obtain ⟨desk, sent, pair, posted, kept, submits⟩ := orderly.post_cases side message
  have own := (orderly.speaker side).desk kept
  have other := orderly.speaker side.other
  rw [Side.other_other] at other
  rw [posted] at reliable ⊢
  cases submits with
  | refused error refuses =>
    exact orderly.change _ reliable rfl (orderly.judged side) (own.refuse refuses) other
  | accepted bytes carried entered =>
    have party := entered.own
    refine orderly.change _ reliable entered.peer ?_ ?_ ?_
    · rw [party]
      exact orderly.judged side
    · rw [party]
      exact own.accept carried (orderly.ended_le side)
    · rw [party]
      exact other

end Dialogue

end Courier
