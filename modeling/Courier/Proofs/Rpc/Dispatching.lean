import Courier.Proofs.Rpc.History
import Courier.Proofs.Rpc.Upkeep

/-!
# Remote calls are local dispatches

What a caller is told of a call is what comes of calling the object that the peer finds
under the id, on the arguments as the peer has received them.  A result is read by the
caller as the peer has written it.  Of an error the caller is told the kind and the
message as they are, and the trace without the frames of the machinery, with a frame for
the object that failed and one for the place of the call (`Order.failure`).

The call is run once at most, and it is answered unless the peer has too many messages in
flight to do so.  None of this depends on the streams, which may be lost and replaced
while the call is underway.
-/

namespace Courier

set_option autoImplicit false

variable {τ η : Type}

/-! ## What a caller is told of an error -/

/-- What the caller is told of an error of the peer.  `label?` is the label of the object that
failed, if there was an object. -/
def Order.failure (order : Order τ) (label? : Option String) (error : RemoteError) : CallError :=
  let signature := order.method.signature.describe
  let seen : RemoteError := { error with
    trace := (error.trace.filter fun frame => frame.origin ≠ FrameOrigin.internal) ++
      (label?.toList.map fun label => ⟨s!"{label}: {signature}", .remote⟩) ++
      [⟨s!"{signature} called at {order.callSite}", .caller⟩] }
  if error.kind ∈ order.method.throws then .remote seen else .undeclared signature seen

theorem Order.ofRemoteError_dispatch (order : Order τ) (label : String) (error : RemoteError) :
    CallError.ofRemoteError order.method order.callSite
        ((error.push s!"{label}: {order.method.signature.describe}" .remote).push
          RemoteError.dispatchFrame .internal) =
      order.failure (some label) error := by
  simp [CallError.ofRemoteError, RemoteError.spliced, RemoteError.push, Order.failure,
    Method.declares]

theorem Order.ofRemoteError_internal (order : Order τ) (error : RemoteError) :
    CallError.ofRemoteError order.method order.callSite
        (error.push RemoteError.dispatchFrame .internal) = order.failure none error := by
  simp [CallError.ofRemoteError, RemoteError.spliced, RemoteError.push, Order.failure,
    Method.declares]

/-! ## What has been read -/

/-- What is received is determined by the desks and the values. -/
theorem Desk.Conveys.unique {sender receiver : Desk τ} {values received received' : List Value}
    (first : sender.Conveys receiver values received)
    (second : sender.Conveys receiver values received') : received = received' := by
  obtain ⟨texts, _, _, written, read⟩ := first
  obtain ⟨texts', _, _, written', read'⟩ := second
  obtain rfl := Except.ok.inj (Prod.mk.inj (written.symm.trans written')).1
  exact Except.ok.inj (Prod.mk.inj (read.symm.trans read')).1

namespace Hosting

variable {objects : Side → Nat → ServiceObject η} {handlers : Side → η → Arguments → Ending → Prop}
  {hosting : Hosting τ} {side : Side}
  {opening : Opening τ} {order : Order τ} {reply : Reply τ} {number : Ticket} {desk : Desk τ}
  {read : Except MarshalError ChannelMessage}

/-- What is read of a message is read of the bytes that were written of it. -/
theorem Heard.of_posts {sender after : Desk τ} {message : ChannelMessage} {bytes : Bytes}
    (heard : hosting.Heard side.other number desk read)
    (posts : hosting.dialogue.Posts side sender message (.ok number))
    (written : (message.encode (Desk.chain [])).run sender = (.ok bytes, after)) :
    ∃ left, (ChannelMessage.decode (Desk.chain []) bytes).run desk = (read, left) := by
  obtain ⟨bytes', left, accepted, decoded⟩ := heard.read
  rw [Side.other_other] at accepted
  cases posts with
  | sent written' accepted' =>
    obtain rfl := Option.some.inj (accepted.symm.trans accepted')
    obtain rfl := Except.ok.inj (Prod.mk.inj (written'.symm.trans written)).1
    exact ⟨left, decoded⟩

/-- A call is received as it was ordered. -/
theorem Ordering.received (ordering : hosting.Ordering side)
    (listed : order ∈ (hosting.journal side).orders)
    (arguments : ∀ value ∈ order.values, value.Conveyable) (sent : order.sent = .ok number)
    (heard : hosting.Heard side.other number desk read) :
    ∃ id received, read = .ok (.call ⟨id, order.instanceId, order.method.signature, received⟩) ∧
      order.desk.Conveys desk order.values received := by
  obtain ⟨sound, id, posts⟩ := ordering.posted order listed
  obtain ⟨bytes, after, written, readable⟩ :=
    @Desk.conveys_call _ _ ⟨id, order.instanceId, order.method.signature, order.values⟩ arguments
      sound
  obtain ⟨received, last, decoded, conveys⟩ := readable desk heard.sound
  obtain ⟨left, again⟩ := heard.of_posts (sent ▸ posts) written
  exact ⟨id, received, (Prod.mk.inj (again.symm.trans decoded)).1, conveys⟩

/-- A call whose arguments can be conveyed is sent, unless too many messages are in flight. -/
theorem Ordering.exists_sent (ordering : hosting.Ordering side)
    (listed : order ∈ (hosting.journal side).orders)
    (arguments : ∀ value ∈ order.values, value.Conveyable)
    (room : ∀ limit, order.sent ≠ .error (.tooManyInFlight limit)) :
    ∃ number, order.sent = .ok number := by
  obtain ⟨sound, id, posts⟩ := ordering.posted order listed
  obtain ⟨bytes, after, written, _⟩ :=
    @Desk.conveys_call _ _ ⟨id, order.instanceId, order.method.signature, order.values⟩ arguments
      sound
  cases sent : order.sent with
  | ok number => exact ⟨number, rfl⟩
  | error error =>
    rw [sent] at posts
    cases posts with
    | full => exact absurd sent (room _)
    | unwritten failed => cases failed.symm.trans written

/-- A result is received as it was given. -/
theorem Replying.received (replying : hosting.Replying side.other)
    (listed : reply ∈ (hosting.journal side.other).replies) (sent : reply.sent = .ok number)
    (heard : hosting.Heard side number desk read) {value : Value}
    (result : reply.outcome = .ok value) (conveyable : value.Conveyable) :
    ∃ received, read = .ok (.reply reply.callId (.ok received)) ∧
      reply.desk.Conveys desk [value] [received] := by
  obtain ⟨sound, posts⟩ := replying reply listed
  obtain ⟨bytes, after, written, readable⟩ := Desk.conveys_result conveyable sound reply.callId
  obtain ⟨received, last, decoded, conveys⟩ := readable desk heard.sound
  rw [sent, result] at posts
  rw [← side.other_other] at heard
  obtain ⟨left, again⟩ := heard.of_posts posts written
  exact ⟨received, (Prod.mk.inj (again.symm.trans decoded)).1, conveys⟩

/-- An error is received as it was given. -/
theorem Replying.received_error (replying : hosting.Replying side.other)
    (listed : reply ∈ (hosting.journal side.other).replies) (sent : reply.sent = .ok number)
    (heard : hosting.Heard side number desk read) {error : RemoteError}
    (failed : reply.outcome = .error error) : read = .ok (.reply reply.callId (.error error)) := by
  obtain ⟨_, posts⟩ := replying reply listed
  rw [sent, failed] at posts
  rw [← side.other_other] at heard
  obtain ⟨left, again⟩ := heard.of_posts posts (ChannelMessage.encode_failure ..)
  exact (Prod.mk.inj (again.symm.trans (ChannelMessage.decode_failure ..))).1

/-! ## What comes of a call -/

/-- A result of a call is what came of a run of it, at the object that the peer has found under the
id.  `ending` is how the object has ended the call; `there` is the desk at which the peer has
marshaled the answer, and `here` the one at which the caller has read it. -/
structure Dispatched (objects : Nat → ServiceObject η) (handlers : η → Arguments → Ending → Prop)
    (order : Order τ) (run : Run τ) (ending : Option Ending) (there here : Desk τ)
    (result : CallResult) : Prop where
  ends : ∀ found, run.desk.channel.lookup? order.instanceId = some found → ∃ how,
    ending = some how ∧
      (objects found.identity).Ends handlers order.method.signature run.request.arguments how
  value : ∀ received, result = .ok received ↔ ∃ found value,
    run.desk.channel.lookup? order.instanceId = some found ∧ ending = some (.value value) ∧
      there.Conveys here [value] [received]
  failure : ∀ found, run.desk.channel.lookup? order.instanceId = some found →
    ∀ error, ending = some (.failure error) →
      result = .error (order.failure (some (objects found.identity).reference.label) error)
  panic : ∀ found, run.desk.channel.lookup? order.instanceId = some found →
    ∀ words, ending = some (.panic words) →
      result = .error (order.failure (some (objects found.identity).reference.label)
        (.new RemoteError.panic (words.getD Ending.wordless)))
  missing : run.desk.channel.lookup? order.instanceId = none →
    result = .error (order.failure none
      (.new RemoteError.noSuchInstance s!"no instance {order.instanceId}"))

section Outcomes

variable {services : Nat → ServiceObject η} {run : Run τ} {ending : Option Ending}

theorem outcome_of_ending {found : ServiceRef}
    (named : run.desk.channel.lookup? run.request.instanceId = some found) {how : Ending}
    (ends : ending = some how) : run.outcome services ending =
      how.outcome (services found.identity).reference.label run.request.signature := by
  simp only [Run.outcome, named, ends]

theorem outcome_of_none (missing : run.desk.channel.lookup? run.request.instanceId = none) :
    run.outcome services ending = noInstanceOutcome run.request.instanceId := by
  simp only [Run.outcome, missing]

/-- The peer is answered a value just if an object was found and has given it. -/
theorem outcome_eq_ok {value : Value} :
    run.outcome services ending = .ok value ↔ ∃ found,
      run.desk.channel.lookup? run.request.instanceId = some found ∧
        ending = some (.value value) := by
  cases named : run.desk.channel.lookup? run.request.instanceId with
  | none => simp [outcome_of_none named, noInstanceOutcome]
  | some found =>
    cases ending with
    | none => simp [Run.outcome, named, noInstanceOutcome]
    | some how =>
      rw [outcome_of_ending named rfl]
      cases how <;> simp [Ending.outcome, Ending.toExcept]

end Outcomes

section Results

variable {services : Nat → ServiceObject η} {methods : η → Arguments → Ending → Prop} {run : Run τ}
  {ending : Option Ending} {there here : Desk τ} {result : CallResult}

/-- A caller is told what has come of a run if it has received the value that was given, or the
error that was answered. -/
theorem dispatched_of_outcome (target : run.request.instanceId = order.instanceId)
    (signature : run.request.signature = order.method.signature)
    (ends : run.EndsIn services methods ending)
    (given : ∀ value, run.outcome services ending = .ok value →
      ∃ received, result = .ok received ∧ there.Conveys here [value] [received])
    (failed : ∀ error, run.outcome services ending = .error error →
      result = .error (.ofRemoteError order.method order.callSite error)) :
    Dispatched services methods order run ending there here result := by
  obtain ⟨same, known⟩ : run.desk.channel.lookup? order.instanceId =
      run.desk.channel.lookup? run.request.instanceId ∧
        order.method.signature = run.request.signature := ⟨by rw [target], signature.symm⟩
  constructor
  case ends =>
    intro found named
    rw [known]
    exact ends.found found (same ▸ named)
  case value =>
    intro received
    constructor
    · rintro rfl
      cases outcome : run.outcome services ending with
      | error error => cases failed error outcome
      | ok value =>
        obtain ⟨received', read, conveys⟩ := given value outcome
        obtain rfl := Except.ok.inj read
        obtain ⟨found, named, ended⟩ := outcome_eq_ok.mp outcome
        exact ⟨found, value, same ▸ named, ended, conveys⟩
    · rintro ⟨found, value, named, ended, conveys⟩
      obtain ⟨received', rfl, conveys'⟩ :=
        given value (outcome_eq_ok.mpr ⟨found, same ▸ named, ended⟩)
      rw [(List.cons.inj (conveys'.unique conveys)).1]
  case failure =>
    intro found named error ended
    have outcome : run.outcome services ending = _ := outcome_of_ending (same ▸ named) ended
    rw [signature] at outcome
    exact (failed _ outcome).trans (congrArg _ (order.ofRemoteError_dispatch _ error))
  case panic =>
    intro found named words ended
    have outcome : run.outcome services ending = _ := outcome_of_ending (same ▸ named) ended
    rw [signature] at outcome
    exact (failed _ outcome).trans (congrArg _ (order.ofRemoteError_dispatch _ _))
  case missing =>
    intro missing
    have outcome : run.outcome services ending = noInstanceOutcome order.instanceId := by
      rw [outcome_of_none (same ▸ missing), target]
    exact (failed _ outcome).trans (congrArg _ (order.ofRemoteError_internal _))

end Results

/-! ## Runs of calls -/

/-- A run of a call, at the peer, is one of what was ordered, on the arguments as they have been
received. -/
structure Received (hosting : Hosting τ) (side : Side) (order : Order τ) (run : Run τ) : Prop where
  target : run.request.instanceId = order.instanceId
  signature : run.request.signature = order.method.signature
  arguments : ∃ desk, (run.message, desk) ∈ (hosting.journal side.other).heard ∧
    order.desk.Conveys desk order.values run.request.arguments

section Runs

variable {run : Run τ}

/-- What is run has been heard. -/
theorem Working.heard_of_run (working : hosting.Working side)
    (ran : run ∈ (hosting.journal side).runs) :
    ∃ desk, hosting.Heard side run.message desk (.ok (.call run.request)) := by
  rcases List.mem_append.mp (working.runs.mem_iff.mp ran) with goes | past
  · obtain ⟨⟨message, request, desk?⟩, listed, starts⟩ := List.mem_filterMap.mp goes
    obtain ⟨desk, _, rfl⟩ := Option.map_eq_some_iff.mp starts
    exact working.posts _ listed
  · obtain ⟨entry, listed, rfl⟩ := List.mem_map.mp past
    exact working.endings entry listed

/-- No message is run twice. -/
theorem Working.runs_nodup (working : hosting.Working side) :
    ((hosting.journal side).runs.map Run.message).Nodup := by
  -- A job is run at its own place, so the runs of the jobs are in the order of the jobs.
  have posts : ∀ posts : List (Post τ),
      ((posts.filterMap Post.run?).map Run.message).Sublist (posts.map Post.message) := by
    intro posts
    induction posts with
    | nil => exact .slnil
    | cons post posts ih =>
      obtain ⟨message, request, _ | desk⟩ := post
      · exact ih.cons _
      · exact ih.cons_cons _
  rw [(working.runs.map Run.message).nodup_iff, List.map_append, List.map_map]
  exact working.numbers.sublist ((posts _).append_right _)

theorem Traced.received (traced : Traced objects hosting)
    (listed : order ∈ (hosting.journal side).orders)
    (arguments : ∀ value ∈ order.values, value.Conveyable) (sent : order.sent = .ok run.message)
    (ran : run ∈ (hosting.journal side.other).runs) : hosting.Received side order run := by
  obtain ⟨desk, heard⟩ := (traced.faithful side.other).working.heard_of_run ran
  obtain ⟨id, received, same, conveys⟩ :=
    (traced.faithful side).ordering.received listed arguments sent heard
  have request := ChannelMessage.call.inj (Except.ok.inj same)
  exact ⟨by rw [request], by rw [request], desk, heard.listed, by rw [request]; exact conveys⟩

end Runs

/-- How a result of a call has come about: the peer has run the call and has answered it, and the
caller has read the answer. -/
structure Returned (objects : Side → Nat → ServiceObject η)
    (handlers : Side → η → Arguments → Ending → Prop) (hosting : Hosting τ) (side : Side)
    (order : Order τ) (run : Run τ) (ending : Option Ending) (reply : Reply τ) (here : Desk τ)
    (result : CallResult) : Prop where
  ran : run ∈ (hosting.journal side.other).runs
  ended : (run, ending) ∈ (hosting.journal side.other).endings
  replied : reply ∈ (hosting.journal side.other).replies
  heard : ∃ number, reply.sent = .ok number ∧ (number, here) ∈ (hosting.journal side).heard
  dispatched : Dispatched (objects side.other) (handlers side.other) order run ending reply.desk
    here result

/-- A call of a side has a result that came of running it. -/
theorem Explained.returned {result : CallResult}
    (explained : Explained objects hosting side order result) (traced : Traced objects hosting)
    (documented : Documented objects handlers opening hosting side.other)
    (listed : order ∈ (hosting.journal side).orders)
    (arguments : ∀ value ∈ order.values, value.Conveyable) {message : Ticket}
    (sent : order.sent = .ok message)
    (results : ∀ entry ∈ (hosting.journal side.other).endings, entry.1.message = message →
      ∀ value, entry.2 = some (.value value) → value.Conveyable) :
    ∃ run ending reply here, run.message = message ∧
      Returned objects handlers hosting side order run ending reply here result := by
  have own := traced.faithful side
  have peer := traced.faithful side.other
  cases explained with
  | unsent error failed => cases failed.symm.trans sent
  | refused error number receipt posted judged refuses =>
    -- The peer could have read the message at any desk.
    obtain ⟨desk, fault, heard⟩ := peer.hearing.refused number receipt judged refuses
    obtain ⟨_, _, same, _⟩ := own.ordering.received listed arguments posted heard
    cases same
  | answered reply replied number given here read heard result tells =>
    obtain ⟨among, run, ending, ended, posted, gives⟩ := replied
    obtain rfl : run.message = message := Except.ok.inj (posted.symm.trans sent)
    have ran : run ∈ (hosting.journal side.other).runs :=
      peer.working.runs.mem_iff.mpr (List.mem_append_right _ (List.mem_map_of_mem ended))
    have received := traced.received listed arguments sent ran
    have conveyable : ∀ value, run.outcome (objects side.other) ending = .ok value →
        value.Conveyable := by
      intro value outcome
      obtain ⟨_, _, given⟩ := outcome_eq_ok.mp outcome
      exact results _ ended rfl value given
    have whole := gives.of_conveyable conveyable
    refine ⟨run, ending, reply, here, rfl, ran, ended, among, ⟨number, given, heard.listed⟩,
      dispatched_of_outcome received.target received.signature (documented.endings _ ended)
        (fun value outcome => ?_) fun error outcome => ?_⟩
    · obtain ⟨received, same, conveys⟩ := peer.replying.received among given heard
        (whole.trans outcome) (conveyable value outcome)
      obtain rfl := Except.ok.inj same
      cases tells
      exact ⟨received, rfl, conveys⟩
    · obtain rfl := Except.ok.inj
        (peer.replying.received_error among given heard (whole.trans outcome))
      cases tells
      rfl

/-! ## Each call is answered -/

/-- Nothing is left to be done, and the stream in use has lost nothing. -/
structure Finished (hosting : Hosting τ) (stream : StreamId) : Prop where
  quiescent : hosting.dialogue.Quiescent stream
  whole : ∀ side, (hosting.dialogue.pair.lane stream side).whole = true

/-- The caller of a call has a result once nothing is left to be done, unless its return has been
given up.  It never has two. -/
theorem Reachable.exists_unique_result (reachable : Reachable objects handlers opening hosting)
    (kept : hosting.dialogue.pair.Kept) {caller : Ticket}
    (ordered : (hosting.journal side).orders[caller]? = some order) {stream : StreamId}
    (finished : hosting.Finished stream)
    (answered : ∀ call ∈ hosting.pending side, call.caller = caller →
      call.id ∉ (hosting.dialogue.speaker side.other).givenUp.map Prod.fst) :
    ∃! result, (caller, result) ∈ (hosting.dialogue.speaker side).completed := by
  have sound := reachable.sound kept
  have told := Pair.Reachable.toldAll (Dialogue.reachable_of_moves reachable.moves)
    (Dialogue.open_of_moves reachable.moves) kept finished.quiescent.atRest finished.whole
  have callers := (sound.speaker side).callers
  have distinct : ((hosting.dialogue.speaker side).completed.map Prod.fst).Nodup :=
    (List.nodup_append.mp (callers.nodup_iff.mpr List.nodup_range)).1
  have started : caller ∈ List.range (hosting.dialogue.speaker side).started := by
    rw [← ((reachable.traced kept).faithful side).ordering.started, List.mem_range]
    exact (List.getElem?_eq_some_iff.mp ordered).1
  -- All callers have been told or wait, and those that wait have lost their return.
  have listed : caller ∈ (hosting.dialogue.speaker side).completed.map Prod.fst := by
    refine (List.mem_append.mp (callers.mem_iff.mpr started)).resolve_right fun waits => ?_
    obtain ⟨call, pending, same⟩ := List.mem_map.mp waits
    exact answered call pending same
      ((sound.pending_perm finished.quiescent told side).mem_iff.mp (List.mem_map_of_mem pending))
  obtain ⟨⟨_, result⟩, among, rfl⟩ := List.mem_map.mp listed
  refine ⟨result, among, fun other elsewhere => ?_⟩
  exact (Prod.mk.inj (List.inj_on_of_nodup_map distinct elsewhere among rfl)).2

/-- No two calls have one message. -/
theorem Ordering.caller_unique (ordering : hosting.Ordering side) {first second : Nat}
    {order other : Order τ} (listed : (hosting.journal side).orders[first]? = some order)
    (among : (hosting.journal side).orders[second]? = some other) {message : Ticket}
    (sent : order.sent = .ok message) (same : other.sent = .ok message) : second = first := by
  have apart := List.pairwise_iff_getElem.mp (List.pairwise_filterMap.mp ordering.apart)
  obtain ⟨bound, rfl⟩ := List.getElem?_eq_some_iff.mp listed
  obtain ⟨bound', rfl⟩ := List.getElem?_eq_some_iff.mp among
  have number := number?_eq_some.mpr sent
  have number' := number?_eq_some.mpr same
  rcases Nat.lt_trichotomy second first with less | equal | greater
  · exact absurd rfl (apart second first bound' bound less _ number' _ number)
  · exact equal
  · exact absurd rfl (apart first second bound bound' greater _ number _ number')

/-! ## A run -/

/-- Nothing is registered at either side. -/
def home : Opening Unit where
  settings _ := .standard
  number _ := 0
  mark _ _ := 0
  singletons _ := []
  order _ := .byName
  kept _ := ()

def increment : Method := ⟨⟨"i", "increment", ["int"]⟩, []⟩

def adder (_ : Side) (_ : Nat) : ServiceObject Unit :=
  ⟨⟨0, "Adder", ["i"]⟩, [(increment.signature, ())]⟩

/-- The handler adds one to its argument. -/
def adds (_ : Side) (_ : Unit) (arguments : Arguments) (ending : Ending) : Prop :=
  match arguments.int 0 with
  | .ok value => ending = .value (.int (value + 1))
  | .error error => ending = .failure error

/-- All that is in flight arrives at a side. -/
def deliver (hosting : Hosting Unit) (side : Side) : Hosting Unit :=
  hosting.setDialogue (hosting.dialogue.deliver side 1)

theorem deliver_step {hosting : Hosting Unit} (side : Side)
    (readable : (hosting.dialogue.pair.party side).stream?
        (hosting.dialogue.pair.party side).pipe.generation = some 1 ∧
      (hosting.dialogue.pair.party side).reading
          ((hosting.dialogue.pair.lane 1 side.other).inFlight.flatMap Packet.encode) =
        (hosting.dialogue.pair.lane 1 side.other).inFlight) :
    Step adder adds hosting (hosting.deliver side) :=
  .transit (.arrive side _ 1 _ _ [] readable.1 (List.append_nil _).symm fun _ _ => readable.2)

/-- Both sides attach a stream. -/
def attach (hosting : Hosting Unit) (stream : StreamId) : Hosting Unit :=
  let first := hosting.setDialogue
    (hosting.dialogue.setPair (hosting.dialogue.pair.attach .a stream))
  first.setDialogue (first.dialogue.setPair (first.dialogue.pair.attach .b stream))

/-- A call has been sent on a stream and is lost with it. -/
def lost : Hosting Unit :=
  let called := (home.hosting.attach 0).start .a "@adder" increment [.int 7] "main"
  let registered := called.setDialogue (called.dialogue.setSpeaker .b
    { called.dialogue.speaker .b with
      desk := (called.dialogue.speaker .b).desk.register "adder" ⟨0, "Adder", ["i"]⟩ })
  let cut := registered.setDialogue
    (registered.dialogue.setPair (registered.dialogue.pair.cut 0 .a 0))
  let first := cut.setDialogue (cut.dialogue.setPair (cut.dialogue.pair.lose .a 1 none))
  first.setDialogue (first.dialogue.setPair (first.dialogue.pair.lose .b 1 none))

/-- It has arrived on the next stream, and the object is being called. -/
def called : Hosting Unit := (((lost.attach 1).deliver .b).take .b).run .b 0

/-- The object has answered. -/
def ran : Hosting Unit :=
  let finished := called.finish (adder .b) .b 0 (.value (.int 8))
  finished.setDialogue (finished.dialogue.conclude .b)

/-- The result has come back, and nothing is left to be done. -/
def served : Hosting Unit :=
  let told := ((ran.deliver .a).settle .a 0).take .a
  (((told.setDialogue (told.dialogue.conclude .a)).deliver .b).settle .b 0).deliver .a

theorem lost_reachable : Reachable adder adds home lost := by
  have attached : Reachable adder adds home (home.hosting.attach 0) :=
    (Relation.ReflTransGen.refl.tail (.transit (.attach .a 0 (by decide +kernel)))).tail
      (.transit (.attach .b 0 (by decide +kernel)))
  have registered := (attached.tail (.start .a "@adder" increment [.int 7] "main"
    (by decide +kernel))).tail (.register .b "adder" ⟨0, "Adder", ["i"]⟩)
  exact ((registered.tail (.transit (.cut 0 .a 0))).tail (.transit (.lose .a 1 none))).tail
    (.transit (.lose .b 1 none))

theorem called_reachable : Reachable adder adds home called := by
  have attached : Reachable adder adds home (lost.attach 1) :=
    (lost_reachable.tail (.transit (.attach .a 1 (by decide +kernel)))).tail
      (.transit (.attach .b 1 (by decide +kernel)))
  exact ((attached.tail (deliver_step .b (by decide +kernel))).tail
    (.take .b (by decide +kernel) (by decide +kernel))).tail (.run .b 0)

theorem eq_int_of_int? {value : Value} {number : Int64} (whole : value.int? = some number) :
    value = .int number := by
  cases value with
  | int other => exact congrArg Value.int (Option.some.inj whole)
  | _ => cases whole

/-- A handler that is run is given the arguments of the call. -/
theorem arguments_of_dispatch {service : ServiceObject η} {signature : Signature}
    {values : List Value} {handler : η} {arguments : Arguments}
    (dispatched : service.dispatch signature values = .ok (handler, arguments)) :
    arguments = ⟨signature, values⟩ := by
  unfold ServiceObject.dispatch at dispatched
  split at dispatched
  · cases dispatched
  · split at dispatched
    · cases dispatched
    · split at dispatched
      · cases dispatched
      · exact (Prod.mk.inj (Except.ok.inj dispatched)).2.symm

/-- The handler is given what the caller has sent, and ends as it should. -/
theorem adds_called (run : Run Unit) (found : ServiceRef) (handler : Unit) (arguments : Arguments)
    (running : called.running? .b 0 = some run)
    (dispatched : (adder .b found.identity).dispatch run.request.signature run.request.arguments =
      .ok (handler, arguments)) : adds .b handler arguments (.value (.int 8)) := by
  have given : (called.running? .b 0).map (fun run => run.request.arguments.map Value.int?) =
      some [some 7] := by decide +kernel
  rw [running, Option.map_some, Option.some.injEq] at given
  obtain ⟨value, whole, same⟩ : ∃ value, value.int? = some 7 ∧ run.request.arguments = [value] := by
    cases values : run.request.arguments with
    | nil => simp [values] at given
    | cons value rest =>
      simp only [values, List.map_cons, List.cons.injEq, List.map_eq_nil_iff] at given
      exact ⟨value, given.1, by rw [given.2]⟩
  rw [arguments_of_dispatch dispatched, same, eq_int_of_int? whole]
  exact rfl

theorem served_reachable : Reachable adder adds home served := by
  have ran : Reachable adder adds home ran :=
    (called_reachable.tail (.finish .b 0 (.value (.int 8))
      fun run found handler arguments running _ =>
        adds_called run found handler arguments running)).tail (.conclude .b)
  have told := ((ran.tail (deliver_step .a (by decide +kernel))).tail (.settle .a 0)).tail
    (.take .a (by decide +kernel) (by decide +kernel))
  exact (((told.tail (.conclude .a)).tail (deliver_step .b (by decide +kernel))).tail
    (.settle .b 0)).tail (deliver_step .a (by decide +kernel))

theorem served_finished : served.Finished 1 where
  quiescent := Dialogue.quiescent_of_still (by decide +kernel)
  whole side := by cases side <;> decide +kernel

theorem served_kept : served.dialogue.pair.Kept := by
  refine .inl fun side => ?_
  cases side <;> decide +kernel

theorem conveyable_int (value : Int64) : (Value.int value).Conveyable :=
  ⟨fun _ _ => List.not_mem_nil, show 1 ≤ valueLimit by decide⟩

/-! ## Calls and dispatch -/

/-- **A remote call is a local dispatch.**  A call whose arguments and results can be conveyed, and
which is not refused since too many messages are in flight, has a message of its own.  The peer runs
it once at most, on what was ordered.  Any result is what has come of this run, at the object that
the peer had under the id when it ran the call.  And once nothing is left to be done, there is a
result, unless the return has been given up.  Of the streams it is only asked that the ids of
messages suffice if any of them is lost. -/
theorem call_is_dispatch (reachable : Reachable objects handlers opening hosting)
    (kept : hosting.dialogue.pair.Kept) {caller : Ticket}
    (ordered : (hosting.journal side).orders[caller]? = some order)
    (arguments : ∀ value ∈ order.values, value.Conveyable)
    (results : ∀ entry ∈ (hosting.journal side.other).endings, order.sent = .ok entry.1.message →
      ∀ value, entry.2 = some (.value value) → value.Conveyable)
    (room : ∀ limit, order.sent ≠ .error (.tooManyInFlight limit)) :
    (∀ subject, Documented objects handlers opening hosting subject) ∧
    ∃ message, order.sent = .ok message ∧
      (∀ (other : Nat) (order' : Order τ), (hosting.journal side).orders[other]? = some order' →
        order'.sent = .ok message → other = caller) ∧
      ((hosting.journal side.other).runs.map Run.message).count message ≤ 1 ∧
      (∀ run ∈ (hosting.journal side.other).runs, run.message = message →
        hosting.Received side order run) ∧
      (∀ result, (caller, result) ∈ (hosting.dialogue.speaker side).completed →
        ∃ run ending reply here, run.message = message ∧
          Returned objects handlers hosting side order run ending reply here result) ∧
      ∀ stream, hosting.Finished stream →
        (∀ call ∈ hosting.pending side, call.caller = caller →
          call.id ∉ (hosting.dialogue.speaker side.other).givenUp.map Prod.fst) →
            ∃! result, (caller, result) ∈ (hosting.dialogue.speaker side).completed := by
  have documented := reachable.documented
  have traced := reachable.traced kept
  have own := traced.faithful side
  have listed := List.mem_of_getElem? ordered
  obtain ⟨message, sent⟩ := own.ordering.exists_sent listed arguments room
  refine ⟨documented, message, sent, fun other order' among same => ?_, ?_,
    fun run ran same => ?_, fun result completed => ?_,
    fun stream => reachable.exists_unique_result kept ordered⟩
  · exact own.ordering.caller_unique ordered among sent same
  · exact List.nodup_iff_count_le_one.mp (traced.faithful side.other).working.runs_nodup message
  · exact traced.received listed arguments (same ▸ sent) ran
  · obtain ⟨order', found, explained⟩ := (traced.linked side).completed _ completed
    obtain rfl := Option.some.inj (ordered.symm.trans found)
    exact explained.returned traced (documented side.other) listed arguments sent
      fun entry ended same => results entry ended (same ▸ sent)

/-- The call has been run once at most, though its message was lost once, and its one result is what
the handler makes of the argument. -/
theorem call_is_dispatch_served :
    Reachable adder adds home served ∧ served.dialogue.pair.Kept ∧ served.Finished 1 ∧
      ((served.journal .b).runs.map Run.message).count 0 ≤ 1 ∧
        (0, .ok (.int 8)) ∈ (served.dialogue.speaker .a).completed ∧
          ∀ result, (0, result) ∈ (served.dialogue.speaker .a).completed →
            result = .ok (.int 8) := by
  have first : (served.journal .a).orders[0]?.map (fun order =>
      (number? order.sent, order.values.all fun value => value.int?.isSome)) =
        some (some 0, true) := by decide +kernel
  have given : ((served.journal .b).endings.all fun entry =>
      (entry.2.bind fun how => how.toExcept.toOption.bind Value.int?).isSome) = true := by
    decide +kernel
  have answered : (served.dialogue.speaker Side.a.other).givenUp.length = 0 := by decide +kernel
  have told : (served.dialogue.speaker .a).completed.all (fun entry =>
      entry.2.toOption.bind Value.int? = some 8) = true := by decide +kernel
  obtain ⟨order, ordered, facts⟩ := Option.map_eq_some_iff.mp first
  obtain ⟨number, plain⟩ := Prod.mk.inj facts
  have sent := number?_eq_some.mp number
  have arguments : ∀ value ∈ order.values, value.Conveyable := by
    intro value listed
    obtain ⟨content, whole⟩ := Option.isSome_iff_exists.mp (List.all_eq_true.mp plain value listed)
    exact eq_int_of_int? whole ▸ conveyable_int content
  have results : ∀ entry ∈ (served.journal .b).endings, order.sent = .ok entry.1.message →
      ∀ value, entry.2 = some (.value value) → value.Conveyable := by
    intro entry ended _ value ends
    have whole := List.all_eq_true.mp given entry ended
    rw [ends] at whole
    obtain ⟨content, whole⟩ := Option.isSome_iff_exists.mp whole
    exact eq_int_of_int? whole ▸ conveyable_int content
  obtain ⟨_, message, posted, _, once, _, _, resolved⟩ := call_is_dispatch served_reachable
    served_kept ordered arguments results fun limit full => by cases full.symm.trans sent
  obtain rfl : message = 0 := Except.ok.inj (posted.symm.trans sent)
  obtain ⟨result, completed, unique⟩ := resolved 1 served_finished fun call _ _ listed => by
    rw [List.length_eq_zero_iff.mp answered] at listed
    cases listed
  have eight := List.all_eq_true.mp told _ completed
  obtain rfl : result = .ok (.int 8) := by
    cases result with
    | error error => simp [Except.toOption] at eight
    | ok value => rw [eq_int_of_int? (of_decide_eq_true eight)]
  exact ⟨served_reachable, served_kept, served_finished, once, completed, unique⟩

end Hosting

end Courier
