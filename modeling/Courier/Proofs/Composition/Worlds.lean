import Courier.Proofs.Composition.Closing
import Courier.Scenario.Steps

/-!
# Endpoints of worlds

A world that has one endpoint, which has a channel, begins with that endpoint made anew
(`World.assembly_addEndpoint`).  What a scenario or a task does to it afterwards is an
occasion for the endpoint, with the scene as its surroundings (`World.Follows`).  Only
where a stream is attached does the scene have a say in between, since it binds the
stream.

So the endpoint of a world ends as any endpoint does (`World.exists_ended_close`).
-/

namespace Courier

set_option autoImplicit false

/-- A message that is refused changes nothing. -/
theorem Pipe.send_of_error {pipe after : Pipe} {body : Bytes} {ticket : Ticket} {error : PipeError}
    {effects : List PipeEffect} (refused : pipe.send body ticket = (.error error, after, effects)) :
    after = pipe ∧ effects = [] := by
  unfold send at refused
  split at refused
  · cases refused
    exact ⟨rfl, rfl⟩
  · split at refused <;> cases refused
    exact ⟨rfl, rfl⟩

namespace Scenario.World

/-- A world to which an endpoint with a channel is added. -/
theorem assembly_addEndpoint (services : List (ServiceObject Handler)) {plan : EndpointPlan}
    (rpc : plan.kind = .rpc) (watched : plan.supervisor = 0) :
    ((World.new 1 services).addEndpoint plan).assembly =
      (Endpoint.new plan.settings 0 (exportMark 0)
        (installTasks plan (World.new 1 services).scene).1.singletons).assembly := by
  have kept : (installTasks plan (World.new 1 services).scene).1.kind = plan.kind ∧
      (installTasks plan (World.new 1 services).scene).1.supervisor = plan.supervisor ∧
      (installTasks plan (World.new 1 services).scene).1.settings = plan.settings := by
    unfold installTasks
    split
    · exact ⟨rfl, rfl, rfl⟩
    · split <;> exact ⟨rfl, rfl, rfl⟩
  simp only [World.addEndpoint]
  revert kept
  rcases installTasks plan (World.new 1 services).scene with
    ⟨⟨name, kind, settings, supervisor, plans, singletons, tasks⟩, scene⟩
  rintro ⟨rfl, rfl, rfl⟩
  rw [rpc, watched]
  rfl

/-- What the further stages of the endpoint do; they leave lines. -/
def stages (world : World) : List (Stage (List String)) :=
  (((world.station? 0).map (·.plans)).getD []).map fun plan =>
    plan.stage fun line lines => lines ++ [line]

/-- From one world to another, an occasion has taken its course at the endpoint. -/
def Follows (world : World) (endpoint : Endpoint) (occasion : Occasion) (after : World) : Prop :=
  ∃ scene, after.assembly = (Site.happen Scene.surroundings world.stages ⟨endpoint, [], scene⟩
    occasion).endpoint.assembly

variable {world after : World} {endpoint : Endpoint}

/-- What has been settled for an occasion is what it comes to. -/
theorem follows_of_settle (linked : Endpoint.Linked [] endpoint) {occasion : Occasion}
    (scene : Scene) (settled : after.assembly = (Assembly.settle Scene.surroundings
      (endpoint.befall world.stages [] occasion).1.assembly scene
      (endpoint.befall world.stages [] occasion).2.2).1) :
    world.Follows endpoint occasion after :=
  have happens :=
    @Site.happens _ _ Scene.surroundings world.stages ⟨endpoint, [], scene⟩ linked occasion
  ⟨scene, settled.trans happens.settled⟩

/-- What an occasion comes to is an endpoint again at which nothing is left to be done, and one that
has ended if the occasion closes a part. -/
theorem Follows.exists_endpoint {occasion : Occasion}
    (follows : world.Follows endpoint occasion after) (linked : Endpoint.Linked [] endpoint) :
    ∃ next : Endpoint, after.assembly = next.assembly ∧ Endpoint.Linked [] next ∧
      ((∀ scene, Site.Closing Scene.surroundings world.stages ⟨endpoint, [], scene⟩ occasion) →
        next.Ended) := by
  obtain ⟨scene, came⟩ := follows
  have happens :=
    @Site.happens _ _ Scene.surroundings world.stages ⟨endpoint, [], scene⟩ linked occasion
  exact ⟨_, came, happens.linked, fun closing => (closing scene).ended linked⟩

section

variable (stands : world.assembly = endpoint.assembly)

include stands

theorem composition?_of_stands : world.composition? 0 = some endpoint.composition := by
  rw [World.composition?, stands]
  rfl

theorem channel?_of_stands : world.channel? 0 = some endpoint.channel := by
  rw [World.channel?, composition?_of_stands stands]
  rfl

/-! ## Pipes -/

theorem assembly_withPipe (change : Pipe → Pipe × List PipeEffect) :
    (world.withPipe 0 change).assembly = (Assembly.settle Scene.surroundings
      { endpoint with pipe := (change endpoint.pipe).1 : Endpoint }.assembly world.scene
        ((change endpoint.pipe).2.map (Action.pipe 0))).1 := by
  simp only [World.withPipe, composition?_of_stands stands, World.setComposition, World.perform,
    stands]
  rfl

theorem assembly_sendBytes (ticket : Ticket) (bytes : Bytes) :
    (world.sendBytes 0 ticket bytes).2.assembly = (Assembly.settle Scene.surroundings
      { endpoint with pipe := (endpoint.pipe.send bytes ticket).2.1 : Endpoint }.assembly
        world.scene ((endpoint.pipe.send bytes ticket).2.2.map (Action.pipe 0))).1 := by
  simp only [World.sendBytes, composition?_of_stands stands, Endpoint.composition]
  rcases sent : endpoint.pipe.send bytes ticket with ⟨error | id, pipe, effects⟩
  · obtain ⟨rfl, rfl⟩ := Pipe.send_of_error sent
    simp [stands, Assembly.settle, Endpoint.assembly]
  · simp only [World.setComposition, World.perform, stands]
    rfl

/-! ## Channels -/

theorem assembly_setChannel (channel : Channel) :
    (world.setChannel 0 channel).assembly = { endpoint with channel : Endpoint }.assembly := by
  simp only [World.setChannel, composition?_of_stands stands, World.setComposition, stands]
  rfl

omit stands in
theorem stages_setChannel (channel : Channel) :
    (world.setChannel 0 channel).stages = world.stages := by
  unfold World.setChannel
  split <;> rfl

theorem assembly_withChannel (change : Channel → Channel × List ChannelEffect) :
    (world.withChannel 0 change).assembly = (Assembly.settle Scene.surroundings
      { endpoint with channel := (change endpoint.channel).1 : Endpoint }.assembly
        (world.setChannel 0 (change endpoint.channel).1).scene
        ((change endpoint.channel).2.map (Action.channel 0))).1 := by
  simp only [World.withChannel, channel?_of_stands stands, World.perform,
    assembly_setChannel stands]

theorem chain_of_stands : world.chain 0 = Desk.chain world.stages := by
  simp only [World.chain, channel?_of_stands stands, Option.isSome_some, if_true]
  rfl

theorem marshal_of_stands {α : Type} (step : Marshal (Desk (List String)) α) :
    (world.marshal 0 step).1 = (step.run ⟨endpoint.channel, []⟩).1 ∧
      (world.marshal 0 step).2.assembly = { endpoint with
        channel := (step.run ⟨endpoint.channel, []⟩).2.channel : Endpoint }.assembly := by
  simp only [World.marshal, channel?_of_stands stands, Option.getD_some, World.restoreChannel,
    Option.isSome_some, if_true, assembly_setChannel stands]
  exact ⟨rfl, rfl⟩

/-- A message of the channel is sent, and a task waits for what becomes of it. -/
theorem assembly_sendMessage (message : ChannelMessage) :
    ∃ scene ticket, (world.sendMessage 0 message).assembly =
      (Assembly.settle Scene.surroundings
        (endpoint.post world.stages ⟨endpoint.channel, []⟩ message ticket).1.assembly scene
        (endpoint.post world.stages ⟨endpoint.channel, []⟩ message ticket).2.2).1 := by
  rcases awaited : world.scene.await (.message 0 message.errand) with ⟨ticket, waiting⟩
  have waits : ({ world with scene := waiting } : World).assembly = endpoint.assembly := stands
  obtain ⟨result, marshaled⟩ := marshal_of_stands waits (message.encode (Desk.chain world.stages))
  simp only [World.sendMessage, World.sendObject, awaited, chain_of_stands stands, Endpoint.post]
  revert result marshaled
  rcases ({ world with scene := waiting } : World).marshal 0
    (message.encode (Desk.chain world.stages)) with ⟨answer, between⟩
  rcases (message.encode (Desk.chain world.stages)).run ⟨endpoint.channel, []⟩ with
    ⟨fault | bytes, desk⟩ <;> rintro rfl marshaled
  · exact ⟨waiting, ticket, by simpa [Assembly.settle] using marshaled⟩
  · exact ⟨between.scene, ticket, assembly_sendBytes marshaled ticket bytes⟩

end

/-! ## Steps -/

section

variable (stands : world.assembly = endpoint.assembly) (linked : Endpoint.Linked [] endpoint)

include stands linked

/-- The scenario closes the endpoint by its topmost part. -/
theorem follows_close : world.Follows endpoint (.close .channel) (world.close 0) := by
  refine follows_of_settle linked world.scene ?_
  simp only [World.close, composition?_of_stands stands, World.perform, stands]
  rfl

theorem follows_closePipe : world.Follows endpoint (.close .pipe) (world.closePipe 0) := by
  refine follows_of_settle linked world.scene ?_
  simp only [World.closePipe, World.perform, stands]
  rfl

/-- The scenario reports to the supervisor. -/
theorem follows_report (severity : Severity) :
    world.Follows endpoint (.raise severity) (world.report 0 severity) := by
  refine follows_of_settle linked world.scene ?_
  simp only [World.report, World.perform, stands]
  rfl

/-- Bytes of a stream arrive. -/
theorem follows_bytes (alive : world.scene.alive 0) (generation : Nat) (bytes : Bytes) :
    world.Follows endpoint (.arrive generation bytes)
      (world.tellSink (.pipe 0 generation) (.bytes bytes)) := by
  refine follows_of_settle linked world.scene ?_
  simp only [World.tellSink, alive, if_true]
  exact assembly_withPipe stands fun pipe => pipe.accept generation bytes

/-- The receiver has finished with a message. -/
theorem follows_conclude (id : MessageId) (verdict : Except String Unit) :
    world.Follows endpoint (.conclude id verdict)
      (world.withPipe 0 fun pipe => pipe.conclude id verdict) :=
  follows_of_settle linked _ (assembly_withPipe stands fun pipe => pipe.conclude id verdict)

/-- A stream ends or breaks. -/
theorem follows_ended (alive : world.scene.alive 0) (generation : Nat)
    (cause : Option StreamError) :
    world.Follows endpoint (.lost generation cause)
      (world.tellSink (.pipe 0 generation) (.ended cause)) := by
  refine follows_of_settle linked world.scene ?_
  simp only [World.tellSink, alive, if_true, World.perform, stands]
  rfl

/-- The scenario sends a message past the channel. -/
theorem follows_sendBlob (label : String) (blob : Bytes) :
    ∃ ticket, world.Follows endpoint (.send blob ticket) (world.sendBlob 0 label blob).2 := by
  rcases awaited : world.scene.await (.sender label) with ⟨ticket, waiting⟩
  have waits : (world.setScene waiting).assembly = endpoint.assembly := stands
  refine ⟨ticket, follows_of_settle linked waiting ?_⟩
  simp only [World.sendBlob, awaited, assembly_sendBytes waits]
  rfl

theorem follows_exportObject (interfaces : List String) (service : ServiceRef) :
    world.Follows endpoint (.exportObject interfaces service)
      (world.exportObject 0 interfaces service).2 := by
  refine follows_of_settle linked world.scene ?_
  simp only [World.exportObject, channel?_of_stands stands, assembly_setChannel stands]
  simp [Endpoint.befall, Endpoint.change, Assembly.settle]

/-- A call is started for a caller. -/
theorem follows_startCall (instanceId : String) (method : Method) (values : List Value)
    (callSite : String) (caller : Caller) :
    ∃ waiter ticket, world.Follows endpoint (.call instanceId method values callSite waiter ticket)
      (world.startCall 0 instanceId method values callSite caller) := by
  rcases awaited : world.scene.awaitResult caller with ⟨waiter, waiting⟩
  have waits : ({ world with scene := waiting } : World).assembly = endpoint.assembly := stands
  simp only [World.startCall, awaited, channel?_of_stands stands, Option.bind_some]
  cases started : endpoint.channel.startCall method callSite waiter with
  | none =>
    refine ⟨waiter, 0, follows_of_settle linked waiting ?_⟩
    simp [Endpoint.befall, started, Assembly.settle, stands]
  | some entered =>
    obtain ⟨id, channel⟩ := entered
    obtain ⟨scene, ticket, sent⟩ := assembly_sendMessage (assembly_setChannel waits channel)
      (.call ⟨id, instanceId, method.signature, values⟩)
    refine ⟨waiter, ticket, follows_of_settle linked scene (sent.trans ?_)⟩
    simp only [Endpoint.befall, started, stages_setChannel]
    rfl

/-- A call of the peer is answered. -/
theorem follows_answerCall (id : UInt64) (outcome : Except RemoteError Value) :
    ∃ ticket, world.Follows endpoint (.answer id outcome ticket)
      (world.answerCall 0 id outcome) := by
  simp only [World.answerCall, channel?_of_stands stands]
  split
  · rename_i terminated
    refine ⟨0, follows_of_settle linked world.scene ?_⟩
    simp [Endpoint.befall, terminated, Assembly.settle, stands]
  · rename_i alive
    obtain ⟨scene, ticket, sent⟩ := assembly_sendMessage stands (.reply id outcome)
    refine ⟨ticket, follows_of_settle linked scene (sent.trans ?_)⟩
    simp only [Endpoint.befall, if_neg alive]

/-- It is known that the message of a call has not been delivered. -/
theorem follows_undelivered (id : UInt64) (error : PipeError) :
    world.Follows endpoint (.undelivered id error)
      (world.withChannel 0 fun channel => channel.callUndelivered id error) :=
  follows_of_settle linked _ (assembly_withChannel stands _)

/-- The receiver hands a message that has waited to the channel. -/
theorem follows_receive (alive : world.scene.alive 0) {station : Station}
    (known : world.station? 0 = some station) (running : endpoint.pipe.reception = .running)
    {id : MessageId} {bytes : Bytes} {pipe : Pipe}
    (taken : endpoint.pipe.takeWaiting = some ((id, bytes), pipe)) :
    world.Follows endpoint .hand
      ((world.setComposition 0 { endpoint.composition with pipe }).receive 0 bytes).2 := by
  have without : (world.setComposition 0 { endpoint.composition with pipe }).assembly =
      { endpoint with pipe : Endpoint }.assembly := by
    simp only [World.setComposition, stands]
    rfl
  generalize handing :
    world.setComposition 0 { endpoint.composition with pipe } = between at without
  have station : between.station? 0 = some station := handing ▸ known
  have aware : between.scene.alive 0 = true := handing ▸ alive
  have stages : between.stages = world.stages := handing ▸ rfl
  obtain ⟨result, marshaled⟩ := marshal_of_stands without
    (ChannelMessage.decode (Desk.chain between.stages) bytes)
  simp only [World.receive, composition?_of_stands without, station, Endpoint.composition,
    Option.isNone_some, Bool.false_eq_true, if_false, aware, Bool.not_true,
    chain_of_stands without]
  revert result marshaled
  rcases between.marshal 0 (ChannelMessage.decode (Desk.chain between.stages) bytes) with
    ⟨answer, after⟩
  rcases decoded : (ChannelMessage.decode (Desk.chain between.stages) bytes).run
    ⟨endpoint.channel, []⟩ with ⟨fault | message, desk⟩ <;> rintro rfl marshaled
  · refine follows_of_settle linked world.scene ?_
    rw [stages] at decoded
    simpa [Endpoint.befall, Endpoint.hear, running, taken, decoded, Assembly.settle] using marshaled
  · have heard := assembly_withChannel marshaled fun channel => channel.receive message
    refine follows_of_settle linked (after.setChannel 0 (desk.channel.receive message).1).scene
      (heard.trans ?_)
    rw [stages] at decoded
    simp only [Endpoint.befall, Endpoint.hear, running, taken, decoded, if_true]
    rfl

/-- **A world in which the endpoint is closed**, by whichever of its parts or by its supervisor. -/
theorem exists_ended_close {severity : Severity} (grave : severity ≠ .warning) :
    ∀ closed ∈ [world.close 0, world.closePipe 0, world.report 0 severity],
      ∃ ended : Endpoint, closed.assembly = ended.assembly ∧ ended.Ended := by
  have ends {occasion : Occasion} {closed : World}
      (follows : world.Follows endpoint occasion closed)
      (closing : ∀ scene,
        Site.Closing Scene.surroundings world.stages ⟨endpoint, [], scene⟩ occasion) :
      ∃ ended : Endpoint, closed.assembly = ended.assembly ∧ ended.Ended := by
    obtain ⟨ended, came, _, done⟩ := follows.exists_endpoint linked
    exact ⟨ended, came, done closing⟩
  simp only [List.mem_cons, List.not_mem_nil, or_false, forall_eq_or_imp, forall_eq]
  exact ⟨ends (follows_close stands linked) fun _ => .close .channel,
    ends (follows_closePipe stands linked) fun _ => .close .pipe,
    ends (follows_report stands linked severity) fun _ => .raise grave⟩

end

end Scenario.World

end Courier
