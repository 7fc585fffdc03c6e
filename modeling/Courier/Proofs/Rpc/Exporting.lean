import Courier.Proofs.Rpc.Conveying
import Mathlib.Logic.Function.Basic

/-!
# One id for one object

A registry of exports is asked to export an object, which handle an object has, which
object an id names, and to forget all exports (`ExportOperation`).  It serves for two
maps, of which one has the objects for its keys and the other the ids
(`ExportTables`); these always hold the same pairs, and answer as the registry does.

At any time objects and ids stand one to one (`Exports.OneToOne`).  Forgetting the
exports does not set the count of them back, so that an id that has been given out names
the same object or nothing at any later time (`Exports.Outlived`).

This holds for a channel that exports objects by itself as well, whenever it writes a
message in which they occur (`Desk.exports_oneToOne`).  The handle that the application
gets for an object, and the one that stands in a message for it, is the one that the
object has in the registry (`Desk.Issues`); only a singleton is referred to by its name
instead.
-/

namespace Courier

set_option autoImplicit false

/-! ## Operations -/

/-- What a registry of exports can be asked for. -/
inductive ExportOperation where
  | publish (interfaces : List String) (service : ServiceRef)
  | handleOf (service : ServiceRef)
  | lookup (instanceId : String)
  | clear

/-- What is answered. -/
inductive ExportAnswer where
  | handle (handle : Option RemoteHandle)
  | object (service : Option ServiceRef)
  | done

namespace Exports

def operate (exports : Exports) : ExportOperation → ExportAnswer × Exports
  | .publish interfaces service =>
    let (handle, after) := exports.publish interfaces service
    (.handle (some handle), after)
  | .handleOf service => (.handle (exports.handleOf? service), exports)
  | .lookup instanceId => (.object (exports.lookup? instanceId), exports)
  | .clear => (.done, exports.clear)

/-- What is left after some operations. -/
def after (exports : Exports) (operations : List ExportOperation) : Exports :=
  operations.foldl (fun exports operation => (exports.operate operation).2) exports

/-- What is answered to some operations, one after the other. -/
def answers : Exports → List ExportOperation → List ExportAnswer
  | _, [] => []
  | exports, operation :: operations =>
    (exports.operate operation).1 :: answers (exports.operate operation).2 operations

theorem after_append (exports : Exports) (first second : List ExportOperation) :
    exports.after (first ++ second) = (exports.after first).after second :=
  List.foldl_append

variable {exports later : Exports} {service found : ServiceRef} {handle : RemoteHandle}
  {id : String}

theorem Sound.operate (sound : exports.Sound) (operation : ExportOperation) :
    (exports.operate operation).2.Sound := by
  cases operation with
  | publish interfaces service => exact sound.publish interfaces service
  | handleOf | lookup => exact sound
  | clear => exact sound_clear exports

theorem Sound.after (sound : exports.Sound) (operations : List ExportOperation) :
    (exports.after operations).Sound := by
  induction operations generalizing exports with
  | nil => exact sound
  | cons operation operations ih => exact ih (sound.operate operation)

/-! ## The pairs of a registry -/

theorem mem_of_lookup? (named : exports.lookup? id = some found) :
    ∃ handle, (found, handle) ∈ exports.entries ∧ handle.instanceId = id := by
  obtain ⟨⟨_, handle⟩, seen, rfl⟩ := Option.map_eq_some_iff.mp named
  exact ⟨handle, List.mem_of_find?_eq_some seen, by simpa using List.find?_some seen⟩

theorem mem_of_handleOf? (exported : exports.handleOf? service = some handle) :
    ∃ found, (found, handle) ∈ exports.entries ∧ found.identity = service.identity := by
  obtain ⟨⟨found, _⟩, seen, rfl⟩ := Option.map_eq_some_iff.mp exported
  exact ⟨found, List.mem_of_find?_eq_some seen, by simpa using List.find?_some seen⟩

/-- An id leads to an object just when the object has a handle with this id. -/
theorem Sound.handleOf?_iff_lookup? (sound : exports.Sound) (service : ServiceRef) (id : String) :
    (∃ handle, exports.handleOf? service = some handle ∧ handle.instanceId = id) ↔
      ∃ found, exports.lookup? id = some found ∧ found.identity = service.identity := by
  constructor
  · rintro ⟨handle, exported, rfl⟩
    obtain ⟨found, listed, same⟩ := mem_of_handleOf? exported
    exact ⟨found, sound.lookup?_of_mem listed, same⟩
  · rintro ⟨found, named, same⟩
    obtain ⟨handle, listed, rfl⟩ := mem_of_lookup? named
    exact ⟨handle, sound.handleOf?_of_mem listed same, rfl⟩

theorem publish_of_handleOf? (exported : exports.handleOf? service = some handle)
    (interfaces : List String) : exports.publish interfaces service = (handle, exports) := by
  simp only [publish, exported]

/-- No id of an export begins as the ids of singletons do. -/
theorem Sound.singletonNameOf?_of_lookup? (sound : exports.Sound)
    (named : exports.lookup? id = some found) : RemoteHandle.singletonNameOf? id = none := by
  obtain ⟨number, rfl⟩ := sound.exists_instanceId named
  exact singletonNameOf?_instanceId exports number

/-! ## Two maps -/

end Exports

/-- A registry of exports as two maps with different keys. -/
@[ext]
structure ExportTables where
  mark : Nat → UInt64
  count : Nat
  /-- The handle of each object that is exported, by its identity. -/
  handles : Nat → Option RemoteHandle
  /-- The object of each instance id. -/
  objects : String → Option ServiceRef

namespace ExportTables

/-- Both maps get an entry for an object that has none, whatever the other map has under the id. -/
def publish (tables : ExportTables) (interfaces : List String) (service : ServiceRef) :
    RemoteHandle × ExportTables :=
  match tables.handles service.identity with
  | some handle => (handle, tables)
  | none =>
    let handle : RemoteHandle := ⟨(Exports.new tables.mark).instanceId tables.count, interfaces⟩
    (handle, { tables with
      count := tables.count + 1
      handles := Function.update tables.handles service.identity (some handle)
      objects := Function.update tables.objects handle.instanceId (some service) })

def operate (tables : ExportTables) : ExportOperation → ExportAnswer × ExportTables
  | .publish interfaces service =>
    let (handle, after) := tables.publish interfaces service
    (.handle (some handle), after)
  | .handleOf service => (.handle (tables.handles service.identity), tables)
  | .lookup instanceId => (.object (tables.objects instanceId), tables)
  | .clear => (.done, { tables with handles := fun _ => none, objects := fun _ => none })

def answers : ExportTables → List ExportOperation → List ExportAnswer
  | _, [] => []
  | tables, operation :: operations =>
    (tables.operate operation).1 :: answers (tables.operate operation).2 operations

end ExportTables

namespace Exports

variable {exports later : Exports} {service found : ServiceRef} {handle : RemoteHandle}
  {id : String}

/-- The two maps that a registry serves for. -/
def tables (exports : Exports) : ExportTables where
  mark := exports.mark
  count := exports.count
  handles identity := (exports.entries.find? fun entry => entry.1.identity = identity).map (·.2)
  objects := exports.lookup?

/-- The id that is given out next names nothing yet. -/
theorem Sound.lookup?_next (sound : exports.Sound) :
    exports.lookup? (exports.instanceId exports.count) = none := by
  refine Option.eq_none_iff_forall_ne_some.mpr fun found named => ?_
  obtain ⟨handle, listed, same⟩ := mem_of_lookup? named
  obtain ⟨number, bound, given⟩ := sound.exists_number listed
  have next : number = exports.count := instanceId_injective (given.symm.trans same)
  omega

/-- What is found in a list of entries that gets one more entry with a new key. -/
theorem find?_append_update {α κ β : Type} [DecidableEq κ] (key : α → κ) (content : α → β)
    {entries : List α} (entry : α)
    (absent : entries.find? (fun other => key other = key entry) = none) :
    (fun sought => ((entries ++ [entry]).find? fun other => key other = sought).map content) =
      Function.update (fun sought => (entries.find? fun other => key other = sought).map content)
        (key entry) (some (content entry)) := by
  funext sought
  by_cases same : key entry = sought
  · subst same
    simp [absent]
  · rw [Function.update_of_ne (Ne.symm same)]
    simp [same]

/-- The two maps take in an object just as the registry does. -/
theorem Sound.tables_publish (sound : exports.Sound) (interfaces : List String)
    (service : ServiceRef) : exports.tables.publish interfaces service =
      ((exports.publish interfaces service).1, (exports.publish interfaces service).2.tables) := by
  have handles : exports.tables.handles service.identity = exports.handleOf? service := rfl
  cases exported : exports.handleOf? service with
  | some handle => simp only [ExportTables.publish, Exports.publish, handles, exported]
  | none =>
    have unexported := Option.map_eq_none_iff.mp exported
    have unnamed := Option.map_eq_none_iff.mp sound.lookup?_next
    have drawn : (Exports.new exports.tables.mark).instanceId exports.tables.count =
        exports.instanceId exports.count := rfl
    simp only [ExportTables.publish, Exports.publish, handles, exported, drawn]
    generalize exports.instanceId exports.count = id at unnamed
    refine Prod.ext rfl (ExportTables.ext rfl rfl ?_ ?_)
    · exact (find?_append_update (fun entry => entry.1.identity) (·.2)
        (service, RemoteHandle.mk id interfaces) unexported).symm
    · exact (find?_append_update (fun entry => entry.2.instanceId) (·.1)
        (service, RemoteHandle.mk id interfaces) unnamed).symm

theorem Sound.tables_operate (sound : exports.Sound) (operation : ExportOperation) :
    exports.tables.operate operation =
      ((exports.operate operation).1, (exports.operate operation).2.tables) := by
  cases operation with
  | publish interfaces service =>
    rw [ExportTables.operate, sound.tables_publish interfaces service]
    rfl
  | handleOf | lookup | clear => rfl

/-- The two maps answer as the registry does. -/
theorem Sound.tables_answers (sound : exports.Sound) (operations : List ExportOperation) :
    exports.tables.answers operations = exports.answers operations := by
  induction operations generalizing exports with
  | nil => rfl
  | cons operation operations ih =>
    simp only [ExportTables.answers, answers, sound.tables_operate operation,
      ih (sound.operate operation)]

/-! ## Ids at different times -/

/-- A later state of a registry.  An id that it has and an earlier one had not is new. -/
structure Precedes (exports later : Exports) : Prop where
  mark : later.mark = exports.mark
  count : exports.count ≤ later.count
  fresh : ∀ entry ∈ later.entries, entry ∈ exports.entries ∨
    ∃ number, exports.count ≤ number ∧ entry.2.instanceId = exports.instanceId number

theorem Precedes.refl (exports : Exports) : exports.Precedes exports :=
  ⟨rfl, le_rfl, fun _ listed => .inl listed⟩

theorem Precedes.trans {between : Exports} (first : exports.Precedes between)
    (second : between.Precedes later) : exports.Precedes later where
  mark := second.mark.trans first.mark
  count := first.count.trans second.count
  fresh entry listed := by
    rcases second.fresh entry listed with before | ⟨number, bound, given⟩
    · exact first.fresh entry before
    · refine .inr ⟨number, first.count.trans bound, ?_⟩
      rw [given, instanceId_congr first.mark]

theorem precedes_publish (exports : Exports) (interfaces : List String) (service : ServiceRef) :
    exports.Precedes (exports.publish interfaces service).2 := by
  rcases exports.publish_cases interfaces service with ⟨_, _, _, known⟩ | ⟨_, added⟩
  · rw [known]
    exact .refl exports
  · rw [added]
    refine ⟨rfl, Nat.le_succ _, fun entry listed => ?_⟩
    refine (List.mem_append.mp listed).imp_right fun last => ⟨exports.count, le_rfl, ?_⟩
    rw [List.mem_singleton.mp last]

theorem precedes_operate (exports : Exports) (operation : ExportOperation) :
    exports.Precedes (exports.operate operation).2 := by
  cases operation with
  | publish interfaces service => exact exports.precedes_publish interfaces service
  | handleOf | lookup => exact .refl exports
  | clear => exact ⟨rfl, le_rfl, fun _ listed => nomatch listed⟩

theorem precedes_after (exports : Exports) (operations : List ExportOperation) :
    exports.Precedes (exports.after operations) := by
  induction operations generalizing exports with
  | nil => exact .refl exports
  | cons operation operations ih => exact (exports.precedes_operate operation).trans (ih _)

/-- What has an id that was given out before was an export before. -/
theorem Precedes.mem_of_given (precedes : exports.Precedes later)
    {entry : ServiceRef × RemoteHandle} (listed : entry ∈ later.entries) {number : Nat}
    (bound : number < exports.count) (given : entry.2.instanceId = exports.instanceId number) :
    entry ∈ exports.entries := by
  rcases precedes.fresh entry listed with before | ⟨other, above, fresh⟩
  · exact before
  · have same := instanceId_injective (given.symm.trans fresh)
    omega

/-- An id names the same object later, if it names any. -/
theorem Sound.lookup?_later (sound : exports.Sound) (precedes : exports.Precedes later)
    (named : exports.lookup? id = some found) :
    later.lookup? id = some found ∨ later.lookup? id = none := by
  obtain ⟨handle, listed, rfl⟩ := mem_of_lookup? named
  obtain ⟨number, bound, given⟩ := sound.exists_number listed
  cases again : later.lookup? handle.instanceId with
  | none => exact .inr rfl
  | some other =>
    obtain ⟨kept, still, same⟩ := mem_of_lookup? again
    have seen := sound.lookup?_of_mem (precedes.mem_of_given still bound (same.trans given))
    rw [same, named] at seen
    exact .inl seen.symm

/-- Objects that have the same id, one of them later, are the same object. -/
theorem Sound.identity_eq (sound : exports.Sound) (precedes : exports.Precedes later)
    (kept : later.Sound) {first second : ServiceRef} {other : RemoteHandle}
    (before : exports.handleOf? first = some handle) (after : later.handleOf? second = some other)
    (same : handle.instanceId = other.instanceId) : first.identity = second.identity := by
  obtain ⟨found, named, isFirst⟩ := (sound.handleOf?_iff_lookup? first _).mp ⟨handle, before, rfl⟩
  obtain ⟨_, again, isSecond⟩ := (kept.handleOf?_iff_lookup? second _).mp ⟨other, after, rfl⟩
  rw [← same] at again
  rcases sound.lookup?_later precedes named with still | gone
  · rw [still] at again
    cases again
    exact isFirst.symm.trans isSecond
  · rw [gone] at again
    cases again

/-- An id that has been given out and names nothing any more is not given out again. -/
theorem Sound.lookup?_retired (sound : exports.Sound) (precedes : exports.Precedes later)
    {number : Nat} (bound : number < exports.count)
    (absent : exports.lookup? (exports.instanceId number) = none) :
    later.lookup? (exports.instanceId number) = none := by
  refine Option.eq_none_iff_forall_ne_some.mpr fun found named => ?_
  obtain ⟨handle, listed, same⟩ := mem_of_lookup? named
  have seen := sound.lookup?_of_mem (precedes.mem_of_given listed bound same)
  rw [same, absent] at seen
  cases seen

/-! ## What holds at any time -/

/-- Objects and ids stand one to one. -/
structure OneToOne (exports : Exports) : Prop where
  /-- The handle of an object has an id just when the id leads to the object. -/
  paired : ∀ (service : ServiceRef) (id : String),
    (∃ handle, exports.handleOf? service = some handle ∧ handle.instanceId = id) ↔
      ∃ found, exports.lookup? id = some found ∧ found.identity = service.identity
  /-- Two objects have two ids. -/
  distinct : ∀ (first second : ServiceRef) (handle other : RemoteHandle),
    exports.handleOf? first = some handle → exports.handleOf? second = some other →
      handle.instanceId = other.instanceId → first.identity = second.identity
  /-- An object that is exported again keeps its handle, and nothing changes. -/
  again : ∀ (service : ServiceRef) (handle : RemoteHandle),
    exports.handleOf? service = some handle →
      ∀ interfaces, exports.publish interfaces service = (handle, exports)
  /-- An object that is exported has the handle that is given for it. -/
  given : ∀ (interfaces : List String) (service : ServiceRef),
    (exports.publish interfaces service).2.handleOf? service =
      some (exports.publish interfaces service).1
  /-- No id is that of a singleton. -/
  foreign : ∀ (id : String) (found : ServiceRef), exports.lookup? id = some found →
    RemoteHandle.singletonNameOf? id = none ∧ ∀ name, id ≠ "@" ++ name
  /-- Two maps with different keys serve as well. -/
  tables : ∀ operations, exports.tables.answers operations = exports.answers operations

theorem Sound.oneToOne (sound : exports.Sound) : exports.OneToOne where
  paired := sound.handleOf?_iff_lookup?
  distinct _ _ _ _ := sound.identity_eq (.refl exports) sound
  again _ _ := publish_of_handleOf?
  given := sound.handleOf?_publish
  foreign id found named := by
    have plain := sound.singletonNameOf?_of_lookup? named
    refine ⟨plain, ?_⟩
    rintro name rfl
    simp [RemoteHandle.singletonNameOf?] at plain
  tables := sound.tables_answers

/-- What ids name at a later time. -/
structure Outlived (exports later : Exports) : Prop where
  /-- An id names the same object later, if it names any. -/
  steady : ∀ (id : String) (found : ServiceRef), exports.lookup? id = some found →
    later.lookup? id = some found ∨ later.lookup? id = none
  /-- An object that has the id of another later is the same object. -/
  unshared : ∀ (first second : ServiceRef) (handle other : RemoteHandle),
    exports.handleOf? first = some handle → later.handleOf? second = some other →
      handle.instanceId = other.instanceId → first.identity = second.identity
  /-- An id that has been given out and names nothing any more is not given out again. -/
  retired : ∀ number < exports.count, exports.lookup? (exports.instanceId number) = none →
    later.lookup? (exports.instanceId number) = none

theorem Sound.outlived (sound : exports.Sound) (precedes : exports.Precedes later)
    (kept : later.Sound) : exports.Outlived later where
  steady _ _ := sound.lookup?_later precedes
  unshared _ _ _ _ := sound.identity_eq precedes kept
  retired _ := sound.lookup?_retired precedes

end Exports

/-! ## Channels -/

namespace Channel

variable {channel after : Channel}

/-- All that a channel does with its exports while it is open is to add to them. -/
theorem Grows.exports_after (grows : channel.Grows after) :
    ∃ operations, after.exports = channel.exports.after operations := by
  induction grows with
  | refl => exact ⟨[], rfl⟩
  | @tail between _ _ works ih =>
    obtain ⟨operations, same⟩ := ih
    cases works with
    | publish interfaces service =>
      exact ⟨operations ++ [.publish interfaces service], by
        rw [Exports.after_append, ← same]
        rfl⟩
    | proxy handle => exact ⟨operations, (between.proxy_registries handle).1.trans same⟩
    | calls calls => exact ⟨operations, same⟩

theorem Sound.terminate (sound : channel.Sound) : channel.terminate.1.Sound :=
  ⟨Exports.sound_clear channel.exports, sound.singletons, fun _ listed => nomatch listed⟩

section ExportObject

variable {interfaces : List String} {service : ServiceRef}

/-- An export that an open channel can make is left to the registry. -/
theorem exportObject_granted (isOpen : channel.terminated = false)
    (implemented : interfaces ⊆ service.interfaces) :
    channel.exportObject interfaces service =
      (.ok (channel.exports.publish interfaces service).1,
        { channel with exports := (channel.exports.publish interfaces service).2 }) := by
  have complete : (interfaces.find? fun interface => !service.interfaces.contains interface) =
      none := by
    refine List.find?_eq_none.mpr fun interface listed => ?_
    simpa using implemented listed
  simp only [exportObject, isOpen, complete]
  rfl

/-- An export that cannot be made changes nothing. -/
theorem exportObject_refused
    (reason : channel.terminated = true ∨ ¬ interfaces ⊆ service.interfaces) :
    ∃ error, channel.exportObject interfaces service = (.error error, channel) := by
  unfold exportObject
  split
  · exact ⟨_, rfl⟩
  · rename_i isOpen
    obtain ⟨interface, listed, absent⟩ :
        ∃ interface ∈ interfaces, interface ∉ service.interfaces := by
      simpa [List.subset_def] using reason.resolve_left isOpen
    split
    · exact ⟨_, rfl⟩
    · rename_i complete
      exact absurd (List.find?_eq_none.mp complete interface listed) (by simpa using absent)

end ExportObject

/-! ## Handles in messages -/

/-- What an object is referred to by is the handle that it has, and no other. -/
theorem Refers.refer {service : ServiceRef} {handle : RemoteHandle}
    (refers : channel.Refers service handle) : channel.refer service = (handle, channel) := by
  cases refers with
  | singleton named => exact refer_singleton named
  | exported unnamed known =>
    rw [refer_export unnamed, Exports.publish_of_handleOf? known]

end Channel

namespace ChannelMessage

/-- The values that a message takes along. -/
def values : ChannelMessage → List Value
  | call request => request.arguments
  | reply _ (.ok value) => [value]
  | reply _ (.error _) => []
  | unreadable _ _ => []

/-- The bytes of a message whose values have some portable forms. -/
inductive Spelled : ChannelMessage → List Portable → Bytes → Prop
  | call (request : CallRequest) (portables : List Portable) : Spelled (.call request) portables
      (callJson request.callId request.instanceId request.signature portables).render
  | result (id : UInt64) (value : Value) (portable : Portable) :
      Spelled (.reply id (.ok value)) [portable] (returnJson id ("ok", portable.toJson)).render
  | failure (id : UInt64) (error : RemoteError) :
      Spelled (.reply id (.error error)) [] (returnJson id ("err", error.toJson)).render

end ChannelMessage

namespace Desk

variable {τ : Type}

/-- The further stages of a chain know nothing of the channel. -/
theorem channel_replace (further : List (Stage τ)) (value : Value) (desk : Desk τ) :
    (((plainChain further).replace value).run desk).2.channel = desk.channel := by
  have aside : (plainChain further).Leads (MarshalChain.Unchanged channel) := by
    intro stage listed
    obtain ⟨other, _, rfl⟩ := List.mem_map.mp listed
    exact ⟨fun _ _ => rfl, fun _ _ => rfl⟩
  exact aside.replace (MarshalChain.habit_unchanged channel) value desk

/-- In place of an object that the further stages leave at a node the channel puts its handle. -/
theorem replace_service {further : List (Stage τ)} {value : Value} {service : ServiceRef}
    {desk between : Desk τ} (left : ((plainChain further).replace value).run desk =
      (.ok (.live (.service service)), between)) :
    ((chain further).replace value).run desk =
      (.ok (.remote (between.channel.refer service).1),
        { between with channel := (between.channel.refer service).2 }) := by
  have parts : (chain further).replace value =
      (plainChain further).replace value >>= fun node => ownStage.write node >>= pure := by
    rw [MarshalChain.replace, chain, List.foldlM_append]
    rfl
  rw [parts, Marshal.run_bind_of_ok left]
  rfl

/-- A message whose values cross is spelled with handles for their references. -/
theorem succeeds_encode {message : ChannelMessage}
    (crosses : ∀ value ∈ message.values, value.Crosses)
    (decoded : ∀ id reason, message ≠ .unreadable id reason) (desk : Desk τ)
    (sound : desk.channel.Sound) :
    ∃ portables bytes after, (message.encode (chain [])).run desk = (.ok bytes, after) ∧
      message.Spelled portables bytes ∧
        List.Forall₂ (fun value portable => Writing value after.channel portable) message.values
          portables := by
  cases message with
  | call request =>
    have each : Succeeds Channel.Grows
        (request.arguments.mapM (chain ([] : List (Stage τ))).toPortable) fun channel =>
          List.Forall₂ (fun value => Writing value channel) request.arguments :=
      .mapM .growing (fun _ _ _ _ writing grows => writing.grows grows) fun value listed =>
        succeeds_toPortable (crosses value listed)
    obtain ⟨portables, after, run, _, written⟩ := each desk sound
    refine ⟨portables, _, after, ?_, .call request portables, written⟩
    rw [ChannelMessage.encode, ChannelMessage.toJson, Marshal.run_bind, Marshal.run_bind, run]
    rfl
  | reply id outcome =>
    cases outcome with
    | error error => exact ⟨[], _, desk, rfl, .failure id error, .nil⟩
    | ok value =>
      obtain ⟨portable, after, run, _, writing⟩ :=
        succeeds_toPortable (crosses value (List.mem_singleton_self _)) desk sound
      refine ⟨[portable], _, after, ?_, .result id value portable, .cons writing .nil⟩
      rw [ChannelMessage.encode, ChannelMessage.toJson, Marshal.run_bind, Marshal.run_bind, run]
      rfl
  | unreadable id reason => exact absurd rfl (decoded id reason)

end Desk

/-! ## Desks -/

/-- What is done at a desk that may have to do with exports. -/
inductive ExportOccasion where
  /-- The registry is asked for something. -/
  | operate (operation : ExportOperation)
  /-- The application exports an object. -/
  | exportObject (interfaces : List String) (service : ServiceRef)
  /-- A message is written, in which objects may occur. -/
  | write (message : ChannelMessage)
  | read (bytes : Bytes)
  /-- A message that has been read is taken. -/
  | receive (message : ChannelMessage)
  | register (name : String) (service : ServiceRef)
  | terminate

/-- What an occasion gives out. -/
inductive ExportResult where
  /-- The answer of the registry. -/
  | answered (answer : ExportAnswer)
  /-- What the application gets for an object. -/
  | exported (result : Except CallError RemoteHandle)
  /-- What is sent for a message. -/
  | written (result : Except MarshalError Bytes)
  | nothing

namespace Desk

variable {τ : Type}

/-- What an occasion gives out, and what it leaves at a desk. -/
def befall (further : List (Stage τ)) (desk : Desk τ) : ExportOccasion → ExportResult × Desk τ
  | .operate operation =>
    let (answer, exports) := desk.channel.exports.operate operation
    (.answered answer, { desk with channel.exports := exports })
  | .exportObject interfaces service =>
    let (result, channel) := desk.channel.exportObject interfaces service
    (.exported result, { desk with channel })
  | .write message =>
    let (result, after) := (message.encode (chain further)).run desk
    (.written result, after)
  | .read bytes => (.nothing, ((ChannelMessage.decode (chain further) bytes).run desk).2)
  | .receive message => (.nothing, { desk with channel := (desk.channel.receive message).1 })
  | .register name service =>
    (.nothing, { desk with
      channel.singletons := desk.channel.singletons.register name service })
  | .terminate => (.nothing, { desk with channel := desk.channel.terminate.1 })

/-- What some occasions leave at a desk. -/
def after (further : List (Stage τ)) (desk : Desk τ) (occasions : List ExportOccasion) : Desk τ :=
  occasions.foldl (fun desk occasion => (desk.befall further occasion).2) desk

/-- To the exports of a channel nothing happens but what the registry can be asked for. -/
theorem exports_befall (further : List (Stage τ)) (desk : Desk τ) (occasion : ExportOccasion) :
    ∃ operations, (desk.befall further occasion).2.channel.exports =
      desk.channel.exports.after operations := by
  cases occasion with
  | operate operation => exact ⟨[operation], rfl⟩
  | exportObject interfaces service =>
    simp only [befall, Channel.exportObject]
    split
    · exact ⟨[], rfl⟩
    · split
      · exact ⟨[], rfl⟩
      · exact ⟨[.publish interfaces service], rfl⟩
  | write message =>
    exact Channel.Grows.exports_after ((grows_chain further).encode habit_grows message desk)
  | read bytes =>
    exact Channel.Grows.exports_after ((grows_chain further).decode habit_grows bytes desk)
  | receive message =>
    cases message with
    | call | reply | unreadable => exact ⟨[], rfl⟩
  | register => exact ⟨[], rfl⟩
  | terminate => exact ⟨[.clear], rfl⟩

theorem exports_after (further : List (Stage τ)) (desk : Desk τ)
    (occasions : List ExportOccasion) : ∃ operations,
      (desk.after further occasions).channel.exports = desk.channel.exports.after operations := by
  induction occasions generalizing desk with
  | nil => exact ⟨[], rfl⟩
  | cons occasion occasions ih =>
    obtain ⟨first, once⟩ := desk.exports_befall further occasion
    obtain ⟨rest, same⟩ := ih (desk.befall further occasion).2
    refine ⟨first ++ rest, ?_⟩
    rw [Exports.after_append, ← once]
    exact same

/-- No occasion brings the registries of a channel into disorder. -/
theorem sound_befall (further : List (Stage τ)) {desk : Desk τ} (sound : desk.channel.Sound)
    (occasion : ExportOccasion) : (desk.befall further occasion).2.channel.Sound := by
  cases occasion with
  | operate operation =>
    exact ⟨sound.exports.operate operation, sound.singletons, sound.imports⟩
  | exportObject interfaces service =>
    simp only [befall, Channel.exportObject]
    split
    · exact sound
    · split
      · exact sound
      · exact ⟨sound.exports.publish interfaces service, sound.singletons, sound.imports⟩
  | write message => exact sound.grows ((grows_chain further).encode habit_grows message desk)
  | read bytes => exact sound.grows ((grows_chain further).decode habit_grows bytes desk)
  | receive message =>
    cases message with
    | call => exact sound
    | reply | unreadable => exact ⟨sound.exports, sound.singletons, sound.imports⟩
  | register name service => exact sound.register name service
  | terminate => exact sound.terminate

theorem sound_after (further : List (Stage τ)) {desk : Desk τ} (sound : desk.channel.Sound)
    (occasions : List ExportOccasion) : (desk.after further occasions).channel.Sound := by
  induction occasions generalizing desk with
  | nil => exact sound
  | cons occasion occasions ih => exact ih (sound_befall further sound occasion)

/-- What is given out for an object is the handle that it has. -/
structure Issues (further : List (Stage τ)) (desk : Desk τ) : Prop where
  /-- The application gets the handle of an object that it exports on an open channel. -/
  granted : ∀ (interfaces : List String) (service : ServiceRef),
    desk.channel.terminated = false → interfaces ⊆ service.interfaces → ∃ handle after,
      desk.befall further (.exportObject interfaces service) = (.exported (.ok handle), after) ∧
        after.channel.exports.handleOf? service = some handle
  /-- For an object that is exported already this is the handle from before, and nothing changes. -/
  again : ∀ (interfaces : List String) (service : ServiceRef) (handle : RemoteHandle),
    desk.channel.terminated = false → interfaces ⊆ service.interfaces →
      desk.channel.exports.handleOf? service = some handle →
        desk.befall further (.exportObject interfaces service) = (.exported (.ok handle), desk)
  /-- An export that cannot be made changes nothing. -/
  refused : ∀ (interfaces : List String) (service : ServiceRef),
    desk.channel.terminated = true ∨ ¬ interfaces ⊆ service.interfaces → ∃ error,
      desk.befall further (.exportObject interfaces service) = (.exported (.error error), desk)
  /-- At a node of a value an object is replaced by its handle, whatever further stages have made of
  the node before. -/
  replaced : ∀ (value : Value) (service : ServiceRef) (between : Desk τ),
    ((plainChain further).replace value).run desk = (.ok (.live (.service service)), between) →
      ∃ handle after, ((chain further).replace value).run desk = (.ok (.remote handle), after) ∧
        after.channel.Refers service handle
  /-- An object that has a handle already is replaced by it, and the channel stays as it is. -/
  replacedAgain : ∀ (value : Value) (service : ServiceRef) (between : Desk τ)
    (handle : RemoteHandle),
    ((plainChain further).replace value).run desk = (.ok (.live (.service service)), between) →
      desk.channel.Refers service handle →
        ((chain further).replace value).run desk = (.ok (.remote handle), between) ∧
          between.channel = desk.channel
  /-- A message without objects of the application is written, with the handle of each object in its
  place. -/
  written : further = [] → ∀ message : ChannelMessage,
    (∀ value ∈ message.values, value.Crosses) → (∀ id reason, message ≠ .unreadable id reason) →
      ∃ portables bytes after,
        desk.befall further (.write message) = (.written (.ok bytes), after) ∧
          message.Spelled portables bytes ∧
            List.Forall₂ (fun value portable => Writing value after.channel portable)
              message.values portables

theorem issues (further : List (Stage τ)) {desk : Desk τ} (sound : desk.channel.Sound) :
    desk.Issues further where
  granted interfaces service isOpen implemented := by
    refine ⟨_, { desk with channel.exports := (desk.channel.exports.publish interfaces service).2 },
      ?_, sound.exports.handleOf?_publish interfaces service⟩
    simp only [befall, Channel.exportObject_granted isOpen implemented]
  again interfaces service handle isOpen implemented known := by
    simp only [befall, Channel.exportObject_granted isOpen implemented,
      Exports.publish_of_handleOf? known]
  refused interfaces service reason := by
    obtain ⟨error, refused⟩ := Channel.exportObject_refused reason
    refine ⟨error, ?_⟩
    simp only [befall, refused]
  replaced value service between left := by
    have same : between.channel = desk.channel := by
      have aside := channel_replace further value desk
      rwa [left] at aside
    obtain ⟨handle, after, _, referred, _, refers, _⟩ := sound.lookup?_refer service
    refine ⟨_, _, replace_service left, ?_⟩
    rw [same, referred]
    exact refers
  replacedAgain value service between handle left refers := by
    have same : between.channel = desk.channel := by
      have aside := channel_replace further value desk
      rwa [left] at aside
    refine ⟨?_, same⟩
    rw [replace_service left, (same ▸ refers : between.channel.Refers service handle).refer]
  written plain message crosses decoded := by
    subst plain
    obtain ⟨portables, bytes, after, run, spelled, writing⟩ :=
      succeeds_encode crosses decoded desk sound
    refine ⟨portables, bytes, after, ?_, spelled, writing⟩
    simp only [befall, run]

/-- **Exports and ids stand one to one, and no id names two objects at any two times**, whatever
the registry is asked for, and whatever a channel exports because it is told to or because it writes
a message; and what it gives out for an object is the handle that the object has. -/
theorem exports_oneToOne (further : List (Stage τ)) (number : Nat) (mark : Nat → UInt64)
    (order : VisitOrder) (entries : List (String × ServiceRef)) (kept : τ)
    (before more : List ExportOccasion) :
    let desk := after further ⟨.new number mark (.ofList order entries), kept⟩ before
    let later := desk.after further more
    desk.channel.exports.OneToOne ∧ desk.channel.exports.Outlived later.channel.exports ∧
      desk.Issues further := by
  intro desk later
  have sound : desk.channel.Sound :=
    sound_after further (Channel.Sound.new number mark order entries) before
  obtain ⟨rest, continued⟩ := desk.exports_after further more
  refine ⟨sound.exports.oneToOne, ?_, issues further sound⟩
  rw [continued]
  exact sound.exports.outlived (desk.channel.exports.precedes_after rest)
    (sound.exports.after rest)

/-- A lamp that the application exports, and a bell that it does not. -/
def lamp : ServiceRef := ⟨1, "lamp", ["Lamp", "Switch"]⟩

def bell : ServiceRef := ⟨2, "bell", ["Bell"]⟩

/-- A result with both objects in it, the bell twice. -/
def parcel : ChannelMessage :=
  .reply 4 (.ok (.list [.live (.service bell), .live (.service lamp), .live (.service bell)]))

/-- The lamp is exported by the application, the bell when it is first sent. -/
def lending : Desk Unit :=
  after [] ⟨.new 0 (fun _ => 7) (.empty .byName), ()⟩ [.exportObject ["Lamp"] lamp, .write parcel]

/-- One object is exported by the application and another by a message.  Both keep the ids that they
have got, and after all exports have been forgotten the lamp gets a new one. -/
theorem exports_oneToOne_lent :
    lending.channel.exports.handleOf? lamp = some ⟨"0000000000000007-0", ["Lamp"]⟩ ∧
      lending.channel.exports.handleOf? bell = some ⟨"0000000000000007-1", ["Bell"]⟩ ∧
      lending.befall [] (.exportObject ["Switch"] lamp) =
        (.exported (.ok ⟨"0000000000000007-0", ["Lamp"]⟩), lending) ∧
      (∃ portables bytes after, lending.befall [] (.write parcel) = (.written (.ok bytes), after) ∧
        parcel.Spelled portables bytes ∧
          List.Forall₂ (fun value portable => Writing value after.channel portable) parcel.values
            portables) ∧
      (lending.after [] [.operate .clear, .exportObject ["Lamp"] lamp]).channel.exports.handleOf?
        lamp = some ⟨"0000000000000007-2", ["Lamp"]⟩ ∧
      ((lending.after [] [.operate .clear, .exportObject ["Lamp"] lamp]).channel.exports.lookup?
          "0000000000000007-1" = some bell ∨
        (lending.after [] [.operate .clear, .exportObject ["Lamp"] lamp]).channel.exports.lookup?
          "0000000000000007-1" = none) := by
  obtain ⟨_, outlived, issues⟩ := exports_oneToOne [] 0 (fun _ => 7) .byName [] ()
    [.exportObject ["Lamp"] lamp, .write parcel] [.operate .clear, .exportObject ["Lamp"] lamp]
  have first : lending.channel.exports.handleOf? lamp = some ⟨"0000000000000007-0", ["Lamp"]⟩ := by
    decide +kernel
  refine ⟨first, by decide +kernel, ?_, ?_, by decide +kernel, ?_⟩
  · exact issues.again ["Switch"] lamp _ (by decide +kernel) (by decide) first
  · refine issues.written rfl parcel (fun value listed typeName key => ?_) (fun _ _ => nofun)
    rw [List.mem_singleton.mp listed]
    simp [Value.references, Value.referencesItems]
  · exact outlived.steady _ bell (by decide +kernel)

end Desk

end Courier
