import Courier.Proofs.Marshal.Keeping
import Mathlib.Data.List.Induction
import Mathlib.Data.List.Nodup
import Mathlib.Data.String.Basic
import Mathlib.Logic.Relation

/-!
# What a channel has names for

An object of a channel is known to the peer by the name of its singleton or by the id of its
export.  Names of singletons do not change, and as long as the channel is open an export stays:
what an id names once, it names for good (`Channel.Grows.lookup?`).  An object is exported once
at most, and whatever id it is referred to by, that id leads back to it
(`Channel.lookup?_refer`).
-/

namespace Courier

set_option autoImplicit false

/-! ## Maps in the order of their keys -/

namespace Entries

variable {α : Type} {key : String} {value : α} {entries : List (String × α)}

theorem mem_insert {entry : String × α} (listed : entry ∈ insert key value entries) :
    entry = (key, value) ∨ entry ∈ entries := by
  induction entries with
  | nil => exact .inl (List.mem_singleton.mp listed)
  | cons first rest ih =>
    unfold insert at listed
    split at listed
    · exact List.mem_cons.mp listed
    · split at listed
      · exact (List.mem_cons.mp listed).imp_right (List.mem_cons_of_mem _)
      · rcases List.mem_cons.mp listed with rfl | later
        · exact .inr (List.mem_cons_self ..)
        · exact (ih later).imp_right (List.mem_cons_of_mem _)

theorem Ascending.insert (ascending : Ascending entries) :
    Ascending (insert key value entries) := by
  induction entries with
  | nil => exact List.pairwise_singleton _ _
  | cons first rest ih =>
    obtain ⟨below, ascending⟩ := List.pairwise_cons.mp ascending
    unfold Entries.insert
    split
    · rename_i before
      refine List.pairwise_cons.mpr ⟨fun entry listed => ?_, List.pairwise_cons.mpr
        ⟨below, ascending⟩⟩
      rcases List.mem_cons.mp listed with rfl | later
      · exact before
      · exact String.lt_trans before (below entry later)
    · split
      · rename_i same
        exact List.pairwise_cons.mpr ⟨same ▸ below, ascending⟩
      · rename_i notBefore differs
        refine List.pairwise_cons.mpr ⟨fun entry listed => ?_, ih ascending⟩
        rcases mem_insert listed with rfl | later
        · exact lt_of_le_of_ne (not_lt.mp notBefore) (Ne.symm differs)
        · exact below entry later

/-- Each entry of a map is found under its key. -/
theorem get?_of_mem (ascending : Ascending entries) (listed : (key, value) ∈ entries) :
    get? key entries = some value := by
  induction entries with
  | nil => cases listed
  | cons first rest ih =>
    obtain ⟨below, ascending⟩ := List.pairwise_cons.mp ascending
    rcases List.mem_cons.mp listed with rfl | later
    · simp [get?]
    · have differs : first.1 ≠ key := fun same =>
        String.lt_irrefl _ (same ▸ below (key, value) later)
      rw [get?, if_neg differs, ih ascending later]

end Entries

/-! ## Singletons -/

namespace Singletons

theorem ascending_ofList (order : VisitOrder) (entries : List (String × ServiceRef)) :
    Entries.Ascending (ofList order entries).entries := by
  unfold ofList
  induction entries using List.reverseRecOn with
  | nil => exact .nil
  | append_singleton entries entry ih =>
    rw [List.foldl_append]
    exact ih.insert

/-- The name of an object leads back to it. -/
theorem get?_of_nameOf? {singletons : Singletons} (ascending : Entries.Ascending singletons.entries)
    {service : ServiceRef} {name : String} (named : singletons.nameOf? service = some name) :
    ∃ found, singletons.get? name = some found ∧ found.identity = service.identity := by
  obtain ⟨⟨key, found⟩, seen, rfl⟩ := Option.map_eq_some_iff.mp named
  have listed := (singletons.order.perm singletons.entries).subset (List.mem_of_find?_eq_some seen)
  exact ⟨found, Entries.get?_of_mem ascending listed, by simpa using List.find?_some seen⟩

end Singletons

/-! ## Exports -/

/-- Where keys differ, an entry is found under its own key. -/
theorem find?_key_iff {α κ : Type} [DecidableEq κ] (key : α → κ) {entries : List α}
    (distinct : (entries.map key).Nodup) {sought : κ} {entry : α} :
    entries.find? (fun other => key other = sought) = some entry ↔
      entry ∈ entries ∧ key entry = sought := by
  constructor
  · intro found
    exact ⟨List.mem_of_find?_eq_some found, by simpa using List.find?_some found⟩
  · rintro ⟨listed, rfl⟩
    cases found : entries.find? fun other => key other = key entry with
    | none => simpa using List.find?_eq_none.mp found entry listed
    | some other =>
      have same : key other = key entry := by simpa using List.find?_some found
      rw [List.inj_on_of_nodup_map distinct (List.mem_of_find?_eq_some found) listed same]

namespace Exports

variable {exports : Exports} {interfaces : List String} {service : ServiceRef}

theorem toString_injective {first second : Nat} (same : toString first = toString second) :
    first = second := by
  have digits : Nat.toDigits 10 first = Nat.toDigits 10 second := by
    have letters : (Nat.repr first).toList = (Nat.repr second).toList :=
      congrArg String.toList same
    simpa using letters
  calc
    first = Nat.ofDigitChars 10 (Nat.toDigits 10 first) 0 := Nat.ofDigitChars_ten_toDigits.symm
    _ = Nat.ofDigitChars 10 (Nat.toDigits 10 second) 0 := by rw [digits]
    _ = second := Nat.ofDigitChars_ten_toDigits

theorem length_hexDigits (bytes : Bytes) : (Bytes.hexDigits bytes).length = 2 * bytes.length := by
  induction bytes with
  | nil => rfl
  | cons byte bytes ih =>
    simp only [Bytes.hexDigits, List.flatMap_cons, List.length_append, List.length_cons,
      List.length_nil] at ih ⊢
    omega

theorem instanceId_toList (exports : Exports) (number : Nat) :
    (exports.instanceId number).toList =
      Bytes.hexDigits (Bytes.ofNatBE 8 (exports.mark number).toNat) ++
        '-' :: (toString number).toList := by
  simp [instanceId, Bytes.toHex, ToString.toString]

theorem instanceId_congr {other : Exports} (same : other.mark = exports.mark) :
    other.instanceId = exports.instanceId := by
  funext number
  rw [instanceId, instanceId, same]

/-- The number at the end keeps the ids of exports apart. -/
theorem instanceId_injective {first second : Nat}
    (same : exports.instanceId first = exports.instanceId second) : first = second := by
  have letters := congrArg String.toList same
  rw [instanceId_toList, instanceId_toList] at letters
  obtain ⟨_, ends⟩ := List.append_inj letters (by
    rw [length_hexDigits, length_hexDigits, Bytes.length_ofNatBE, Bytes.length_ofNatBE])
  exact toString_injective (String.toList_injective (List.cons.inj ends).2)

theorem hexDigit_ne_at : ∀ number < 16, Bytes.hexDigit number ≠ '@' := by decide

/-- No id of an export is that of a singleton. -/
theorem singletonNameOf?_instanceId (exports : Exports) (number : Nat) :
    RemoteHandle.singletonNameOf? (exports.instanceId number) = none := by
  unfold RemoteHandle.singletonNameOf?
  rw [instanceId_toList]
  cases drawn : Bytes.ofNatBE 8 (exports.mark number).toNat with
  | nil =>
    have length := Bytes.length_ofNatBE 8 (exports.mark number).toNat
    rw [drawn] at length
    cases length
  | cons byte bytes =>
    have bound := byte.toNat_lt
    have letter := hexDigit_ne_at (byte.toNat / 16) (by omega)
    simp [Bytes.hexDigits, letter]

/-- The ids of the exports are given out in order, each for one export only, and no object is
exported twice. -/
structure Sound (exports : Exports) : Prop where
  /-- Clearing leaves out numbers that have been given out. -/
  ids : ∃ numbers : List Nat, numbers.Sublist (List.range exports.count) ∧
    exports.entries.map (·.2.instanceId) = numbers.map exports.instanceId
  once : (exports.entries.map (·.1.identity)).Nodup

theorem Sound.new (mark : Nat → UInt64) : (Exports.new mark).Sound := ⟨⟨[], .slnil, rfl⟩, .nil⟩

theorem Sound.ids_nodup (sound : exports.Sound) :
    (exports.entries.map (·.2.instanceId)).Nodup := by
  obtain ⟨numbers, given, ids⟩ := sound.ids
  rw [ids]
  exact (given.nodup List.nodup_range).map fun _ _ same => instanceId_injective same

/-- An id that leads somewhere has been given out. -/
theorem Sound.exists_number (sound : exports.Sound) {entry : ServiceRef × RemoteHandle}
    (listed : entry ∈ exports.entries) :
    ∃ number < exports.count, entry.2.instanceId = exports.instanceId number := by
  obtain ⟨numbers, given, ids⟩ := sound.ids
  have named : entry.2.instanceId ∈ numbers.map exports.instanceId :=
    ids ▸ List.mem_map_of_mem listed
  obtain ⟨number, chosen, same⟩ := List.mem_map.mp named
  exact ⟨number, List.mem_range.mp (given.subset chosen), same.symm⟩

theorem sound_clear (exports : Exports) : exports.clear.Sound :=
  ⟨⟨[], List.nil_sublist _, rfl⟩, .nil⟩

/-- What publishing an object can do: it gives the handle that the object has, or it adds the object
with the next id. -/
theorem publish_cases (exports : Exports) (interfaces : List String) (service : ServiceRef) :
    (∃ entry ∈ exports.entries, entry.1.identity = service.identity ∧
        exports.publish interfaces service = (entry.2, exports)) ∨
      service.identity ∉ exports.entries.map (·.1.identity) ∧
        exports.publish interfaces service =
          (⟨exports.instanceId exports.count, interfaces⟩, { exports with
            count := exports.count + 1
            entries := exports.entries ++
              [(service, ⟨exports.instanceId exports.count, interfaces⟩)] }) := by
  unfold publish handleOf?
  cases found : exports.entries.find? fun entry => entry.1.identity = service.identity with
  | none =>
    refine .inr ⟨?_, rfl⟩
    intro listed
    obtain ⟨entry, listed, same⟩ := List.mem_map.mp listed
    exact List.find?_eq_none.mp found entry listed (by simpa using same)
  | some entry =>
    exact .inl ⟨entry, List.mem_of_find?_eq_some found, by simpa using List.find?_some found, rfl⟩

theorem Sound.publish (sound : exports.Sound) (interfaces : List String) (service : ServiceRef) :
    (exports.publish interfaces service).2.Sound := by
  rcases exports.publish_cases interfaces service with ⟨entry, _, _, known⟩ | ⟨fresh, added⟩
  · rw [known]
    exact sound
  · rw [added]
    constructor
    case ids =>
      obtain ⟨numbers, given, ids⟩ := sound.ids
      refine ⟨numbers ++ [exports.count], ?_, ?_⟩
      · rw [List.range_succ]
        exact given.append (.refl _)
      · rw [List.map_append, ids, List.map_append]
        rfl
    case once =>
      rw [List.map_append]
      refine List.nodup_append.mpr ⟨sound.once, List.nodup_singleton _, ?_⟩
      rintro identity listed _ last rfl
      obtain rfl := List.mem_singleton.mp last
      exact fresh listed

/-- An export is found under its id. -/
theorem Sound.lookup?_of_mem (sound : exports.Sound) {entry : ServiceRef × RemoteHandle}
    (listed : entry ∈ exports.entries) : exports.lookup? entry.2.instanceId = some entry.1 := by
  rw [lookup?, (find?_key_iff (·.2.instanceId) sound.ids_nodup).mpr ⟨listed, rfl⟩]
  rfl

/-- An export is found under its object. -/
theorem Sound.handleOf?_of_mem (sound : exports.Sound) {entry : ServiceRef × RemoteHandle}
    {service : ServiceRef} (listed : entry ∈ exports.entries)
    (same : entry.1.identity = service.identity) : exports.handleOf? service = some entry.2 := by
  rw [handleOf?, (find?_key_iff (·.1.identity) sound.once).mpr ⟨listed, same⟩]
  rfl

/-- A published object is found under the id of its handle. -/
theorem Sound.lookup?_publish (sound : exports.Sound) (interfaces : List String)
    (service : ServiceRef) : ∃ found,
      (exports.publish interfaces service).2.lookup?
        (exports.publish interfaces service).1.instanceId = some found ∧
      found.identity = service.identity := by
  have after := sound.publish interfaces service
  rcases exports.publish_cases interfaces service with ⟨entry, listed, same, known⟩ | ⟨_, added⟩
  · rw [known]
    exact ⟨entry.1, sound.lookup?_of_mem listed, same⟩
  · rw [added] at after ⊢
    generalize exports.instanceId exports.count = id at after ⊢
    have found := after.lookup?_of_mem (List.mem_append_right _ (List.mem_singleton_self _))
    exact ⟨service, found, rfl⟩

/-- What an id names stays named by it when another object is published. -/
theorem lookup?_publish_of_some {id : String} {found : ServiceRef}
    (named : exports.lookup? id = some found) (interfaces : List String) (service : ServiceRef) :
    (exports.publish interfaces service).2.lookup? id = some found := by
  rcases exports.publish_cases interfaces service with ⟨_, _, _, known⟩ | ⟨_, added⟩
  · rw [known, named]
  · obtain ⟨entry, seen, rfl⟩ := Option.map_eq_some_iff.mp named
    rw [added]
    unfold lookup?
    rw [List.find?_append, seen]
    rfl

/-- The handle of an object stays its handle when another object is published. -/
theorem handleOf?_publish_of_some {handle : RemoteHandle} {exported : ServiceRef}
    (known : exports.handleOf? exported = some handle) (interfaces : List String)
    (service : ServiceRef) :
    (exports.publish interfaces service).2.handleOf? exported = some handle := by
  rcases exports.publish_cases interfaces service with ⟨_, _, _, same⟩ | ⟨_, added⟩
  · rw [same, known]
  · obtain ⟨entry, seen, rfl⟩ := Option.map_eq_some_iff.mp known
    rw [added]
    unfold handleOf?
    rw [List.find?_append, seen]
    rfl

/-- An object that has been published has the handle that was given for it. -/
theorem Sound.handleOf?_publish (sound : exports.Sound) (interfaces : List String)
    (service : ServiceRef) : (exports.publish interfaces service).2.handleOf? service =
      some (exports.publish interfaces service).1 := by
  have after := sound.publish interfaces service
  rcases exports.publish_cases interfaces service with ⟨entry, listed, same, known⟩ | ⟨_, added⟩
  · rw [known]
    exact sound.handleOf?_of_mem listed same
  · rw [added] at after ⊢
    generalize exports.instanceId exports.count = id at after ⊢
    exact after.handleOf?_of_mem (List.mem_append_right _ (List.mem_singleton_self _)) rfl

/-- Just ids of the registry's own lead to an object. -/
theorem Sound.exists_instanceId (sound : exports.Sound) {id : String} {found : ServiceRef}
    (named : exports.lookup? id = some found) : ∃ number, id = exports.instanceId number := by
  obtain ⟨entry, seen, _⟩ := Option.map_eq_some_iff.mp named
  have same : entry.2.instanceId = id := by simpa using List.find?_some seen
  obtain ⟨number, _, given⟩ := sound.exists_number (List.mem_of_find?_eq_some seen)
  exact ⟨number, same.symm.trans given⟩

end Exports

/-! ## Channels -/

namespace Channel

variable {channel : Channel}

/-- The registries of a channel are in order. -/
structure Sound (channel : Channel) : Prop where
  exports : channel.exports.Sound
  singletons : Entries.Ascending channel.singletons.entries
  imports : ∀ entry ∈ channel.imports, entry.2.handle.instanceId = entry.1

theorem Sound.new (number : Nat) (mark : Nat → UInt64) (order : VisitOrder)
    (entries : List (String × ServiceRef)) :
    (Channel.new number mark (.ofList order entries)).Sound where
  exports := .new mark
  singletons := Singletons.ascending_ofList order entries
  imports _ listed := by cases listed

/-- An object is registered by name, at any time. -/
theorem Sound.register (sound : channel.Sound) (name : String) (service : ServiceRef) :
    Sound { channel with singletons := channel.singletons.register name service } :=
  ⟨sound.exports, sound.singletons.insert, sound.imports⟩

/-- What an open channel does with its registries. -/
inductive Works (channel : Channel) : Channel → Prop
  | publish (interfaces : List String) (service : ServiceRef) : Works channel
      { channel with exports := (channel.exports.publish interfaces service).2 }
  | proxy (handle : RemoteHandle) : Works channel (channel.proxy handle).2
  | calls (calls : CallTable) : Works channel { channel with calls }

/-- A channel after any work. -/
def Grows : Channel → Channel → Prop := Relation.ReflTransGen Works

/-- The proxy for a handle is one for its id. -/
theorem Sound.proxy_cases (sound : channel.Sound) (handle : RemoteHandle) :
    ∃ proxy after, channel.proxy handle = (proxy, after) ∧
      proxy.handle.instanceId = handle.instanceId ∧ after.exports = channel.exports ∧
      after.singletons = channel.singletons ∧ after.Sound := by
  unfold Channel.proxy
  cases found : channel.imports.find? fun entry => entry.1 = handle.instanceId with
  | some entry =>
    have same : entry.1 = handle.instanceId := by simpa using List.find?_some found
    have named := sound.imports entry (List.mem_of_find?_eq_some found)
    exact ⟨entry.2, channel, rfl, named.trans same, rfl, rfl, sound⟩
  | none =>
    refine ⟨_, _, rfl, rfl, rfl, rfl, sound.exports, sound.singletons, fun entry listed => ?_⟩
    rcases List.mem_append.mp listed with before | last
    · exact sound.imports entry before
    · rw [List.mem_singleton.mp last]

theorem Sound.works {after : Channel} (sound : channel.Sound) (works : channel.Works after) :
    after.Sound := by
  cases works with
  | publish interfaces service =>
    exact ⟨sound.exports.publish interfaces service, sound.singletons, sound.imports⟩
  | proxy handle =>
    obtain ⟨_, after, made, _, _, _, kept⟩ := sound.proxy_cases handle
    rw [made]
    exact kept
  | calls calls => exact ⟨sound.exports, sound.singletons, sound.imports⟩

theorem Sound.grows {after : Channel} (sound : channel.Sound) (grows : channel.Grows after) :
    after.Sound := by
  induction grows with
  | refl => exact sound
  | tail _ works ih => exact ih.works works

theorem lookup?_of_name {id name : String}
    (singleton : RemoteHandle.singletonNameOf? id = some name) (channel : Channel) :
    channel.lookup? id = channel.singletons.get? name := by
  simp only [lookup?, singleton]

theorem lookup?_of_no_name {id : String} (foreign : RemoteHandle.singletonNameOf? id = none)
    (channel : Channel) : channel.lookup? id = channel.exports.lookup? id := by
  simp only [lookup?, foreign]

/-- What an id leads to depends on nothing but the registries. -/
theorem lookup?_congr {other : Channel} (exports : other.exports = channel.exports)
    (singletons : other.singletons = channel.singletons) : other.lookup? = channel.lookup? := by
  funext id
  rw [lookup?, lookup?, exports, singletons]

theorem proxy_registries (channel : Channel) (handle : RemoteHandle) :
    (channel.proxy handle).2.exports = channel.exports ∧
      (channel.proxy handle).2.singletons = channel.singletons := by
  unfold Channel.proxy
  cases channel.imports.find? fun entry => entry.1 = handle.instanceId <;> exact ⟨rfl, rfl⟩

/-- Work of a channel takes no name away. -/
theorem Works.lookup? {after : Channel} (works : channel.Works after) {id : String}
    {found : ServiceRef} (named : channel.lookup? id = some found) :
    after.lookup? id = some found := by
  cases works with
  | publish interfaces service =>
    cases singleton : RemoteHandle.singletonNameOf? id with
    | some name =>
      rw [lookup?_of_name singleton] at named ⊢
      exact named
    | none =>
      rw [lookup?_of_no_name singleton] at named ⊢
      exact Exports.lookup?_publish_of_some named interfaces service
  | proxy handle =>
    obtain ⟨exports, singletons⟩ := channel.proxy_registries handle
    rw [lookup?_congr exports singletons, named]
  | calls calls => exact named

/-- What an id leads to once, it leads to for good. -/
theorem Grows.lookup? {after : Channel} (grows : channel.Grows after) {id : String}
    {found : ServiceRef} (named : channel.lookup? id = some found) :
    after.lookup? id = some found := by
  induction grows with
  | refl => exact named
  | tail _ works ih => exact works.lookup? ih

/-- Neither the singletons change nor the ids that exports will get. -/
theorem Grows.names {after : Channel} (grows : channel.Grows after) :
    after.singletons = channel.singletons ∧ after.exports.mark = channel.exports.mark := by
  induction grows with
  | refl => exact ⟨rfl, rfl⟩
  | @tail between _ _ works ih =>
    cases works with
    | publish interfaces service =>
      rcases between.exports.publish_cases interfaces service with ⟨_, _, _, known⟩ | ⟨_, added⟩
      · rw [known]
        exact ih
      · rw [added]
        exact ih
    | proxy handle =>
      obtain ⟨exports, singletons⟩ := between.proxy_registries handle
      rw [exports, singletons]
      exact ih
    | calls calls => exact ih

theorem refer_singleton {service : ServiceRef} {name : String}
    (named : channel.singletons.nameOf? service = some name) :
    channel.refer service = (.singleton name service.interfaces, channel) := by
  simp only [refer, named]

theorem refer_export {service : ServiceRef} (unnamed : channel.singletons.nameOf? service = none) :
    channel.refer service = ((channel.exports.publish service.interfaces service).1,
      { channel with exports := (channel.exports.publish service.interfaces service).2 }) := by
  simp only [refer, unnamed]

/-- The handle by which the peer is to know an object: the one that names it as a singleton, or else
that of its export. -/
inductive Refers (channel : Channel) (service : ServiceRef) : RemoteHandle → Prop
  | singleton {name : String} (named : channel.singletons.nameOf? service = some name) :
      Refers channel service (.singleton name service.interfaces)
  | exported {handle : RemoteHandle} (unnamed : channel.singletons.nameOf? service = none)
      (known : channel.exports.handleOf? service = some handle) : Refers channel service handle

/-- As long as the channel only works, an object keeps its handle. -/
theorem Works.refers {after : Channel} (works : channel.Works after) {service : ServiceRef}
    {handle : RemoteHandle} (refers : channel.Refers service handle) :
    after.Refers service handle := by
  cases works with
  | publish interfaces other =>
    cases refers with
    | singleton named => exact .singleton named
    | exported unnamed known =>
      exact .exported unnamed (Exports.handleOf?_publish_of_some known interfaces other)
  | proxy given =>
    obtain ⟨exports, singletons⟩ := channel.proxy_registries given
    cases refers with
    | singleton named => exact .singleton (singletons ▸ named)
    | exported unnamed known => exact .exported (singletons ▸ unnamed) (exports ▸ known)
  | calls calls =>
    cases refers with
    | singleton named => exact .singleton named
    | exported unnamed known => exact .exported unnamed known

theorem Grows.refers {after : Channel} (grows : channel.Grows after) {service : ServiceRef}
    {handle : RemoteHandle} (refers : channel.Refers service handle) :
    after.Refers service handle := by
  induction grows with
  | refl => exact refers
  | tail _ works ih => exact works.refers ih

/-- The id by which an object is referred to leads back to it. -/
theorem Sound.lookup?_refer (sound : channel.Sound) (service : ServiceRef) :
    ∃ handle after found, channel.refer service = (handle, after) ∧ channel.Grows after ∧
      after.Refers service handle ∧ after.lookup? handle.instanceId = some found ∧
      found.identity = service.identity := by
  cases named : channel.singletons.nameOf? service with
  | some name =>
    obtain ⟨found, seen, same⟩ := Singletons.get?_of_nameOf? sound.singletons named
    refine ⟨_, _, found, refer_singleton named, .refl, .singleton named, ?_, same⟩
    have singleton := RemoteHandle.singletonName?_singleton name service.interfaces
    exact (lookup?_of_name singleton channel).trans seen
  | none =>
    obtain ⟨found, seen, same⟩ := sound.exports.lookup?_publish service.interfaces service
    have grows : channel.Grows
        { channel with exports := (channel.exports.publish service.interfaces service).2 } :=
      .single (.publish service.interfaces service)
    obtain ⟨number, id⟩ := (sound.grows grows).exports.exists_instanceId seen
    have foreign := Exports.singletonNameOf?_instanceId
      (channel.exports.publish service.interfaces service).2 number
    have exported := sound.exports.handleOf?_publish service.interfaces service
    refine ⟨_, _, found, refer_export named, grows, .exported named exported, ?_, same⟩
    exact (lookup?_of_no_name (id ▸ foreign) _).trans seen

/-- A handle stands for what its id leads to, or else for a proxy of this id. -/
theorem Sound.resolve_cases (sound : channel.Sound) (handle : RemoteHandle) :
    (∃ service, channel.lookup? handle.instanceId = some service ∧
        channel.resolve handle = (.service service, channel)) ∨
      channel.lookup? handle.instanceId = none ∧ ∃ proxy after,
        channel.resolve handle = (.proxy proxy, after) ∧ channel.Grows after ∧
        proxy.handle.instanceId = handle.instanceId ∧ after.lookup? = channel.lookup? := by
  unfold Channel.resolve
  cases seen : channel.lookup? handle.instanceId with
  | some service => exact .inl ⟨service, rfl, rfl⟩
  | none =>
    obtain ⟨proxy, after, made, named, exports, singletons, _⟩ := sound.proxy_cases handle
    have grows : channel.Grows (channel.proxy handle).2 := .single (.proxy handle)
    rw [made] at grows ⊢
    exact .inr ⟨rfl, proxy, after, rfl, grows, named, lookup?_congr exports singletons⟩

end Channel

end Courier
