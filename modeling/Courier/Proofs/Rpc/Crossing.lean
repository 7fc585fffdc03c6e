import Courier.Proofs.Rpc.Registries
import Courier.Proofs.Value.Shapes

/-!
# Marshaling at a channel without further stages

A value without objects of the application can always be written, and what was
written can always be read.  The shape of the value stays.  On the way out an
object of the channel becomes the handle that the channel has for it, whose id leads
back to the object, and a proxy becomes its handle (`Channel.Writes`); on the way in a handle becomes the object
to which its id leads, or else a proxy for this id (`Channel.Reads`).  What a
channel does to its registries on the way out is work like any other, and on the
way in it makes proxies at most.
-/

namespace Courier

set_option autoImplicit false

/-! ## References -/

/-- No leaf of a value is an object of the application. -/
def Value.Crosses (value : Value) : Prop :=
  ∀ typeName key, .live (.object typeName key) ∉ value.references

theorem Value.Crosses.of_sublist {value part : Value} (crosses : value.Crosses)
    (among : part.references.Sublist value.references) : part.Crosses :=
  fun typeName key listed => crosses typeName key (among.subset listed)

namespace Channel

variable {channel after : Channel}

/-- What a channel writes for a reference. -/
inductive Writes (channel : Channel) : Value → Value → Prop
  | service {service found : ServiceRef} {handle : RemoteHandle}
      (refers : channel.Refers service handle)
      (named : channel.lookup? handle.instanceId = some found)
      (same : found.identity = service.identity) :
      Writes channel (.live (.service service)) (.remote handle)
  | proxy (proxy : ProxyRef) : Writes channel (.live (.proxy proxy)) (.remote proxy.handle)
  | handle (handle : RemoteHandle) : Writes channel (.remote handle) (.remote handle)

/-- What a channel reads for a reference. -/
inductive Reads (channel : Channel) : Value → Value → Prop
  | own {handle : RemoteHandle} {service : ServiceRef}
      (named : channel.lookup? handle.instanceId = some service) :
      Reads channel (.remote handle) (.live (.service service))
  | foreign {handle : RemoteHandle} {proxy : ProxyRef}
      (unnamed : channel.lookup? handle.instanceId = none)
      (same : proxy.handle.instanceId = handle.instanceId) :
      Reads channel (.remote handle) (.live (.proxy proxy))

/-- Work by which no id comes to lead anywhere else. -/
structure Learns (channel after : Channel) : Prop where
  grows : channel.Grows after
  lookup? : after.lookup? = channel.lookup?

theorem Writes.grows {leaf written : Value} (writes : channel.Writes leaf written)
    (grows : channel.Grows after) : after.Writes leaf written := by
  cases writes with
  | service refers named same => exact .service (grows.refers refers) (grows.lookup? named) same
  | proxy proxy => exact .proxy proxy
  | handle handle => exact .handle handle

theorem Reads.learns {handle leaf : Value} (reads : channel.Reads handle leaf)
    (learns : channel.Learns after) : after.Reads handle leaf := by
  cases reads with
  | own named => exact .own (learns.lookup? ▸ named)
  | foreign unnamed id => exact .foreign (learns.lookup? ▸ unnamed) id

/-- A kind of work of a channel. -/
structure Kind (moves : Channel → Channel → Prop) : Prop extends Marshal.Habit moves where
  grows : ∀ {channel after}, moves channel after → channel.Grows after

theorem Kind.growing : Kind Grows := ⟨⟨fun _ => .refl, .trans⟩, id⟩

theorem Kind.learning : Kind Learns where
  refl _ := ⟨.refl, rfl⟩
  trans first second :=
    ⟨first.grows.trans second.grows, second.lookup?.trans first.lookup?⟩
  grows := Learns.grows

end Channel

/-! ## Steps that succeed -/

namespace Desk

variable {τ α β : Type} {moves : Channel → Channel → Prop}

/-- A step that always succeeds at a desk whose registries are in order, with some kind of work and
with a result that has to do with the channel as it is then. -/
def Succeeds (moves : Channel → Channel → Prop) (step : Marshal (Desk τ) α)
    (related : Channel → α → Prop) : Prop :=
  ∀ desk, desk.channel.Sound → ∃ result after, step.run desk = (.ok result, after) ∧
    moves desk.channel after.channel ∧ related after.channel result

theorem Succeeds.pure (kind : Channel.Kind moves) {result : α} {related : Channel → α → Prop}
    (holds : ∀ channel, related channel result) :
    Succeeds moves (pure result : Marshal (Desk τ) α) related :=
  fun desk _ => ⟨result, desk, rfl, kind.refl _, holds _⟩

theorem Succeeds.imp {step : Marshal (Desk τ) α} {related further : Channel → α → Prop}
    (succeeds : Succeeds moves step related)
    (weaker : ∀ channel result, related channel result → further channel result) :
    Succeeds moves step further := by
  intro desk sound
  obtain ⟨result, after, run, moved, holds⟩ := succeeds desk sound
  exact ⟨result, after, run, moved, weaker _ _ holds⟩

/-- The second step can rely on what the first has left. -/
theorem Succeeds.bind (kind : Channel.Kind moves) {step : Marshal (Desk τ) α}
    {next : α → Marshal (Desk τ) β} {related : Channel → α → Prop} {further : Channel → β → Prop}
    (first : Succeeds moves step related)
    (second : ∀ result left, related left result → Succeeds moves (next result)
      fun channel other => moves left channel → further channel other) :
    Succeeds moves (step >>= next) further := by
  intro desk sound
  obtain ⟨result, between, run, before, holds⟩ := first desk sound
  obtain ⟨other, after, continued, later, holds'⟩ := second result between.channel holds between
    (sound.grows (kind.grows before))
  refine ⟨other, after, ?_, kind.trans before later, holds' later⟩
  rw [Marshal.run_bind, run]
  exact continued

section Lists

variable {γ : Type} {related : α → Channel → β → Prop}

/-- A step for the first item of a list, and then those for the others. -/
theorem Succeeds.cons (kind : Channel.Kind moves)
    (kept : ∀ item channel after result, related item channel result → moves channel after →
      related item after result)
    {item : α} {items : List α} {step : Marshal (Desk τ) γ} {others : Marshal (Desk τ) (List β)}
    (finish : γ → β)
    (first : Succeeds moves step fun channel part => related item channel (finish part))
    (rest : Succeeds moves others fun channel =>
      List.Forall₂ (fun item => related item channel) items) :
    Succeeds moves (do
        let part ← step
        let results ← others
        return finish part :: results) fun channel =>
      List.Forall₂ (fun item => related item channel) (item :: items) := by
  refine first.bind kind fun part left holds => ?_
  refine rest.bind kind fun results between all => .pure kind fun channel later overall => ?_
  exact .cons (kept _ _ _ _ holds overall) (all.imp fun _ _ holds => kept _ _ _ _ holds later)

/-- Steps for all items of a list, one after the other. -/
theorem Succeeds.mapM (kind : Channel.Kind moves)
    (kept : ∀ item channel after result, related item channel result → moves channel after →
      related item after result)
    {step : α → Marshal (Desk τ) β} {items : List α}
    (each : ∀ item ∈ items, Succeeds moves (step item) (related item)) :
    Succeeds moves (items.mapM step) fun channel =>
      List.Forall₂ (fun item => related item channel) items := by
  induction items with
  | nil => exact .pure kind fun _ => .nil
  | cons item items ih =>
    rw [List.mapM_cons]
    exact .cons kind kept id (each item (List.mem_cons_self ..))
      (ih fun other listed => each other (List.mem_cons_of_mem _ listed))

end Lists

/-! ## On the way out -/

/-- A portable form of a value, with handles for its references. -/
def Writing (value : Value) (channel : Channel) (portable : Portable) : Prop :=
  value.Resembles channel.Writes portable.value

theorem Writing.grows {value : Value} {channel after : Channel} {portable : Portable}
    (writing : Writing value channel portable) (grows : channel.Grows after) :
    Writing value after portable :=
  writing.mono fun _ _ writes => writes.grows grows

theorem Writing.list {items : List Value} {channel : Channel} {portables : List Portable}
    (each : List.Forall₂ (fun item => Writing item channel) items portables) :
    Writing (.list items) channel (.list portables) := by
  refine Value.Resembles.list ?_
  rw [Portable.values_eq_map]
  exact List.forall₂_map_right_iff.mpr each

/-- An entry of a map with its key. -/
def WritingEntry (entry : String × Value) (channel : Channel) (portable : String × Portable) :
    Prop := entry.1 = portable.1 ∧ Writing entry.2 channel portable.2

theorem Writing.map {entries : List (String × Value)} {channel : Channel}
    {portables : List (String × Portable)}
    (each : List.Forall₂ (fun entry => WritingEntry entry channel) entries portables) :
    Writing (.map entries) channel (.map portables) := by
  refine Value.Resembles.map ?_
  rw [Portable.valueEntries_eq_map]
  exact List.forall₂_map_right_iff.mpr each

/-- A single node is written as the channel replaces it. -/
theorem succeeds_replace {value : Value} (crosses : value.Crosses) :
    Succeeds Channel.Grows ((chain ([] : List (Stage τ))).replace value) fun channel node =>
      node = value ∧ (∀ object, value ≠ .live object) ∨
        ∃ handle, node = .remote handle ∧ Writing value channel (.ref handle) := by
  intro desk sound
  cases value with
  | live object =>
    cases object with
    | object typeName key => exact absurd (List.mem_singleton_self _) (crosses typeName key)
    | proxy proxy =>
      exact ⟨_, _, rfl, .refl, .inr ⟨proxy.handle, rfl, rfl, .cons (.proxy proxy) .nil⟩⟩
    | service service =>
      obtain ⟨handle, after, found, referred, grows, refers, named, same⟩ :=
        sound.lookup?_refer service
      have replaced : Channel.replaceNode (.live (.service service)) desk.channel =
          (.remote handle, after) := by simp only [Channel.replaceNode, referred]
      exact ⟨.remote handle, { desk with channel := after },
        congrArg (fun node : Value × Channel => (Except.ok node.1,
          ({ desk with channel := node.2 } : Desk τ))) replaced,
        grows, .inr ⟨handle, rfl, rfl, .cons (.service refers named same) .nil⟩⟩
  | _ => exact ⟨_, desk, rfl, .refl, .inl ⟨rfl, nofun⟩⟩

theorem succeeds_toPortableWithin {allowance : Nat} {value : Value} (deep : value.depth < allowance)
    (crosses : value.Crosses) :
    Succeeds Channel.Grows ((chain ([] : List (Stage τ))).toPortableWithin allowance value)
      (Writing value) := by
  induction allowance generalizing value with
  | zero => cases deep
  | succ allowance ih =>
    have part (item : Value) (smaller : item.depth < value.depth)
        (among : item.references.Sublist value.references) :
        Succeeds Channel.Grows ((chain ([] : List (Stage τ))).toPortableWithin allowance item)
          (Writing item) :=
      ih (Nat.lt_of_lt_of_le smaller (Nat.le_of_lt_succ deep)) (crosses.of_sublist among)
    refine (succeeds_replace crosses).bind .growing fun node left replaced => ?_
    rcases replaced with ⟨rfl, data⟩ | ⟨handle, rfl, writing⟩
    · cases node with
      | null => exact .pure .growing fun _ _ => ⟨rfl, .nil⟩
      | bool value => exact .pure .growing fun _ _ => ⟨rfl, .nil⟩
      | int value => exact .pure .growing fun _ _ => ⟨rfl, .nil⟩
      | float value => exact .pure .growing fun _ _ => ⟨rfl, .nil⟩
      | str text => exact .pure .growing fun _ _ => ⟨rfl, .nil⟩
      | bytes content => exact .pure .growing fun _ _ => ⟨rfl, .nil⟩
      | remote handle => exact .pure .growing fun _ _ => ⟨rfl, .cons (.handle handle) .nil⟩
      | live object => exact absurd rfl (data object)
      | list items =>
        have each : Succeeds Channel.Grows
            (items.mapM ((chain ([] : List (Stage τ))).toPortableWithin allowance)) fun channel =>
              List.Forall₂ (fun item => Writing item channel) items := by
          refine .mapM .growing (fun _ _ _ _ written grows => written.grows grows) ?_
          intro item listed
          exact part item (Value.depth_lt_of_mem listed) (Value.references_sublist_of_mem listed)
        refine each.bind .growing fun portables between written => ?_
        exact .pure .growing fun channel grows _ => (Writing.list written).grows grows
      | map entries =>
        have each : Succeeds Channel.Grows
            (entries.mapM fun entry => do
              return (entry.1,
                ← (chain ([] : List (Stage τ))).toPortableWithin allowance entry.2))
            fun channel => List.Forall₂ (fun entry => WritingEntry entry channel) entries := by
          refine .mapM .growing (fun _ _ _ _ written grows => ⟨written.1, written.2.grows grows⟩)
            fun entry listed => ?_
          refine (part entry.2 (Value.depth_lt_of_mem_map listed)
            (Value.references_sublist_of_mem_map listed)).bind .growing
              fun portable between writing => ?_
          exact .pure .growing fun channel grows => ⟨rfl, writing.grows grows⟩
        refine each.bind .growing fun portables between written => ?_
        exact .pure .growing fun channel grows _ => (Writing.map written).grows grows
    · exact .pure .growing fun channel grows => writing.grows grows

/-- A value that crosses can be written. -/
theorem succeeds_toPortable {value : Value} (crosses : value.Crosses) :
    Succeeds Channel.Grows ((chain ([] : List (Stage τ))).toPortable value) (Writing value) :=
  succeeds_toPortableWithin (Nat.lt_add_of_pos_right (by decide)) crosses

/-! ## On the way in -/

/-- A value that was read from a portable form. -/
def Reading (portable : Portable) (channel : Channel) (value : Value) : Prop :=
  portable.value.Resembles channel.Reads value

theorem Reading.learns {portable : Portable} {channel after : Channel} {value : Value}
    (reading : Reading portable channel value) (learns : channel.Learns after) :
    Reading portable after value :=
  reading.mono fun _ _ reads => reads.learns learns

theorem Reading.list {portables : List Portable} {channel : Channel} {items : List Value}
    (each : List.Forall₂ (fun portable => Reading portable channel) portables items) :
    Reading (.list portables) channel (.list items) := by
  rw [Reading, Portable.value, Portable.values_eq_map]
  exact Value.Resembles.list (List.forall₂_map_left_iff.mpr each)

/-- An entry of a map with its key. -/
def ReadingEntry (portable : String × Portable) (channel : Channel) (entry : String × Value) :
    Prop := portable.1 = entry.1 ∧ Reading portable.2 channel entry.2

theorem Reading.map {portables : List (String × Portable)} {channel : Channel}
    {entries : List (String × Value)}
    (each : List.Forall₂ (fun portable => ReadingEntry portable channel) portables entries) :
    Reading (.map portables) channel (.map entries) := by
  rw [Reading, Portable.value, Portable.valueEntries_eq_map]
  exact Value.Resembles.map (List.forall₂_map_left_iff.mpr each)

/-- A node that is no handle is left as it is. -/
theorem succeeds_resolve {value : Value} {related : Channel → Value → Prop}
    (data : ∀ handle, value ≠ .remote handle) (holds : ∀ channel, related channel value) :
    Succeeds Channel.Learns ((chain ([] : List (Stage τ))).resolve value) related := by
  intro desk sound
  cases value with
  | remote handle => exact absurd rfl (data handle)
  | _ => exact ⟨_, desk, rfl, Channel.Kind.learning.refl _, holds _⟩

theorem succeeds_resolve_remote (handle : RemoteHandle) :
    Succeeds Channel.Learns ((chain ([] : List (Stage τ))).resolve (.remote handle))
      (Reading (.ref handle)) := by
  intro desk sound
  have run : ((chain ([] : List (Stage τ))).resolve (.remote handle)).run desk =
      (.ok (.live (desk.channel.resolve handle).1),
        { desk with channel := (desk.channel.resolve handle).2 }) := rfl
  rw [run]
  rcases sound.resolve_cases handle with ⟨service, named, resolved⟩ |
    ⟨unnamed, proxy, after, resolved, grows, same, kept⟩
  · rw [resolved]
    exact ⟨_, desk, rfl, Channel.Kind.learning.refl _, rfl, .cons (.own named) .nil⟩
  · rw [resolved]
    have unnamed' : after.lookup? handle.instanceId = none := kept ▸ unnamed
    exact ⟨_, _, rfl, ⟨grows, kept⟩, rfl, .cons (.foreign unnamed' same) .nil⟩

mutual

/-- A portable value can be read. -/
theorem succeeds_ofPortable (portable : Portable) :
    Succeeds Channel.Learns ((chain ([] : List (Stage τ))).ofPortable portable)
      (Reading portable) :=
  match portable with
  | .null => succeeds_resolve (fun _ => nofun) fun _ => ⟨rfl, .nil⟩
  | .bool _ => succeeds_resolve (fun _ => nofun) fun _ => ⟨rfl, .nil⟩
  | .int _ => succeeds_resolve (fun _ => nofun) fun _ => ⟨rfl, .nil⟩
  | .float _ => succeeds_resolve (fun _ => nofun) fun _ => ⟨rfl, .nil⟩
  | .str _ => succeeds_resolve (fun _ => nofun) fun _ => ⟨rfl, .nil⟩
  | .bytes _ => succeeds_resolve (fun _ => nofun) fun _ => ⟨rfl, .nil⟩
  | .list items => (succeeds_ofPortableItems items).bind .learning fun _ _ each =>
      succeeds_resolve (fun _ => nofun) fun _ learns => (Reading.list each).learns learns
  | .map entries => (succeeds_ofPortableEntries entries).bind .learning fun _ _ each =>
      succeeds_resolve (fun _ => nofun) fun _ learns => (Reading.map each).learns learns
  | .ref handle => succeeds_resolve_remote handle

theorem succeeds_ofPortableItems (portables : List Portable) :
    Succeeds Channel.Learns ((chain ([] : List (Stage τ))).ofPortableItems portables)
      fun channel => List.Forall₂ (fun portable => Reading portable channel) portables :=
  match portables with
  | [] => .pure .learning fun _ => .nil
  | item :: rest =>
    .cons .learning (fun _ _ _ _ reading learns => reading.learns learns) id
      (succeeds_ofPortable item) (succeeds_ofPortableItems rest)

theorem succeeds_ofPortableEntries (portables : List (String × Portable)) :
    Succeeds Channel.Learns ((chain ([] : List (Stage τ))).ofPortableEntries portables)
      fun channel => List.Forall₂ (fun portable => ReadingEntry portable channel) portables :=
  match portables with
  | [] => .pure .learning fun _ => .nil
  | (key, item) :: rest =>
    .cons .learning (fun _ _ _ _ reading learns => ⟨reading.1, reading.2.learns learns⟩)
      (fun value => (key, value))
      ((succeeds_ofPortable item).imp fun _ _ reading => ⟨rfl, reading⟩)
      (succeeds_ofPortableEntries rest)

end

end Desk

end Courier
