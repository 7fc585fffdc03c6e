import Courier.Proofs.Pipe.Pair
import Courier.Proofs.Rpc.Crossing

/-!
# Values that travel between two channels

Two channels face each other.  A reference designates an object of one of them: a
service object designates itself, and a proxy designates the object to which its
id leads at the peer.  A value travels: it is marshaled at the channel that holds
it and unmarshaled at the other, over and over, and in between the two channels
export and import whatever they like.

If no name of a singleton and no id of an export can be mistaken for one of the
peer's, then all this goes unnoticed (`Journey.arrives`): the value can always go
on, it keeps its shape, and each reference goes on designating what it designated.
-/

namespace Courier

set_option autoImplicit false

/-- Two channels before anything has happened, with names and ids of their own. -/
structure Neighbours (τ : Type) where
  number : Side → Nat
  mark : Side → Nat → UInt64
  singletons : Side → List (String × ServiceRef)
  order : Side → VisitOrder
  kept : Side → τ
  /-- No name is that of a singleton at both sides. -/
  namesApart : ∀ name, (Singletons.ofList (order .a) (singletons .a)).get? name = none ∨
    (Singletons.ofList (order .b) (singletons .b)).get? name = none
  /-- No id is given to an export at both sides. -/
  idsApart : ∀ first second,
    (Exports.new (mark .a)).instanceId first ≠ (Exports.new (mark .b)).instanceId second

/-- What the two channels have, each at its desk. -/
abbrev Desks (τ : Type) : Type := Side → Desk τ

namespace Desks

variable {τ : Type}

/-- The object to which an id leads at a side. -/
def find? (desks : Desks τ) (side : Side) (id : String) : Option (Side × Nat) :=
  ((desks side).channel.lookup? id).map fun service => (side, service.identity)

/-- The object that a reference designates at the side that holds it.  A handle designates what it
stands for at the peer. -/
def designates? (desks : Desks τ) (side : Side) : Value → Option (Side × Nat)
  | .live (.service service) => some (side, service.identity)
  | .live (.proxy proxy) => desks.find? side.other proxy.handle.instanceId
  | .remote handle =>
    (desks.find? side.other handle.instanceId).or (desks.find? side handle.instanceId)
  | _ => none

/-- Both channels have done any work. -/
def Grow (desks after : Desks τ) : Prop :=
  ∀ side, (desks side).channel.Grows (after side).channel

/-- Marshals a value at the channel that holds it and unmarshals it at the other. -/
def carry (desks : Desks τ) (side : Side) (value : Value) :
    Except MarshalError Value × Desks τ :=
  match ((Desk.chain []).toPortable value).run (desks side) with
  | (.error fault, desk) => (.error fault, Function.update desks side desk)
  | (.ok portable, desk) =>
    let (result, peer) := ((Desk.chain []).ofPortable portable).run (desks side.other)
    (result, Function.update (Function.update desks side desk) side.other peer)

/-- What a value has gone through that was at one side first. -/
inductive Journey (first : Desks τ) (home : Side) (value : Value) :
    Desks τ → Side → Value → Prop
  | stay : Journey first home value first home value
  | work {desks after : Desks τ} {side : Side} {current : Value}
      (journey : Journey first home value desks side current) (grow : desks.Grow after) :
      Journey first home value after side current
  | cross {desks after : Desks τ} {side : Side} {current next : Value}
      (journey : Journey first home value desks side current)
      (carried : desks.carry side current = (.ok next, after)) :
      Journey first home value after side.other next

/-! ## What names do -/

variable {desks after : Desks τ} {side : Side}

/-- The registries are in order, and no id leads to an object at both sides. -/
structure Sound (desks : Desks τ) : Prop where
  channel : ∀ side, (desks side).channel.Sound
  apart : ∀ side id, (desks side).channel.lookup? id ≠ none →
    (desks side.other).channel.lookup? id = none

theorem Grow.trans {last : Desks τ} (before : desks.Grow after) (later : after.Grow last) :
    desks.Grow last :=
  fun side => (before side).trans (later side)

theorem Grow.find? (grow : desks.Grow after) {id : String} {object : Side × Nat}
    (found : desks.find? side id = some object) : after.find? side id = some object := by
  obtain ⟨service, named, rfl⟩ := Option.map_eq_some_iff.mp found
  exact Option.map_eq_some_iff.mpr ⟨service, (grow side).lookup? named, rfl⟩

theorem Sound.find?_other (sound : desks.Sound) {id : String} {object : Side × Nat}
    (found : desks.find? side id = some object) : desks.find? side.other id = none := by
  obtain ⟨service, named, _⟩ := Option.map_eq_some_iff.mp found
  rw [Desks.find?, sound.apart side id (by simp [named]), Option.map_none]

/-- A reference leads to the same object as before, and is live if it was. -/
structure Keeps (desks : Desks τ) (side : Side) (after : Desks τ) (side' : Side)
    (leaf leaf' : Value) : Prop where
  designates : ∀ object, desks.designates? side leaf = some object →
    after.designates? side' leaf' = some object
  live : ∀ object, leaf = .live object → ∃ object, leaf' = .live object

/-- A handle designates the object of either side to which its id leads. -/
theorem Sound.designates_remote (sound : desks.Sound) {handle : RemoteHandle}
    {object : Side × Nat} : desks.designates? side (.remote handle) = some object ↔
      desks.find? side.other handle.instanceId = some object ∨
        desks.find? side handle.instanceId = some object := by
  rw [designates?, Option.or_eq_some_iff]
  refine or_congr_right ⟨And.right, fun found => ⟨sound.find?_other found, found⟩⟩

theorem Keeps.trans {last : Desks τ} {side' side'' : Side} {leaf leaf' leaf'' : Value}
    (before : desks.Keeps side after side' leaf leaf')
    (later : after.Keeps side' last side'' leaf' leaf'') :
    desks.Keeps side last side'' leaf leaf'' := by
  refine ⟨fun object designates => ?_, fun object same => ?_⟩
  · exact later.designates object (before.designates object designates)
  · obtain ⟨object', same'⟩ := before.live object same
    exact later.live object' same'

/-- Work does not change what a reference designates. -/
theorem Sound.keeps (sound : after.Sound) (sound' : desks.Sound) (grow : desks.Grow after)
    (side : Side) (leaf : Value) : desks.Keeps side after side leaf leaf := by
  refine ⟨fun object designates => ?_, fun object same => ⟨object, same⟩⟩
  cases leaf with
  | live reference =>
    cases reference with
    | proxy proxy => exact grow.find? designates
    | _ => exact designates
  | remote handle =>
    rw [sound'.designates_remote] at designates
    exact sound.designates_remote.mpr (designates.imp grow.find? grow.find?)
  | _ => exact designates

/-- What is written for a reference designates what the reference designates. -/
theorem Sound.designates_of_writes (sound : desks.Sound) {leaf handle : Value}
    (writes : (desks side).channel.Writes leaf handle) {object : Side × Nat}
    (designates : desks.designates? side leaf = some object) :
    desks.designates? side handle = some object := by
  cases writes with
  | @service service found handle _ named same =>
    refine sound.designates_remote.mpr (.inr ?_)
    rw [← designates, find?, named, Option.map_some, same]
    rfl
  | proxy proxy => exact sound.designates_remote.mpr (.inl designates)
  | handle handle => exact designates

/-- What is read for a handle designates what the handle designates. -/
theorem Sound.designates_of_reads (sound : desks.Sound) {handle leaf : Value}
    (reads : (desks side.other).channel.Reads handle leaf) {object : Side × Nat}
    (designates : desks.designates? side handle = some object) :
    desks.designates? side.other leaf = some object := by
  cases reads with
  | @own handle service named =>
    have here : desks.find? side.other handle.instanceId = some (side.other, service.identity) := by
      rw [find?, named, Option.map_some]
    rcases sound.designates_remote.mp designates with there | back
    · rw [← there, here]
      rfl
    · rw [sound.find?_other back] at here
      cases here
  | @foreign handle proxy unnamed same =>
    rcases sound.designates_remote.mp designates with there | back
    · rw [find?, unnamed] at there
      cases there
    · rw [designates?, same, Side.other_other]
      exact back

end Desks

/-! ## Journeys -/

namespace Neighbours

variable {τ : Type} (neighbours : Neighbours τ)

/-- The named objects of a side. -/
def named (side : Side) : Singletons :=
  .ofList (neighbours.order side) (neighbours.singletons side)

def desks : Desks τ := fun side =>
  ⟨.new (neighbours.number side) (neighbours.mark side) (neighbours.named side),
    neighbours.kept side⟩

theorem namesApart_of_ne {side : Side} {name : String}
    (named : (neighbours.named side).get? name ≠ none) :
    (neighbours.named side.other).get? name = none := by
  cases side with
  | a => exact (neighbours.namesApart name).resolve_left named
  | b => exact (neighbours.namesApart name).resolve_right named

theorem idsApart_at (side : Side) (first second : Nat) :
    (Exports.new (neighbours.mark side)).instanceId first ≠
      (Exports.new (neighbours.mark side.other)).instanceId second := by
  cases side with
  | a => exact neighbours.idsApart first second
  | b => exact (neighbours.idsApart second first).symm

/-- Whatever the two channels do, their names stay apart. -/
theorem sound {desks : Desks τ} (grow : neighbours.desks.Grow desks) : desks.Sound := by
  have channel (side : Side) : (desks side).channel.Sound :=
    (Channel.Sound.new (neighbours.number side) (neighbours.mark side) (neighbours.order side)
      (neighbours.singletons side)).grows (grow side)
  have singletons (side : Side) : (desks side).channel.singletons = neighbours.named side :=
    (grow side).names.1
  have ids (side : Side) : (desks side).channel.exports.instanceId =
      (Exports.new (neighbours.mark side)).instanceId :=
    Exports.instanceId_congr (grow side).names.2
  refine ⟨channel, fun side id named => ?_⟩
  cases singleton : RemoteHandle.singletonNameOf? id with
  | some name =>
    rw [Channel.lookup?_of_name singleton, singletons] at named ⊢
    exact neighbours.namesApart_of_ne named
  | none =>
    rw [Channel.lookup?_of_no_name singleton] at named ⊢
    obtain ⟨found, own⟩ := Option.ne_none_iff_exists'.mp named
    obtain ⟨first, given⟩ := (channel side).exports.exists_instanceId own
    by_contra clash
    obtain ⟨other, foreign⟩ := Option.ne_none_iff_exists'.mp clash
    obtain ⟨second, given'⟩ := (channel side.other).exports.exists_instanceId foreign
    refine neighbours.idsApart_at side first second ?_
    rw [← ids, ← ids, ← given, ← given']

/-- A value that crosses is carried to the other side, where its references lead to the same objects
as before. -/
theorem carry {desks : Desks τ} (grow : neighbours.desks.Grow desks) (side : Side) {value : Value}
    (crosses : value.Crosses) :
    ∃ next after, desks.carry side value = (.ok next, after) ∧ desks.Grow after ∧ next.Crosses ∧
      value.Resembles (desks.Keeps side after side.other) next := by
  have sound := neighbours.sound grow
  obtain ⟨portable, desk, write, exported, writing⟩ :=
    Desk.succeeds_toPortable crosses (desks side) (sound.channel side)
  obtain ⟨next, peer, read, imported, reading⟩ :=
    Desk.succeeds_ofPortable portable (desks side.other) (sound.channel side.other)
  let after : Desks τ := Function.update (Function.update desks side desk) side.other peer
  have here : after side = desk := by
    simp only [after, Function.update_of_ne (Side.other_ne side).symm, Function.update_self]
  have there : after side.other = peer := by simp only [after, Function.update_self]
  have grow' : desks.Grow after := by
    intro subject
    rcases Side.eq_or_eq_other side subject with rfl | rfl
    · rw [here]
      exact exported
    · rw [there]
      exact imported.grows
  have sound' : after.Sound := neighbours.sound (grow.trans grow')
  refine ⟨next, after, ?_, grow', ?_, ?_⟩
  · simp only [Desks.carry, write, read, after]
  · intro typeName key listed
    obtain ⟨_, _, reads⟩ := reading.exists_of_mem listed
    cases reads
  · refine writing.trans reading fun leaf handle leaf' writes reads => ?_
    rw [← here] at writes
    rw [← there] at reads
    refine ⟨fun object designates => ?_, fun _ _ => ?_⟩
    · have kept := (sound'.keeps sound grow' side leaf).designates object designates
      exact sound'.designates_of_reads reads (sound'.designates_of_writes writes kept)
    · cases reads with
      | own => exact ⟨_, rfl⟩
      | foreign => exact ⟨_, rfl⟩

end Neighbours

namespace Desks

variable {τ : Type} {neighbours : Neighbours τ} {desks after : Desks τ} {home side : Side}
  {value current : Value}

/-- A live reference is the same after a journey as before: it leads to the same object, and where
this object is at home it is the object itself. -/
structure Same (desks : Desks τ) (home : Side) (after : Desks τ) (side : Side)
    (leaf leaf' : Value) : Prop where
  designates : ∀ object, desks.designates? home leaf = some object →
    after.designates? side leaf' = some object
  returned : ∀ object identity, leaf = .live object →
    desks.designates? home leaf = some (side, identity) →
      ∃ service, leaf' = .live (.service service) ∧ service.identity = identity

theorem Keeps.same {leaf leaf' : Value} (keeps : desks.Keeps home after side leaf leaf') :
    desks.Same home after side leaf leaf' := by
  refine ⟨keeps.designates, fun object identity live designates => ?_⟩
  obtain ⟨object', rfl⟩ := keeps.live object live
  have kept := keeps.designates _ designates
  cases object' with
  | service service => exact ⟨service, rfl, congrArg Prod.snd (Option.some.inj kept)⟩
  | proxy proxy =>
    obtain ⟨_, _, elsewhere⟩ := Option.map_eq_some_iff.mp kept
    exact absurd (congrArg Prod.fst elsewhere) (Side.other_ne side)
  | object typeName key => cases kept

/-- What holds of a value on its journey. -/
structure Arrived (desks : Desks τ) (home : Side) (value : Value) (after : Desks τ) (side : Side)
    (current : Value) : Prop where
  /-- It can go on to the other side. -/
  onward : ∃ next later, after.carry side current = (.ok next, later)
  shape : current.shape = value.shape
  references : List.Forall₂ (desks.Same home after side) value.references current.references
  /-- No object has been exported twice. -/
  once : ∀ side, ((after side).channel.exports.entries.map (·.1.identity)).Nodup

/-- **References go on designating the same objects** wherever a value travels between two channels,
and whatever else the two export and import before and meanwhile. -/
theorem Journey.arrived (journey : Journey desks home value after side current)
    (crosses : value.Crosses) (grow : neighbours.desks.Grow desks) :
    Arrived desks home value after side current := by
  have travelled : neighbours.desks.Grow after ∧ current.Crosses ∧
      value.Resembles (desks.Keeps home after side) current := by
    induction journey with
    | stay =>
      exact ⟨grow, crosses, .refl (fun _ => ⟨fun _ => id, fun object same => ⟨object, same⟩⟩) _⟩
    | work _ grow' ih =>
      obtain ⟨grow, crosses, resembles⟩ := ih
      have all := grow.trans grow'
      have kept := (neighbours.sound all).keeps (neighbours.sound grow) grow'
      exact ⟨all, crosses, resembles.trans (.refl (kept _) _) fun _ _ _ => Keeps.trans⟩
    | @cross _ _ side current _ _ carried ih =>
      obtain ⟨grow, crosses, resembles⟩ := ih
      obtain ⟨next, after, carried', grow', crosses', resembles'⟩ :=
        neighbours.carry grow side crosses
      obtain ⟨same, rfl⟩ := Prod.mk.inj (carried'.symm.trans carried)
      obtain rfl := Except.ok.inj same
      exact ⟨grow.trans grow', crosses', resembles.trans resembles' fun _ _ _ => Keeps.trans⟩
  obtain ⟨all, crosses', resembles⟩ := travelled
  constructor
  case onward =>
    obtain ⟨next, later, carried, _⟩ := neighbours.carry all side crosses'
    exact ⟨next, later, carried⟩
  case shape => exact resembles.shape
  case references => exact resembles.references.imp fun _ _ => Keeps.same
  case once => exact fun side => ((neighbours.sound all).channel side).exports.once

/-- Two channels, the first of which has a singleton. -/
def adjacent : Neighbours Unit where
  number _ := 0
  mark side _ := match side with
    | .a => 10
    | .b => 11
  singletons side := match side with
    | .a => [("clock", ⟨1, "clock", ["Clock"]⟩)]
    | .b => []
  order _ := .byName
  kept _ := ()
  namesApart _ := .inr rfl
  idsApart first second same := by
    have letters := congrArg String.toList same
    rw [Exports.instanceId_toList, Exports.instanceId_toList] at letters
    have digits : Bytes.hexDigits (Bytes.ofNatBE 8 10) = Bytes.hexDigits (Bytes.ofNatBE 8 11) :=
      List.append_inj_left letters rfl
    exact absurd digits (by decide)

/-- The second channel has exported a lamp. -/
def lent : Desks Unit :=
  Function.update adjacent.desks .b { adjacent.desks .b with
    channel := { (adjacent.desks .b).channel with
      exports := ((adjacent.desks .b).channel.exports.publish ["Lamp"] ⟨2, "lamp", ["Lamp"]⟩).2 } }

/-- A watch that stands at two places, the clock, and the lamp of the other side. -/
def parcel : Value :=
  .list [.live (.service ⟨3, "watch", []⟩), .live (.service ⟨1, "clock", ["Clock"]⟩),
    .map [("again", .live (.service ⟨3, "watch", []⟩)),
      ("lamp", .live (.proxy ⟨0, 0, ⟨"000000000000000b-0", []⟩⟩))]]

theorem grow_lent : adjacent.desks.Grow lent := by
  intro side
  cases side with
  | a => exact .refl
  | b => exact .single (.publish ["Lamp"] ⟨2, "lamp", ["Lamp"]⟩)

theorem parcel_crosses : parcel.Crosses := by
  intro typeName key
  simp [parcel, Value.references, Value.referencesItems, Value.referencesEntries]

/-- The parcel is sent there and back. -/
theorem arrived_returned :
    lent.designates? .a (.live (.proxy ⟨0, 0, ⟨"000000000000000b-0", []⟩⟩)) = some (.b, 2) ∧
      ∃ there middle back after, lent.carry .a parcel = (.ok there, middle) ∧
        middle.carry .b there = (.ok back, after) ∧ Arrived lent .a parcel after .a back := by
  obtain ⟨there, middle, carried⟩ := (Journey.stay.arrived parcel_crosses grow_lent).onward
  have gone : Journey lent .a parcel middle .b there := .cross .stay carried
  obtain ⟨back, after, returned⟩ := (gone.arrived parcel_crosses grow_lent).onward
  have home : Journey lent .a parcel after .a back := .cross gone returned
  exact ⟨by decide +kernel, there, middle, back, after, carried, returned,
    home.arrived parcel_crosses grow_lent⟩

end Desks

end Courier
