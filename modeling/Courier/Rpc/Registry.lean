import Courier.Value.Basic
import Courier.Bytes.Hex

/-!
# What the peer can reach

An export makes a service object callable under an instance id.  The id is
eight bytes that the registry draws for every export, in hexadecimal digits,
and the number of the export; the number alone keeps ids apart, and it goes on
counting when the registry is cleared.

Singletons are reached by name, without an export; an id that begins with `@`
names one.  An object with several names is referred to by any of them, as the
map happens to be visited.

In the interface of the runtime the exports are an `ExportRegistry`, and `publish` is
its `export`.
-/

namespace Courier

set_option autoImplicit false

/-- The exports of one channel.  `mark` gives the eight bytes in the id of an export. -/
structure Exports where
  mark : Nat → UInt64
  count : Nat
  entries : List (ServiceRef × RemoteHandle)

namespace Exports

def new (mark : Nat → UInt64) : Exports := ⟨mark, 0, []⟩

/-- The instance id of the export of a number. -/
def instanceId (exports : Exports) (number : Nat) : String :=
  s!"{Bytes.toHex (Bytes.ofNatBE 8 (exports.mark number).toNat)}-{number}"

/-- The handle that an object already has. -/
def handleOf? (exports : Exports) (service : ServiceRef) : Option RemoteHandle :=
  (exports.entries.find? fun entry => entry.1.identity = service.identity).map (·.2)

/-- The object exported under an instance id. -/
def lookup? (exports : Exports) (instanceId : String) : Option ServiceRef :=
  (exports.entries.find? fun entry => entry.2.instanceId = instanceId).map (·.1)

/-- Exports an object, or gives the handle that it already has. -/
def publish (exports : Exports) (interfaces : List String) (service : ServiceRef) :
    RemoteHandle × Exports :=
  match exports.handleOf? service with
  | some handle => (handle, exports)
  | none =>
    let handle := ⟨exports.instanceId exports.count, interfaces⟩
    (handle, { exports with
      count := exports.count + 1
      entries := exports.entries ++ [(service, handle)] })

/-- Forgets all exports, but not how many there were. -/
def clear (exports : Exports) : Exports := { exports with entries := [] }

def size (exports : Exports) : Nat := exports.entries.length

end Exports

/-- An order in which the entries of a map without an order of its own are visited. -/
structure VisitOrder where
  arrange : List (String × ServiceRef) → List (String × ServiceRef)
  perm : ∀ entries, (arrange entries).Perm entries

/-- The entries are visited by their names. -/
def VisitOrder.byName : VisitOrder := ⟨id, fun _ => .refl _⟩

/-- The named objects of one or several channels; a name stands for the object last registered. -/
structure Singletons where
  entries : List (String × ServiceRef)
  order : VisitOrder

namespace Singletons

def empty (order : VisitOrder) : Singletons := ⟨[], order⟩

def register (singletons : Singletons) (name : String) (service : ServiceRef) : Singletons :=
  { singletons with entries := Entries.insert name service singletons.entries }

/-- The objects of a list, of which the last with a name counts. -/
def ofList (order : VisitOrder) (entries : List (String × ServiceRef)) : Singletons :=
  entries.foldl (fun singletons entry => singletons.register entry.1 entry.2) (empty order)

def get? (singletons : Singletons) (name : String) : Option ServiceRef :=
  Entries.get? name singletons.entries

/-- The name under which an object is registered that is come upon first. -/
def nameOf? (singletons : Singletons) (service : ServiceRef) : Option String :=
  ((singletons.order.arrange singletons.entries).find? fun entry =>
    entry.2.identity = service.identity).map (·.1)

def size (singletons : Singletons) : Nat := singletons.entries.length

end Singletons

end Courier
