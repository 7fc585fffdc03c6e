import Courier.Bytes.Basic
import Courier.Value.Entries

/-!
# Values

A value is a graph of plain data, of handles on objects of the peer, and of
live objects.  Data and handles can cross to the peer; a live object stands for
something that is on this side only, and has to be replaced first.

Live objects have an identity and are compared by it.  There are three kinds: a
service object, which the peer can call; a proxy, which stands for an object of
the peer; and any other object of the application.
-/

namespace Courier

set_option autoImplicit false

/-! ## References to objects -/

/-- What names an object of the peer: its instance id and the interfaces it implements.  An id that
begins with `@` names a singleton instead of an export. -/
structure RemoteHandle where
  instanceId : String
  interfaces : List String
deriving DecidableEq

namespace RemoteHandle

/-- The handle of the singleton with this name. -/
def singleton (name : String) (interfaces : List String) : RemoteHandle :=
  ⟨"@" ++ name, interfaces⟩

/-- The name behind an id that begins with `@`. -/
def singletonNameOf? (instanceId : String) : Option String :=
  match instanceId.toList with
  | '@' :: name => some (String.ofList name)
  | _ => none

/-- The singleton that the handle names, if it names one. -/
def singletonName? (handle : RemoteHandle) : Option String := singletonNameOf? handle.instanceId

def implements (handle : RemoteHandle) (interface : String) : Bool :=
  handle.interfaces.contains interface

@[simp] theorem singletonName?_singleton (name : String) (interfaces : List String) :
    (singleton name interfaces).singletonName? = some name := by
  simp [singletonName?, singletonNameOf?, singleton]

end RemoteHandle

/-- A reference to a service object of this side. -/
structure ServiceRef where
  identity : Nat
  label : String
  interfaces : List String
deriving DecidableEq

/-- A reference to a proxy: the channel it calls through, its number there and the handle it wraps.
-/
structure ProxyRef where
  channel : Nat
  number : Nat
  handle : RemoteHandle
deriving DecidableEq

inductive LiveObject where
  /-- An object of the application, told apart from others of its type by a key. -/
  | object (typeName : String) (key : Nat)
  | service (service : ServiceRef)
  | proxy (proxy : ProxyRef)
deriving DecidableEq

namespace LiveObject

def typeName : LiveObject → String
  | object typeName _ => typeName
  | service reference => reference.label
  | proxy _ => "RemoteProxy"

/-- Whether two references are to one object. -/
def same : LiveObject → LiveObject → Bool
  | object typeName key, object typeName' key' => typeName = typeName' && key = key'
  | service reference, service other => reference.identity = other.identity
  | proxy reference, proxy other =>
    reference.channel = other.channel && reference.number = other.number
  | _, _ => false

end LiveObject

/-! ## Values -/

inductive Value where
  | null
  | bool (value : Bool)
  | int (value : Int64)
  | float (value : Float)
  | str (text : String)
  | bytes (bytes : Bytes)
  | list (items : List Value)
  /-- A map, given as its entries in ascending order of the keys. -/
  | map (entries : List (String × Value))
  | remote (handle : RemoteHandle)
  | live (object : LiveObject)

namespace Value

instance : Inhabited Value := ⟨null⟩

/-- The short name of a value's type.  A live object has the name of its own type. -/
def typeName : Value → String
  | null => "null"
  | bool _ => "bool"
  | int _ => "int"
  | float _ => "float"
  | str _ => "str"
  | bytes _ => "bytes"
  | list _ => "list"
  | map _ => "map"
  | remote _ => "remote"
  | live object => object.typeName

def isNull : Value → Bool
  | null => true
  | _ => false

def bool? : Value → Option Bool
  | bool value => some value
  | _ => none

def int? : Value → Option Int64
  | int value => some value
  | _ => none

/-- A float, or an integer as the nearest float. -/
def float? : Value → Option Float
  | float value => some value
  | int value => some (Float.ofInt value.toInt)
  | _ => none

def str? : Value → Option String
  | str text => some text
  | _ => none

def bytes? : Value → Option Bytes
  | bytes content => some content
  | _ => none

def list? : Value → Option (List Value)
  | list items => some items
  | _ => none

def map? : Value → Option (List (String × Value))
  | map entries => some entries
  | _ => none

def remote? : Value → Option RemoteHandle
  | remote handle => some handle
  | _ => none

def live? : Value → Option LiveObject
  | live object => some object
  | _ => none

/-- The service object that a live value is. -/
def service? : Value → Option ServiceRef
  | live (.service reference) => some reference
  | _ => none

/-- The proxy that a live value is. -/
def proxy? : Value → Option ProxyRef
  | live (.proxy reference) => some reference
  | _ => none

/-- A shorter integer as a value. -/
def ofInt32 (number : Int32) : Value := int number.toInt64

/-- A shorter integer without a sign as a value. -/
def ofUInt32 (number : UInt32) : Value := int (.ofNat number.toNat)

/-- The value of something that may be missing. -/
def ofOption {α : Type} (value : α → Value) : Option α → Value
  | none => null
  | some content => value content

/-! ## Comparison -/

mutual

/-- Whether two values are equal.  Floats are equal as numbers, so no value that holds a NaN equals
itself, and live objects are equal if they are one object. -/
def equals : Value → Value → Bool
  | null, null => true
  | bool value, bool value' => value = value'
  | int value, int value' => value = value'
  | float value, float value' => value == value'
  | str text, str text' => text = text'
  | bytes content, bytes content' => content = content'
  | list items, list items' => equalItems items items'
  | map entries, map entries' => equalEntries entries entries'
  | remote handle, remote handle' => handle = handle'
  | live object, live object' => object.same object'
  | _, _ => false

def equalItems : List Value → List Value → Bool
  | [], [] => true
  | item :: rest, item' :: rest' => equals item item' && equalItems rest rest'
  | _, _ => false

def equalEntries : List (String × Value) → List (String × Value) → Bool
  | [], [] => true
  | (key, value) :: rest, (key', value') :: rest' =>
    key = key' && equals value value' && equalEntries rest rest'
  | _, _ => false

end

/-! ## Depth -/

mutual

/-- How many lists and maps stand inside one another. -/
def depth : Value → Nat
  | list items => depthItems items + 1
  | map entries => depthEntries entries + 1
  | _ => 0

def depthItems : List Value → Nat
  | [] => 0
  | item :: rest => max (depth item) (depthItems rest)

def depthEntries : List (String × Value) → Nat
  | [] => 0
  | (_, value) :: rest => max (depth value) (depthEntries rest)

end

end Value

end Courier
