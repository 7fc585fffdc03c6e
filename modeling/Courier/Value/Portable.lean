import Courier.Value.Basic
import Courier.Json.Basic
import Courier.Bytes.Hex

/-!
# The portable form of values

A portable value is a value without live objects: what can stand on the wire.
Its JSON is an object that names the type under `t` and holds the content under
`v`; null has no content.  Byte strings are written in hexadecimal digits, and
the floats that JSON has no numbers for as `nan`, `inf` and `-inf`.

In the interface of the runtime a portable value is a `WireValue`.
-/

namespace Courier

set_option autoImplicit false

/-- A value that can cross the wire.  A map is given as its entries in ascending order of keys. -/
inductive Portable where
  | null
  | bool (value : Bool)
  | int (value : Int64)
  | float (value : Float)
  | str (text : String)
  | bytes (content : Bytes)
  | list (items : List Portable)
  | map (entries : List (String × Portable))
  | ref (handle : RemoteHandle)

/-- The name of a portable value's type on the wire. -/
inductive PortableTag where
  | null
  | bool
  | int
  | float
  | str
  | bytes
  | list
  | map
  | ref
deriving DecidableEq

namespace PortableTag

def name : PortableTag → String
  | null => "null"
  | bool => "bool"
  | int => "int"
  | float => "float"
  | str => "str"
  | bytes => "bytes"
  | list => "list"
  | map => "map"
  | ref => "ref"

def ofName? (name : String) : Option PortableTag :=
  match name with
  | "null" => some null
  | "bool" => some bool
  | "int" => some int
  | "float" => some float
  | "str" => some str
  | "bytes" => some bytes
  | "list" => some list
  | "map" => some map
  | "ref" => some ref
  | _ => none

@[simp] theorem ofName?_name (tag : PortableTag) : ofName? tag.name = some tag := by
  cases tag <;> rfl

/-- The types in the order of their numbers. -/
def all : List PortableTag := [null, bool, int, float, str, bytes, list, map, ref]

end PortableTag

/-- A handle as a JSON object. -/
def RemoteHandle.toJson (handle : RemoteHandle) : Json :=
  .object [("instance_id", .string handle.instanceId), ("interfaces", .strings handle.interfaces)]

namespace Portable

/-- A content under the name of its type. -/
def tagged (tag : PortableTag) (content : Json) : Json :=
  .object [("t", .string tag.name), ("v", content)]

/-- A float as a number, or as a name where JSON has no number. -/
def floatJson (value : Float) : Json :=
  if value.isFinite then .float value
  else if value.isNaN then .string "nan"
  else if Json.isNegative value then .string "-inf"
  else .string "inf"

mutual

/-- The JSON of a portable value. -/
def toJson : Portable → Json
  | null => .object [("t", .string PortableTag.null.name)]
  | bool value => tagged .bool (.bool value)
  | int value => tagged .int (.int value.toInt)
  | float value => tagged .float (floatJson value)
  | str text => tagged .str (.string text)
  | bytes content => tagged .bytes (.string (Bytes.toHex content))
  | list items => tagged .list (.array (itemsJson items))
  | map entries => tagged .map (.object (entriesJson entries))
  | ref handle => tagged .ref handle.toJson

def itemsJson : List Portable → List Json
  | [] => []
  | item :: rest => toJson item :: itemsJson rest

def entriesJson : List (String × Portable) → List (String × Json)
  | [] => []
  | (key, value) :: rest => (key, toJson value) :: entriesJson rest

end

/-- The bytes of a portable value on the wire. -/
def encode (value : Portable) : Bytes := value.toJson.render

end Portable

end Courier
