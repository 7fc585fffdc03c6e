import Courier.Bytes.Basic

/-!
# Message ids

A message of a pipe is named by a number of 24 bits.  Ids follow one another
in a cycle, and cross the wire as three bytes, most significant first.
-/

namespace Courier

set_option autoImplicit false

/-- The number of a message: 24 bits wide. -/
structure MessageId where
  number : Fin 0x1000000
deriving DecidableEq, Repr

namespace MessageId

/-- The lowest 24 bits of a number. -/
def ofNat (raw : Nat) : MessageId := ⟨Fin.ofNat 0x1000000 raw⟩

def toNat (id : MessageId) : Nat := id.number.val

/-- The first id of a pipe, which also stands where a packet names no message. -/
def zero : MessageId := ofNat 0

/-- The following id; the last one is followed by zero. -/
def next (id : MessageId) : MessageId := ofNat (id.toNat + 1)

/-- The three bytes of an id, most significant first. -/
def toBytes (id : MessageId) : Bytes := Bytes.ofNatBE 3 id.toNat

/-- The id that three bytes spell. -/
def ofBytes (bytes : Bytes) : MessageId := ofNat (Bytes.toNatBE bytes)

instance : ToString MessageId := ⟨fun id => toString id.toNat⟩

theorem toNat_lt (id : MessageId) : id.toNat < 0x1000000 := id.number.isLt

@[simp] theorem toNat_ofNat (raw : Nat) : (ofNat raw).toNat = raw % 0x1000000 := rfl

@[simp] theorem ofNat_toNat (id : MessageId) : ofNat id.toNat = id := by
  cases id with
  | mk number => simp [ofNat, toNat]

theorem toNat_ofNat_of_lt {raw : Nat} (bound : raw < 0x1000000) : (ofNat raw).toNat = raw :=
  Nat.mod_eq_of_lt bound

theorem toNat_inj {first second : MessageId} : first.toNat = second.toNat ↔ first = second := by
  refine ⟨fun same => ?_, fun same => same ▸ rfl⟩
  rw [← ofNat_toNat first, same, ofNat_toNat]

@[simp] theorem length_toBytes (id : MessageId) : id.toBytes.length = 3 := by simp [toBytes]

/-- The bytes of an id spell that id. -/
@[simp] theorem ofBytes_toBytes (id : MessageId) : ofBytes id.toBytes = id := by
  have bound := id.toNat_lt
  have same : id.toNat % Nat.pow 256 3 = id.toNat := Nat.mod_eq_of_lt bound
  rw [ofBytes, toBytes, Bytes.toNatBE_ofNatBE, same, ofNat_toNat]

/-- Three bytes are those of the id that they spell. -/
theorem toBytes_ofBytes {bytes : Bytes} (three : bytes.length = 3) :
    (ofBytes bytes).toBytes = bytes := by
  have spelled : Bytes.ofNatBE 3 (Bytes.toNatBE bytes) = bytes :=
    three ▸ Bytes.ofNatBE_toNatBE bytes
  have small : Bytes.toNatBE bytes % 0x1000000 = Bytes.toNatBE bytes := by
    have number := Bytes.toNatBE_ofNatBE 3 (Bytes.toNatBE bytes)
    rw [spelled] at number
    exact number.symm
  rw [toBytes, ofBytes, toNat_ofNat, small, spelled]

end MessageId

end Courier
