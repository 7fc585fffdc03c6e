import Courier.Bytes.Basic

/-!
# Byte queues

A reader of a stream adds bytes at the end, in pieces of any size, and takes
them from the front.  A byte queue keeps the pieces apart until their bytes
are asked for, so that adding a piece costs the same however much is waiting,
and keeps the number of its bytes.

`toBytes` is what a queue stands for.  Every operation is described by what it
does to that view; two queues with one view answer every question alike.
-/

namespace Courier

set_option autoImplicit false

structure ByteQueue where
  /-- The first bytes. -/
  front : Bytes
  /-- The pieces after them, the last one first. -/
  back : List Bytes
  /-- How many bytes there are. -/
  size : Nat
  size_eq : size = front.length + back.flatten.length
deriving DecidableEq

namespace ByteQueue

/-- The bytes of the queue, in order. -/
def toBytes (queue : ByteQueue) : Bytes := queue.front ++ queue.back.reverse.flatten

theorem length_toBytes (queue : ByteQueue) : queue.toBytes.length = queue.size := by
  simp [toBytes, queue.size_eq, List.length_flatten]

/-! ## Building -/

/-- The queue of some bytes, all of them at the front. -/
def ofBytes (bytes : Bytes) : ByteQueue := ⟨bytes, [], bytes.length, by simp⟩

@[simp] theorem toBytes_ofBytes (bytes : Bytes) : (ofBytes bytes).toBytes = bytes := by
  simp [ofBytes, toBytes]

def empty : ByteQueue := ofBytes []

@[simp] theorem toBytes_empty : empty.toBytes = [] := rfl

@[simp] theorem size_empty : empty.size = 0 := rfl

/-- More bytes at the end. -/
def push (queue : ByteQueue) (bytes : Bytes) : ByteQueue :=
  ⟨queue.front, bytes :: queue.back, queue.size + bytes.length, by
    simp only [queue.size_eq, List.flatten_cons, List.length_append]
    omega⟩

@[simp] theorem toBytes_push (queue : ByteQueue) (bytes : Bytes) :
    (queue.push bytes).toBytes = queue.toBytes ++ bytes := by
  simp [push, toBytes]

@[simp] theorem size_push (queue : ByteQueue) (bytes : Bytes) :
    (queue.push bytes).size = queue.size + bytes.length := rfl

/-! ## The first bytes -/

/-- The same queue, with so many bytes at its front if it has as many. -/
def settle (count : Nat) (queue : ByteQueue) : ByteQueue :=
  if queue.size < count ∨ Bytes.hasAtLeast count queue.front then queue else ofBytes queue.toBytes

@[simp] theorem toBytes_settle (count : Nat) (queue : ByteQueue) :
    (queue.settle count).toBytes = queue.toBytes := by
  unfold settle
  split <;> simp

@[simp] theorem size_settle (count : Nat) (queue : ByteQueue) :
    (queue.settle count).size = queue.size := by
  rw [← length_toBytes, toBytes_settle, length_toBytes]

/-- The first bytes, at most so many. -/
def take (count : Nat) (queue : ByteQueue) : Bytes :=
  if Bytes.hasAtLeast count queue.front then queue.front.take count else queue.toBytes.take count

@[simp] theorem take_eq (count : Nat) (queue : ByteQueue) :
    queue.take count = queue.toBytes.take count := by
  unfold take
  split <;> rename_i enough
  · rw [toBytes, List.take_append_of_le_length (Bytes.hasAtLeast_iff.mp enough)]
  · rfl

/-- The queue without its first bytes. -/
def drop (count : Nat) (queue : ByteQueue) : ByteQueue :=
  if enough : Bytes.hasAtLeast count queue.front then
    ⟨queue.front.drop count, queue.back, queue.size - count, by
      have bound := Bytes.hasAtLeast_iff.mp enough
      simp only [queue.size_eq, List.length_drop]
      omega⟩
  else
    ⟨queue.toBytes.drop count, [], queue.size - count, by simp [length_toBytes]⟩

@[simp] theorem toBytes_drop (count : Nat) (queue : ByteQueue) :
    (queue.drop count).toBytes = queue.toBytes.drop count := by
  unfold drop
  split <;> rename_i enough
  · rw [toBytes, toBytes, List.drop_append_of_le_length (Bytes.hasAtLeast_iff.mp enough)]
  · simp [toBytes]

@[simp] theorem size_drop (count : Nat) (queue : ByteQueue) :
    (queue.drop count).size = queue.size - count := by
  unfold drop
  split <;> rfl

end ByteQueue

end Courier
