/-!
# Byte strings

Everything that crosses a stream is a byte string.  This module fixes the
representation, a list of bytes, and the two conversions that every format of
the library is built from: numbers of a fixed width, most significant byte
first, and text in UTF-8.

The laws below say that a number read after it was written is the number
modulo the width, and that bytes written after they were read are the bytes.
-/

namespace Courier

set_option autoImplicit false

/-- A byte string. -/
abbrev Bytes := List UInt8

namespace Bytes

/-! ## Numbers, most significant byte first -/

/-- The number that the bytes spell, most significant first. -/
def toNatBE (bytes : Bytes) : Nat :=
  bytes.foldl (fun number byte => number * 256 + byte.toNat) 0

/-- The lowest `width` bytes of a number, most significant first. -/
def ofNatBE : Nat → Nat → Bytes
  | 0, _ => []
  | width + 1, number => ofNatBE width (number / 256) ++ [UInt8.ofNat number]

@[simp] theorem toNatBE_nil : toNatBE [] = 0 := rfl

@[simp] theorem toNatBE_append_singleton (bytes : Bytes) (byte : UInt8) :
    toNatBE (bytes ++ [byte]) = toNatBE bytes * 256 + byte.toNat := by
  simp [toNatBE]

@[simp] theorem length_ofNatBE (width number : Nat) : (ofNatBE width number).length = width := by
  induction width generalizing number with
  | zero => rfl
  | succ width ih => simp [ofNatBE, ih]

/-- A written number reads back modulo its width. -/
theorem toNatBE_ofNatBE (width number : Nat) :
    toNatBE (ofNatBE width number) = number % Nat.pow 256 width := by
  induction width generalizing number with
  | zero => simp [ofNatBE, Nat.mod_one]
  | succ width ih =>
    have power : Nat.pow 256 (width + 1) = 256 * Nat.pow 256 width := Nat.mul_comm ..
    have split := Nat.mod_mul (x := number) (a := 256) (b := Nat.pow 256 width)
    rw [ofNatBE, toNatBE_append_singleton, ih, power, split, UInt8.toNat_ofNat']
    omega

/-- Bytes that are read as a number are the ones that it is written with. -/
theorem ofNatBE_toNatBE (bytes : Bytes) : ofNatBE bytes.length (toNatBE bytes) = bytes := by
  generalize length : bytes.length = width
  induction width generalizing bytes with
  | zero => rw [List.eq_nil_of_length_eq_zero length, ofNatBE]
  | succ width ih =>
    rcases List.eq_nil_or_concat bytes with rfl | ⟨front, last, rfl⟩
    · cases length
    rw [List.concat_eq_append] at length ⊢
    have small := last.toNat_lt
    have whole : (toNatBE front * 256 + last.toNat) / 256 = toNatBE front := by omega
    have part : UInt8.ofNat (toNatBE front * 256 + last.toNat) = last := by
      refine UInt8.toNat_inj.mp ?_
      rw [UInt8.toNat_ofNat']
      omega
    rw [toNatBE_append_singleton, ofNatBE, whole, part, ih]
    simpa using length

/-! ## Pieces -/

/-- Whether there are at least so many bytes.  No more of them than those are looked at. -/
def hasAtLeast : (count : Nat) → Bytes → Bool
  | 0, _ => true
  | _ + 1, [] => false
  | count + 1, _ :: rest => hasAtLeast count rest

@[simp] theorem hasAtLeast_iff {count : Nat} {bytes : Bytes} :
    hasAtLeast count bytes = true ↔ count ≤ bytes.length := by
  induction count generalizing bytes with
  | zero => simp [hasAtLeast]
  | succ count ih => cases bytes <;> simp [hasAtLeast, ih]

/-- The bytes in pieces of a size, of which the last may be shorter.  No piece is empty. -/
def pieces (size : Nat) : Bytes → List Bytes
  | [] => []
  | first :: rest => (first :: rest.take (size - 1)) :: pieces size (rest.drop (size - 1))
termination_by bytes => bytes.length
decreasing_by
  simp only [List.length_drop, List.length_cons]
  omega

/-- The pieces, one after the other, are the bytes. -/
@[simp] theorem flatten_pieces (size : Nat) (bytes : Bytes) : (pieces size bytes).flatten = bytes := by
  fun_induction pieces size bytes with
  | case1 => rfl
  | case2 first rest ih => simp [ih]

/-! ## Text -/

/-- The UTF-8 bytes of a text. -/
def ofText (text : String) : Bytes := text.toByteArray.data.toList

/-- The text that the bytes spell in UTF-8, if they spell one. -/
def text? (bytes : Bytes) : Option String := String.fromUTF8? ⟨bytes.toArray⟩

/-- The bytes of a text spell that text. -/
@[simp] theorem text?_ofText (text : String) : text? (ofText text) = some text := by
  have valid := text.isValidUTF8
  simp [text?, ofText, String.fromUTF8?, valid, String.fromUTF8]

/-- Bytes that spell a text are the bytes of that text. -/
theorem ofText_of_text? {bytes : Bytes} {text : String} (spelled : text? bytes = some text) :
    ofText text = bytes := by
  unfold text? String.fromUTF8? at spelled
  split at spelled
  · cases spelled
    simp [ofText, String.fromUTF8]
  · cases spelled

end Bytes

end Courier
