import Courier.Json.Basic
import Courier.Json.Draft

/-!
# Quoted texts are read as they were written

A byte that has to be escaped is read as the byte that its escape stands for, every
other byte as itself; so the units of a quoted text have the bytes of the text, and
these are Unicode.
-/

namespace Courier.Json

set_option autoImplicit false

/-- The controls that have a letter for an escape. -/
def lettered : List UInt8 := [0x08, 0x09, 0x0a, 0x0c, 0x0d]

/-- The unit as which a byte of a text is read. -/
def unitOf (byte : UInt8) : TextUnit :=
  if byte.toNat < 0x20 ∧ byte ∉ lettered then .number byte.toNat else .byte byte

/-! ## One byte -/

/-- How a byte stands between quotes. -/
inductive Escaped (byte : UInt8) : Prop where
  | letter (escape : UInt8) (written : escapeByte byte = [backslash, escape])
      (short : escape ≠ 0x75) (means : escapedByte? escape = some byte)
      (unit : unitOf byte = .byte byte)
  | digits (high low : UInt8) (written : escapeByte byte = [backslash, 0x75, 0x30, 0x30, high, low])
      (means : hexUnit? 0x30 0x30 high low = some byte.toNat) (control : byte.toNat < 0x20)
      (unit : unitOf byte = .number byte.toNat)
  | plain (written : escapeByte byte = [byte]) (quote : byte ≠ 0x22) (slash : byte ≠ 0x5c)
      (printed : ¬ byte < 0x20) (unit : unitOf byte = .byte byte)

theorem hexUnit?_control : ∀ code < 0x20,
    hexUnit? 0x30 0x30 (hexByte (code / 16)) (hexByte (code % 16)) = some code := by
  decide

theorem escaped (byte : UInt8) : Escaped byte := by
  have written : escapeByte byte = escapeByte byte := rfl
  conv at written => rhs; unfold escapeByte
  split at written
  case h_8 code quote slash backspace tab line form carriage =>
    have other : byte ∉ lettered := by
      simp only [lettered, List.mem_cons, List.not_mem_nil, or_false, not_or]
      refine ⟨?_, ?_, ?_, ?_, ?_⟩ <;> rintro rfl <;> contradiction
    by_cases control : byte.toNat < 0x20
    · rw [if_pos control] at written
      exact .digits _ _ written (hexUnit?_control _ control) control (if_pos ⟨control, other⟩)
    · rw [if_neg control] at written
      refine .plain written ?_ ?_ (by simpa [UInt8.lt_iff_toNat_lt] using control)
        (if_neg fun both => control both.1)
      · rintro rfl
        contradiction
      · rintro rfl
        contradiction
  all_goals
    rename_i code
    have same := UInt8.ofNat_toNat (x := byte)
    rw [code] at same
    subst same
    exact .letter _ written (by decide) (by decide) (by decide)

/-- What stands for a byte of a text is read as one unit. -/
theorem scanUnits_escapeByte (byte : UInt8) (rest : Bytes) :
    scanUnits (escapeByte byte ++ rest) =
      (scanUnits rest).map fun read => (unitOf byte :: read.1, read.2) := by
  cases escaped byte with
  | letter escape written short means unit =>
    have front : escapeByte byte ++ rest = 0x5c :: escape :: rest := by rw [written]; rfl
    rw [front, scanUnits.eq_4 escape rest fun _ _ _ _ _ same _ => short same, means, unit]
    cases scanUnits rest <;> rfl
  | digits high low written means control unit =>
    have front : escapeByte byte ++ rest = 0x5c :: 0x75 :: 0x30 :: 0x30 :: high :: low :: rest := by
      rw [written]; rfl
    rw [front, scanUnits.eq_3, means, unit]
    cases scanUnits rest <;> rfl
  | plain written quote slash printed unit =>
    have front : escapeByte byte ++ rest = byte :: rest := by rw [written]; rfl
    rw [front, scanUnits.eq_5 byte rest (fun same => quote same)
      (fun _ _ _ _ _ same _ => slash same) (fun _ _ same _ => slash same), if_neg printed, unit]
    cases scanUnits rest <;> rfl

/-! ## A whole text -/

/-- What stands for the bytes of a text is read up to the closing quote. -/
theorem scanUnits_flatMap (bytes rest : Bytes) :
    scanUnits (bytes.flatMap escapeByte ++ quoteMark :: rest) = some (bytes.map unitOf, rest) := by
  induction bytes with
  | nil => exact scanUnits.eq_2 rest
  | cons byte bytes ih =>
    rw [List.flatMap_cons, List.append_assoc, scanUnits_escapeByte, ih]
    rfl

theorem ofText_control : ∀ code < 0x20,
    Bytes.ofText (Char.ofNat code).toString = [UInt8.ofNat code] := by
  decide +kernel

/-- A control counts for itself, whatever follows it. -/
theorem unitBytes_control {code : Nat} (control : code < 0x20) (units : List TextUnit) :
    unitBytes (.number code :: units) = (UInt8.ofNat code :: ·) <$> unitBytes units := by
  have text : (fun bytes : Bytes => Bytes.ofText (Char.ofNat code).toString ++ bytes) =
      (UInt8.ofNat code :: ·) := by
    rw [ofText_control code control]
    rfl
  cases units with
  | nil =>
    rw [unitBytes.eq_4 _ _ (fun _ _ same => by cases same), if_neg (by omega), text]
  | cons unit units =>
    cases unit with
    | byte value =>
      rw [unitBytes.eq_4 _ _ (fun _ _ same => by cases same), if_neg (by omega), text]
    | number low =>
      rw [unitBytes.eq_3, if_neg (by omega), if_neg (by omega), text]

/-- The units that are read have the bytes that were written. -/
theorem unitBytes_map_unitOf (bytes : Bytes) : unitBytes (bytes.map unitOf) = some bytes := by
  induction bytes with
  | nil => rfl
  | cons byte bytes ih =>
    rw [List.map_cons]
    cases escaped byte with
    | letter _ _ _ _ unit => rw [unit, unitBytes.eq_2, ih]; rfl
    | digits _ _ _ _ control unit =>
      rw [unit, unitBytes_control control, ih, UInt8.ofNat_toNat]
      rfl
    | plain _ _ _ _ unit => rw [unit, unitBytes.eq_2, ih]; rfl

/-- **A quoted text is read as it was written**, and what follows it is left. -/
theorem scanUnits_quote (text : String) (rest : Bytes) :
    ∃ units, scanUnits ((quote text).tail ++ rest) = some (units, rest) ∧
      unitText units = some text := by
  refine ⟨(Bytes.ofText text).map unitOf, ?_, ?_⟩
  · have front : (quote text).tail ++ rest =
        (Bytes.ofText text).flatMap escapeByte ++ quoteMark :: rest := by
      simp [quote]
    rw [front, scanUnits_flatMap]
  · rw [unitText, unitBytes_map_unitOf]
    exact Bytes.text?_ofText text

end Courier.Json
