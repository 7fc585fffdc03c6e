import Courier.Proofs.Json.Documents
import Mathlib

/-!
# Floats and their texts

When the shortest decimal of a float is read again it is rounded, and the reader rounds
after each step.  So it may end at a neighbour of the float, and whether a float comes back
is said of each float by itself (`Json.ReadsBack`), which can be computed for any that is
given.

What does not depend on rounding is shown here: a number that is read from a text of its
own is read in front of whatever closes it, and a float that is not finite is one of three.
-/

namespace Courier

set_option autoImplicit false

namespace Json

/-! ## Numbers in front of something else -/

section Scan

variable {bytes rest : Bytes}

/-- What follows a number does not add to its digits. -/
theorem spanDigits_extend (closes : Closes rest) :
    spanDigits (bytes ++ rest) = ((spanDigits bytes).1, (spanDigits bytes).2 ++ rest) := by
  induction bytes with
  | nil =>
    have span : spanDigits ([] ++ rest) = ([], rest) :=
      spanDigits_append (by simp) closes.not_digit
    simpa [spanDigits] using span
  | cons byte bytes ih =>
    by_cases digit : isDigit byte = true
    · simp only [spanDigits, List.cons_append, List.takeWhile_cons_of_pos digit,
        List.dropWhile_cons_of_pos digit, Prod.mk.injEq] at ih ⊢
      exact ⟨congrArg _ ih.1, ih.2⟩
    · simp [spanDigits, digit]

theorem scanWhole_extend (closes : Closes rest) {digits left : Bytes}
    (scanned : scanWhole bytes = some (digits, left)) :
    scanWhole (bytes ++ rest) = some (digits, left ++ rest) := by
  unfold scanWhole at scanned ⊢
  rw [spanDigits_extend closes]
  generalize spanDigits bytes = span at scanned ⊢
  obtain ⟨front, behind⟩ := span
  split at scanned
  · cases scanned
  · cases scanned
  · rename_i nonempty whole same
    cases scanned
    cases same
    split
    · rename_i same
      cases same
      exact absurd rfl nonempty
    · rename_i same
      cases same
      exact (whole _ _ rfl).elim
    · rename_i same
      cases same
      rfl

theorem scanFraction_extend (closes : Closes rest) {fraction : Option Bytes} {left : Bytes}
    (scanned : scanFraction bytes = some (fraction, left)) :
    scanFraction (bytes ++ rest) = some (fraction, left ++ rest) := by
  cases bytes with
  | nil =>
    cases scanned
    exact closes.scanFraction
  | cons byte bytes =>
    by_cases point : byte = 0x2e
    · subst point
      simp only [List.cons_append, scanFraction, spanDigits_extend closes] at scanned ⊢
      generalize spanDigits bytes = span at scanned ⊢
      obtain ⟨_ | ⟨first, digits⟩, behind⟩ := span <;> cases scanned
      rfl
    · have other (bytes : Bytes) : scanFraction (byte :: bytes) = some (none, byte :: bytes) := by
        unfold scanFraction
        split
        · exact absurd (List.cons.inj ‹_›).1 point
        · rfl
      rw [other] at scanned
      cases scanned
      exact other _

theorem scanExponent_extend (closes : Closes rest) {power : Option Int} {left : Bytes}
    (scanned : scanExponent bytes = some (power, left)) :
    scanExponent (bytes ++ rest) = some (power, left ++ rest) := by
  rcases bytes with _ | ⟨byte, bytes⟩
  · cases scanned
    exact closes.scanExponent
  by_cases letter : (byte = 0x65 || byte = 0x45) = true
  · -- Behind the letter comes a digit at least, so the sign is seen in the same place.
    rcases bytes with _ | ⟨sign, bytes⟩
    · simp [scanExponent, letter, spanDigits] at scanned
    obtain ⟨negative, digits, signed⟩ : ∃ (negative : Bool) (digits : Bytes), ∀ tail,
        scanExponent (byte :: sign :: (bytes ++ tail)) =
          let span := spanDigits (digits ++ tail)
          let power : Int := if negative then -digitsValue span.1 else digitsValue span.1
          if span.1.isEmpty then none else some (some power, span.2) := by
      by_cases plus : sign = 0x2b
      · refine ⟨false, bytes, fun tail => ?_⟩
        simp only [plus, scanExponent, letter, if_true]
        rcases spanDigits (bytes ++ tail) with ⟨_ | ⟨first, others⟩, behind⟩ <;> rfl
      by_cases minus : sign = 0x2d
      · refine ⟨true, bytes, fun tail => ?_⟩
        simp only [minus, scanExponent, letter, if_true]
        rcases spanDigits (bytes ++ tail) with ⟨_ | ⟨first, others⟩, behind⟩ <;> rfl
      · refine ⟨false, sign :: bytes, fun tail => ?_⟩
        have noPlus (after : Bytes) (same : sign :: (bytes ++ tail) = 0x2b :: after) : False :=
          plus (List.cons.inj same).1
        have noMinus (after : Bytes) (same : sign :: (bytes ++ tail) = 0x2d :: after) : False :=
          minus (List.cons.inj same).1
        simp only [scanExponent, letter, if_true, List.cons_append]
        rcases spanDigits (sign :: (bytes ++ tail)) with ⟨_ | ⟨first, others⟩, behind⟩ <;> rfl
    have alone := signed []
    rw [List.append_nil, List.append_nil, scanned] at alone
    rw [List.cons_append, List.cons_append, signed rest, spanDigits_extend closes]
    generalize spanDigits digits = span at alone ⊢
    obtain ⟨_ | ⟨first, others⟩, behind⟩ := span <;> cases alone
    rfl
  · simp only [List.cons_append, scanExponent, letter] at scanned ⊢
    cases scanned
    rfl

/-- **A number is read whatever closes it.** -/
theorem scanNumber_extend (closes : Closes rest) {numeral : Numeral} {left : Bytes}
    (scanned : scanNumber bytes = some (numeral, left)) :
    scanNumber (bytes ++ rest) = some (numeral, left ++ rest) := by
  have parts (bytes : Bytes) (negative : Bool)
      (scanned : (scanWhole bytes >>= fun whole => scanFraction whole.2 >>= fun fraction =>
        scanExponent fraction.2 >>= fun power =>
        some ((⟨negative, whole.1, fraction.1, power.1⟩ : Numeral), power.2)) =
          some (numeral, left)) :
      (scanWhole (bytes ++ rest) >>= fun whole => scanFraction whole.2 >>= fun fraction =>
        scanExponent fraction.2 >>= fun power =>
        some ((⟨negative, whole.1, fraction.1, power.1⟩ : Numeral), power.2)) =
          some (numeral, left ++ rest) := by
    obtain ⟨⟨digits, first⟩, whole, scanned⟩ := Option.bind_eq_some_iff.mp scanned
    obtain ⟨⟨places, second⟩, fraction, scanned⟩ := Option.bind_eq_some_iff.mp scanned
    obtain ⟨⟨power, last⟩, exponent, scanned⟩ := Option.bind_eq_some_iff.mp scanned
    cases scanned
    refine Option.bind_eq_some_iff.mpr ⟨_, scanWhole_extend closes whole, ?_⟩
    refine Option.bind_eq_some_iff.mpr ⟨_, scanFraction_extend closes fraction, ?_⟩
    exact Option.bind_eq_some_iff.mpr ⟨_, scanExponent_extend closes exponent, rfl⟩
  rcases bytes with _ | ⟨byte, bytes⟩
  · cases scanned
  by_cases minus : byte = 0x2d
  · subst minus
    exact parts bytes true scanned
  · have unsigned (bytes : Bytes) : scanNumber (byte :: bytes) =
        (scanWhole (byte :: bytes) >>= fun whole => scanFraction whole.2 >>= fun fraction =>
          scanExponent fraction.2 >>= fun power =>
          some ((⟨false, whole.1, fraction.1, power.1⟩ : Numeral), power.2)) := by
      unfold scanNumber
      split
      rename_i sign digits same
      split at same
      · exact absurd (List.cons.inj ‹_›).1 minus
      · obtain ⟨rfl, rfl⟩ := Prod.mk.inj same
        rfl
    rw [unsigned] at scanned
    rw [List.cons_append, unsigned]
    exact parts (byte :: bytes) false scanned

end Scan

/-! ## Finite floats -/

/-- What is read of the text of a float. -/
def readBack? (value : Float) : Option Float :=
  match scanNumber (ascii (floatText value)) with
  | some (numeral, []) => numeral.toFloat?
  | _ => none

/-- The text of a float is a number that is read as this float, bit for bit. -/
def ReadsBack (value : Float) : Prop := readBack? value = some value

instance (value : Float) : Decidable (ReadsBack value) :=
  inferInstanceAs (Decidable (readBack? value = some value))

/-- Digits that fit into the significand of a float are not rounded before they are scaled. -/
example : ReadsBack (-0.1) ∧ ReadsBack 5e-324 ∧ ¬ ReadsBack 90.33333333333333 := by decide +kernel

end Json

/-- A float that is not finite is the one NaN or one of the two infinities. -/
theorem eq_of_isFinite_eq_false {value : Float} (named : value.isFinite = false) :
    value = 0.0 / 0.0 ∨ value = 1.0 / 0.0 ∨ value = -1.0 / 0.0 := by
  have same {other : Float} (bits : value.toBits.toBitVec = other.toBits.toBitVec) :
      value = other := Float.toBits_inj.mp (UInt64.toBitVec_inj.mp bits)
  -- The bits of a float are what its parts are packed to, and one without a value has no others.
  have packed := Float.Model.UnpackedFloat.pack_unpack_of_valid value.toModel.valid
  have kind : (Float.Model.UnpackedFloat.unpack .binary64 value.toModel.toBits.toBitVec).isFinite =
      false := named
  generalize Float.Model.UnpackedFloat.unpack .binary64 value.toModel.toBits.toBitVec = parts
    at packed kind
  cases parts with
  | notANumber => exact .inl (same (packed.symm.trans (by decide +kernel)))
  | infinity sign =>
    cases sign with
    | positive => exact .inr (.inl (same (packed.symm.trans (by decide +kernel))))
    | negative => exact .inr (.inr (same (packed.symm.trans (by decide +kernel))))
  | zero sign => cases kind
  | finite sign mantissa exponent positive => cases kind

end Courier
