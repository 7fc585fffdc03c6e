import Courier.Proofs.Wire.Reading

/-!
# The grammar of bodies

Which bytes are the body of a packet can be said without reading them
(`Packet.WellFormed`): a kind byte from zero to five and three bytes for an id, behind them
UTF-8 where a refusal gives its reason, and entries of four bytes, each of which begins with
one or two, where a sync does.  Just these bytes are read as a packet.

Several bodies may be read as one packet: the kinds without a payload ignore what stands
behind the id, and a sync ignores the id.  The canonical form of a body leaves out what is
ignored, and it is what the packet is written with (`Packet.decodeBody_grammar`).
-/

namespace Courier

set_option autoImplicit false

/-! ## Kinds -/

namespace PacketKind

theorem code_of_ofCode? {code : UInt8} {kind : PacketKind} (found : ofCode? code = some kind) :
    kind.code = code := by
  refine UInt8.toNat_inj.mp ?_
  unfold ofCode? at found
  split at found <;> cases found <;> exact Eq.symm ‹_›

/-- The bytes of kinds are the numbers from zero to five. -/
theorem exists_ofCode?_iff (code : UInt8) :
    (∃ kind, ofCode? code = some kind) ↔ code.toNat ≤ 5 := by
  constructor
  · rintro ⟨kind, found⟩
    rw [← code_of_ofCode? found]
    cases kind <;> decide
  · intro small
    unfold ofCode?
    generalize code.toNat = number at small
    match number, small with
    | 0, _ | 1, _ | 2, _ | 3, _ | 4, _ | 5, _ => exact ⟨_, rfl⟩

end PacketKind

namespace Packet

/-! ## Entries of a sync -/

/-- The bytes divide into entries of four, each of which begins with the byte of an acknowledgement
of receipt or of delivery. -/
structure AreEntries (payload : Bytes) : Prop where
  whole : 4 ∣ payload.length
  starts : ∀ place, 4 * place < payload.length →
    payload[4 * place]? = some 1 ∨ payload[4 * place]? = some 2

theorem areEntries_nil : AreEntries [] :=
  ⟨Nat.dvd_zero 4, fun _ inside => absurd inside (Nat.not_lt_zero _)⟩

theorem areEntries_cons {code high middle low : UInt8} {rest : Bytes} :
    AreEntries (code :: high :: middle :: low :: rest) ↔
      (code = 1 ∨ code = 2) ∧ AreEntries rest := by
  have length : (code :: high :: middle :: low :: rest).length = rest.length + 4 := rfl
  constructor
  · rintro ⟨whole, starts⟩
    rw [length] at whole starts
    refine ⟨by simpa using starts 0 (Nat.succ_pos _), by omega, ?_⟩
    intro place inside
    exact starts (place + 1) (by omega)
  · rintro ⟨first, whole, starts⟩
    refine ⟨by omega, ?_⟩
    intro place inside
    cases place with
    | zero => simpa using first
    | succ place => exact starts place (by omega)

/-- An entry is read if it begins with one or two, and then it is written with its own bytes. -/
theorem decodeAcks_entry {code high middle low : UInt8} {rest : Bytes} {acks : List Ack} :
    decodeAcks (code :: high :: middle :: low :: rest) = .ok acks ↔
      ∃ ack later, acks = ack :: later ∧ ackBytes ack = [code, high, middle, low] ∧
        decodeAcks rest = .ok later := by
  have id : (MessageId.ofBytes [high, middle, low]).toBytes = [high, middle, low] :=
    MessageId.toBytes_ofBytes rfl
  constructor
  · intro read
    rw [decodeAcks] at read
    cases tail : decodeAcks rest with
    | error fault =>
      rw [tail] at read
      split at read <;> cases read
    | ok later =>
      rw [tail] at read
      split at read
      · cases read
      · rename_i known
        cases read
        exact ⟨_, _, rfl, by rw [ackBytes, id, AckState.kind, PacketKind.code_of_ofCode? known], rfl⟩
      · rename_i known
        cases read
        exact ⟨_, _, rfl, by rw [ackBytes, id, AckState.kind, PacketKind.code_of_ofCode? known], rfl⟩
      · cases read
  · rintro ⟨ack, later, rfl, written, tail⟩
    have front : code :: high :: middle :: low :: rest = ackBytes ack ++ rest := by
      rw [written]
      rfl
    rw [front, decodeAcks_cons, tail]
    rfl

/-- Just what divides into entries is read as some, and they are written with the bytes that they
were read from. -/
theorem exists_decodeAcks_iff {payload : Bytes} (whole : 4 ∣ payload.length) :
    (∃ acks, decodeAcks payload = .ok acks) ↔ AreEntries payload := by
  match payload with
  | [] => exact ⟨fun _ => areEntries_nil, fun _ => ⟨[], rfl⟩⟩
  | [_] | [_, _] | [_, _, _] => simp at whole
  | code :: high :: middle :: low :: rest =>
    have fewer : 4 ∣ rest.length := by
      simp only [List.length_cons] at whole
      omega
    rw [areEntries_cons, ← exists_decodeAcks_iff fewer]
    constructor
    · rintro ⟨acks, read⟩
      obtain ⟨⟨state, id⟩, later, -, written, tail⟩ := decodeAcks_entry.mp read
      obtain ⟨first, -⟩ := List.cons.inj written
      refine ⟨?_, later, tail⟩
      rw [← first]
      cases state with
      | received => exact .inl rfl
      | delivered => exact .inr rfl
    · rintro ⟨first, later, tail⟩
      have id : (MessageId.ofBytes [high, middle, low]).toBytes = [high, middle, low] :=
        MessageId.toBytes_ofBytes rfl
      rcases first with rfl | rfl
      · exact ⟨⟨.received, _⟩ :: later,
          decodeAcks_entry.mpr ⟨_, later, rfl, congrArg (List.cons 1) id, tail⟩⟩
      · exact ⟨⟨.delivered, _⟩ :: later,
          decodeAcks_entry.mpr ⟨_, later, rfl, congrArg (List.cons 2) id, tail⟩⟩

theorem flatMap_ackBytes_of_decodeAcks {payload : Bytes} {acks : List Ack}
    (whole : 4 ∣ payload.length) (read : decodeAcks payload = .ok acks) :
    acks.flatMap ackBytes = payload := by
  match payload with
  | [] =>
    cases read
    rfl
  | [_] | [_, _] | [_, _, _] => simp at whole
  | code :: high :: middle :: low :: rest =>
    have fewer : 4 ∣ rest.length := by
      simp only [List.length_cons] at whole
      omega
    obtain ⟨ack, later, rfl, written, tail⟩ := decodeAcks_entry.mp read
    rw [List.flatMap_cons, written, flatMap_ackBytes_of_decodeAcks fewer tail]
    rfl

/-! ## Bodies -/

/-- Bytes that are the body of a packet, by their form. -/
structure WellFormed (bytes : Bytes) : Prop where
  header : 4 ≤ bytes.length
  kind : ∀ code ∈ bytes.head?, code.toNat ≤ 5
  /-- The reason of a refusal is UTF-8. -/
  reason : bytes.head? = some 3 → ∃ text, bytes.drop 4 = Bytes.ofText text
  /-- A sync has entries behind its header. -/
  entries : bytes.head? = some 5 → AreEntries (bytes.drop 4)

/-- The part of a body that counts: what is behind the id of a kind without a payload does not, nor
does the id of a sync. -/
def canonical : Bytes → Bytes
  | code :: high :: middle :: low :: payload =>
    match code.toNat with
    | 1 | 2 | 4 => [code, high, middle, low]
    | 5 => code :: 0 :: 0 :: 0 :: payload
    | _ => code :: high :: middle :: low :: payload
  | short => short

/-! ### Headers -/

theorem head?_header (kind : PacketKind) (id : MessageId) (payload : Bytes) :
    (kind.code :: id.toBytes ++ payload).head? = some kind.code := rfl

theorem drop_header (kind : PacketKind) (id : MessageId) (payload : Bytes) :
    (kind.code :: id.toBytes ++ payload).drop 4 = payload :=
  List.drop_left' (by simp)

/-- Enough bytes that begin with the byte of a kind are a header and what is behind it. -/
theorem exists_header {bytes : Bytes} (header : 4 ≤ bytes.length)
    (kind : ∀ code ∈ bytes.head?, code.toNat ≤ 5) :
    ∃ kind : PacketKind, ∃ id : MessageId, ∃ payload,
      bytes = kind.code :: id.toBytes ++ payload := by
  match bytes, header with
  | code :: high :: middle :: low :: payload, _ =>
    obtain ⟨kind, found⟩ := (PacketKind.exists_ofCode?_iff code).mpr (kind code rfl)
    refine ⟨kind, .ofBytes [high, middle, low], payload, ?_⟩
    rw [MessageId.toBytes_ofBytes rfl, PacketKind.code_of_ofCode? found]
    rfl

/-- What is read as a packet begins with a header. -/
theorem header_of_decodeBody {bytes : Bytes} {packet : Packet}
    (read : decodeBody bytes = .ok packet) :
    ∃ kind : PacketKind, ∃ id : MessageId, ∃ payload,
      bytes = kind.code :: id.toBytes ++ payload := by
  unfold decodeBody at read
  split at read
  · rename_i code high middle low payload
    split at read
    · cases read
    · rename_i kind found
      apply exists_header (Nat.le_add_left ..)
      intro first same
      cases same
      exact (PacketKind.exists_ofCode?_iff code).mp ⟨kind, found⟩
  · cases read

/-- A payload is read for a kind if it has the form that the kind asks for. -/
theorem exists_ofPayload_iff (kind : PacketKind) (id : MessageId) (payload : Bytes) :
    (∃ packet, ofPayload kind id payload = .ok packet) ↔
      (kind = .nack → ∃ text, payload = Bytes.ofText text) ∧
        (kind = .sync → AreEntries payload) := by
  cases kind with
  | data | ackReceived | ackDelivered | ackOfNack =>
    exact ⟨fun _ => ⟨by simp, by simp⟩, fun _ => ⟨_, rfl⟩⟩
  | nack =>
    constructor
    · rintro ⟨packet, read⟩
      simp only [ofPayload] at read
      split at read
      · rename_i reason spelled
        exact ⟨fun _ => ⟨reason, (Bytes.ofText_of_text? spelled).symm⟩, by simp⟩
      · cases read
    · rintro ⟨spelled, -⟩
      obtain ⟨text, rfl⟩ := spelled rfl
      exact ⟨.nack id text, by simp only [ofPayload, Bytes.text?_ofText]; rfl⟩
  | sync =>
    constructor
    · rintro ⟨packet, read⟩
      refine ⟨by simp, ?_⟩
      intro _
      simp only [ofPayload] at read
      split at read
      · rename_i whole
        have whole := Nat.dvd_of_mod_eq_zero whole
        cases entries : decodeAcks payload with
        | error fault => rw [entries] at read; cases read
        | ok acks => exact (exists_decodeAcks_iff whole).mp ⟨acks, entries⟩
      · cases read
    · rintro ⟨-, entries⟩
      have entries := entries rfl
      obtain ⟨acks, read⟩ := (exists_decodeAcks_iff entries.whole).mpr entries
      refine ⟨.sync acks, ?_⟩
      simp only [ofPayload, Nat.mod_eq_zero_of_dvd entries.whole, if_true, read]
      rfl

/-- The canonical form by the parts of a body. -/
theorem canonical_header (kind : PacketKind) (id : MessageId) (payload : Bytes) :
    canonical (kind.code :: id.toBytes ++ payload) =
      match kind with
      | .data | .nack => kind.code :: id.toBytes ++ payload
      | .ackReceived | .ackDelivered | .ackOfNack => kind.code :: id.toBytes
      | .sync => kind.code :: MessageId.zero.toBytes ++ payload := by
  obtain ⟨high, middle, low, bytes⟩ := List.length_eq_three.mp id.length_toBytes
  rw [bytes]
  cases kind <;> rfl

/-! ### What is read and what is written -/

/-- Just the bytes of the right form are read as a packet. -/
theorem exists_decodeBody_iff (bytes : Bytes) :
    (∃ packet, decodeBody bytes = .ok packet) ↔ WellFormed bytes := by
  constructor
  · rintro ⟨packet, read⟩
    obtain ⟨kind, id, payload, rfl⟩ := header_of_decodeBody read
    rw [decodeBody_header] at read
    obtain ⟨reason, entries⟩ := (exists_ofPayload_iff kind id payload).mp ⟨packet, read⟩
    constructor
    case header => simp
    case kind =>
      intro code first
      cases first
      exact (PacketKind.exists_ofCode?_iff _).mp ⟨kind, PacketKind.ofCode?_code kind⟩
    case reason =>
      rw [head?_header, drop_header]
      intro third
      exact reason (by cases kind <;> cases third; rfl)
    case entries =>
      rw [head?_header, drop_header]
      intro fifth
      exact entries (by cases kind <;> cases fifth; rfl)
  · intro formed
    obtain ⟨kind, id, payload, rfl⟩ := exists_header formed.header formed.kind
    obtain ⟨-, -, reason, entries⟩ := formed
    rw [head?_header, drop_header] at reason entries
    rw [decodeBody_header]
    refine (exists_ofPayload_iff kind id payload).mpr ⟨?_, ?_⟩
    · rintro rfl
      exact reason rfl
    · rintro rfl
      exact entries rfl

/-- The body of a packet is the canonical form of the body that it was read from. -/
theorem body_of_decodeBody {bytes : Bytes} {packet : Packet}
    (read : decodeBody bytes = .ok packet) : packet.body = canonical bytes := by
  obtain ⟨kind, id, payload, rfl⟩ := header_of_decodeBody read
  rw [decodeBody_header] at read
  rw [canonical_header]
  cases kind with
  | data | ackReceived | ackDelivered | ackOfNack =>
    cases read
    simp [body, Packet.kind, Packet.id, payloadBytes]
  | nack =>
    simp only [ofPayload] at read
    split at read
    · rename_i reason spelled
      cases read
      simp [body, Packet.kind, Packet.id, payloadBytes, Bytes.ofText_of_text? spelled]
    · cases read
  | sync =>
    simp only [ofPayload] at read
    split at read
    · rename_i whole
      cases entries : decodeAcks payload with
      | error fault => rw [entries] at read; cases read
      | ok acks =>
        rw [entries] at read
        cases read
        simp [body, Packet.kind, Packet.id, payloadBytes,
          flatMap_ackBytes_of_decodeAcks (Nat.dvd_of_mod_eq_zero whole) entries]
    · cases read

/-- The canonical form is no longer than the body. -/
theorem length_canonical_le (bytes : Bytes) : (canonical bytes).length ≤ bytes.length := by
  unfold canonical
  split
  · split <;> simp
  · exact Nat.le_refl _

/-- **Just the bytes of the right form are read as a packet.  It is written as the length of the
canonical form, the canonical form, and zeros up to a multiple of four bytes; and the canonical form
is read as the same packet.** -/
theorem decodeBody_grammar {bytes : Bytes} (short : bytes.length < 0x100000000) :
    ((∃ packet, decodeBody bytes = .ok packet) ↔ WellFormed bytes) ∧
      ∀ packet, decodeBody bytes = .ok packet →
        (∃ zeros < 4,
          packet.encode = Bytes.ofNatBE 4 (canonical bytes).length ++ canonical bytes ++
            List.replicate zeros 0) ∧
        4 ∣ packet.encode.length ∧
        Bytes.toNatBE (packet.encode.take 4) = (canonical bytes).length ∧
        decodeBody (canonical bytes) = .ok packet := by
  refine ⟨exists_decodeBody_iff bytes, ?_⟩
  intro packet read
  have body := body_of_decodeBody read
  refine ⟨⟨_, ?_, by rw [← body]; rfl⟩, ?_, ?_, by rw [← body, decodeBody_body]⟩
  · unfold paddedLength
    omega
  · rw [length_encode, paddedLength]
    omega
  · have number := packet.announced_encode []
    have fits := Nat.lt_of_le_of_lt (length_canonical_le bytes) short
    rwa [List.append_nil, body, Nat.mod_eq_of_lt fits] at number

/-- A sync with an id in its header, which is left out when it is written again. -/
theorem decodeBody_grammar_sync :
    ([5, 0, 0, 9, 2, 1, 2, 3] : Bytes).length < 0x100000000 ∧
      ∃ packet, decodeBody [5, 0, 0, 9, 2, 1, 2, 3] = .ok packet ∧
        decodeBody [5, 0, 0, 0, 2, 1, 2, 3] = .ok packet ∧
        4 ∣ packet.encode.length ∧ Bytes.toNatBE (packet.encode.take 4) = 8 := by
  have short : ([5, 0, 0, 9, 2, 1, 2, 3] : Bytes).length < 0x100000000 := by decide
  obtain ⟨-, read⟩ := decodeBody_grammar short
  obtain ⟨-, whole, announced, again⟩ := read _ rfl
  exact ⟨short, _, rfl, again, whole, announced⟩

end Packet

end Courier
