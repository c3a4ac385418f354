import RustyModbus.Codec.Pdu
import RustyModbus.Frame.Stream

/-!
# Strict framing and the PDU codec

The strict framer derives a PDU's length from a table of its own; the PDU codec knows the
length from its decoders. They agree: on every PDU the codec accepts and the framer has a
rule for (`SelfDelimiting`), the framer finds exactly its length. The codec's side enters
through the wire forms of `decodeRequest_eq_ok` and `decodeResponse_eq_ok`; the one loop on both
sides is the walk over the identification objects.
-/

namespace RustyModbus

open Wire Stream

/-! ## The length grammar -/

/-- The grammar the framer documents, function by function. -/
def FunctionCode.pduLength (fc : FunctionCode) (direction : Direction) (src : List UInt8) :
    PduLength :=
  match fc, direction with
  | readCoils, .request | readDiscreteInputs, .request => .ok (some 5)
  | readHoldingRegisters, .request | readInputRegisters, .request => .ok (some 5)
  | readCoils, .response | readDiscreteInputs, .response => pduLengthFromU8Count src 2 2
  | readHoldingRegisters, .response | readInputRegisters, .response =>
    pduLengthFromU8Count src 2 2
  | writeSingleCoil, _ | writeSingleRegister, _ => .ok (some 5)
  | readExceptionStatus, .request => .ok (some 1)
  | readExceptionStatus, .response => .ok (some 2)
  | diagnostics, _ => diagnosticPduLength src
  | getCommEventCounter, .request | getCommEventLog, .request => .ok (some 1)
  | getCommEventCounter, .response => .ok (some 5)
  | getCommEventLog, .response => pduLengthFromU8Count src 2 2
  | writeMultipleCoils, .request | writeMultipleRegisters, .request =>
    pduLengthFromU8Count src 6 6
  | writeMultipleCoils, .response | writeMultipleRegisters, .response => .ok (some 5)
  | reportServerId, .request => .ok (some 1)
  | reportServerId, .response => pduLengthFromU8Count src 2 2
  | readFileRecord, _ | writeFileRecord, _ => pduLengthFromU8Count src 2 2
  | maskWriteRegister, _ => .ok (some 7)
  | readWriteMultipleRegisters, .request => pduLengthFromU8Count src 10 10
  | readWriteMultipleRegisters, .response => pduLengthFromU8Count src 2 2
  | readFifoQueue, .request => .ok (some 3)
  | readFifoQueue, .response => pduLengthFromU16Count src 3 2
  | encapsulatedInterfaceTransport, .request => meiRequestPduLength src
  | encapsulatedInterfaceTransport, .response => meiResponsePduLength src
  | custom code, _ => .error (indeterminate code)

/-- The table over function code bytes implements the grammar. -/
theorem standardPduLength_code {fc : FunctionCode} (h : ∀ b, fc ≠ .custom b)
    (direction : Direction) (src : List UInt8) :
    standardPduLength fc.code direction src = fc.pduLength direction src := by
  cases fc with
  | custom b => exact absurd rfl (h b)
  | _ => cases direction <;> rfl

/-! ## The length rules on a PDU behind a unit identifier -/

theorem validateStrictPduLength_eq_ok {n : Nat} (h : n ≤ 253) :
    validateStrictPduLength n = .ok () :=
  rejectIf_eq_ok.mpr (Nat.not_lt.mpr h)

variable {src : List UInt8}

theorem readAt_eq {i : Nat} {b : UInt8} (h : src[i]? = some b) (next : UInt8 → PduLength) :
    readAt src i next = next b := by
  rw [readAt, h]

theorem pduLengthFromU8Count_eq {base i n : Nat} {c : UInt8} (hcount : src[i]? = some c)
    (hn : base + c.toNat = n) (h253 : n ≤ 253) :
    pduLengthFromU8Count src base i = .ok (some n) := by
  subst hn
  rw [pduLengthFromU8Count, readAt_eq hcount]
  dsimp only
  rw [validateStrictPduLength_eq_ok h253]
  rfl

theorem pduLengthFromU16Count_eq {base i n : Nat} {c : UInt16}
    (hhi : src[i]? = some (c >>> 8).toUInt8) (hlo : src[i + 1]? = some c.toUInt8)
    (hn : base + c.toNat = n) (h253 : n ≤ 253) :
    pduLengthFromU16Count src base i = .ok (some n) := by
  subst hn
  rw [pduLengthFromU16Count, readAt_eq hhi, readAt_eq hlo, fromBeBytes_shift]
  dsimp only
  rw [validateStrictPduLength_eq_ok h253]
  rfl

/-- The object walk of the codec stays within the object data. -/
theorem walkObjects_bound {od : List UInt8} : ∀ {n off fin : Nat},
    walkObjects od n off = .ok fin → off + 2 * n ≤ fin
  | 0, off, fin, h => by
    cases h
    exact Nat.le_refl _
  | n + 1, off, fin, h => by
    obtain ⟨-, h⟩ := check_bind_eq_ok.mp h
    obtain ⟨-, h⟩ := check_bind_eq_ok.mp h
    have := walkObjects_bound h
    omega

/-- The two object walks in step: the framer's running length is the codec's offset behind
the seven bytes of the header. -/
theorem addObjectLengths_eq {src od : List UInt8} (hsrc : ∀ i, src[8 + i]? = od[i]?)
    (hod : 7 + od.length ≤ 253) : ∀ {n off fin : Nat}, walkObjects od n off = .ok fin →
      addObjectLengths src n (7 + off) = .ok (some (7 + fin))
  | 0, off, fin, h => by
    cases h
    rfl
  | n + 1, off, fin, h => by
    obtain ⟨h2, h⟩ := check_bind_eq_ok.mp h
    obtain ⟨hend, h⟩ := check_bind_eq_ok.mp h
    have h2 := rejectIf_eq_ok.mp h2
    have hend := rejectIf_eq_ok.mp hend
    have hid : src[1 + (7 + off)]? = some od[off] := by
      rw [show 1 + (7 + off) = 8 + off by omega, hsrc, List.getElem?_eq_getElem]
    have hlen : src[1 + (7 + off) + 1]? = some od[off + 1]! := by
      rw [show 1 + (7 + off) + 1 = 8 + (off + 1) by omega, hsrc,
        getElem!_pos od (off + 1) (by omega), List.getElem?_eq_getElem]
    rw [addObjectLengths]
    dsimp only
    rw [readAt_eq hid, readAt_eq hlen,
      show 7 + off + (2 + od[off + 1]!.toNat) = 7 + (off + (2 + od[off + 1]!.toNat)) by omega,
      validateStrictPduLength_eq_ok (by omega)]
    exact addObjectLengths_eq hsrc hod h

/-- The framer's rule for identification responses finds the end of the last object. -/
theorem meiResponsePduLength_eq (unitId : UInt8) {data : List UInt8}
    (h : IdentificationBytes data) (h253 : data.length + 1 ≤ 253) :
    meiResponsePduLength (unitId :: FunctionCode.encapsulatedInterfaceTransport.code :: data)
      = .ok (some (data.length + 1)) := by
  have h6 := h.header
  have hget : ∀ i, i < data.length →
      (unitId :: FunctionCode.encapsulatedInterfaceTransport.code :: data)[i + 2]?
        = some data[i]! := by
    intro i hi
    rw [List.getElem?_cons_succ, List.getElem?_cons_succ, List.getElem?_eq_getElem hi,
      getElem!_pos data i hi]
  have hod : (data.drop 6).length = data.length - 6 := List.length_drop
  have hbound := walkObjects_bound h.objects
  have hobjects : ∀ i, (unitId :: FunctionCode.encapsulatedInterfaceTransport.code :: data)[8 + i]?
      = (data.drop 6)[i]? := by
    intro i
    rw [List.getElem?_drop, show 8 + i = 6 + i + 2 by omega]
    rfl
  have hwalk := addObjectLengths_eq hobjects (by omega) h.objects
  have hmei : ¬data[0]! ≠ 0x0E := not_not_intro h.meiType
  rw [meiResponsePduLength, readAt_eq (hget 0 (by omega)), if_neg hmei,
    readAt_eq (hget 5 (by omega))]
  dsimp only
  rw [validateStrictPduLength_eq_ok (by omega)]
  rw [hod, show 7 + (data.length - 6) = data.length + 1 by omega] at hwalk
  exact hwalk

/-! ## Self-delimiting messages -/

/-- Sub-functions with a fixed one-word message. -/
def DiagnosticsMessage.OneWord (r : DiagnosticsMessage) : Prop :=
  r.subFunction ≠ .returnQueryData ∧ r.subFunction ≠ .forceListenOnlyMode ∧ r.data.length = 2

/-- The requests the strict framer has a rule for. -/
def RequestPdu.SelfDelimiting : RequestPdu → Prop
  | diagnostics r => r.OneWord
  | encapsulatedInterface r => r.meiType = .readDeviceIdentification
  | custom _ _ => False
  | _ => True

/-- The responses the strict framer has a rule for. -/
def ResponsePdu.SelfDelimiting : ResponsePdu → Prop
  | diagnostics r => r.OneWord
  | encapsulatedInterface r => r.meiType = .readDeviceIdentification
  | custom _ _ => False
  | exception r => ∀ b, r.functionCode ≠ .custom b
  | _ => True

theorem diagnosticPduLength_eq (unitId : UInt8) {r : DiagnosticsMessage} (h : r.OneWord) :
    diagnosticPduLength (unitId :: FunctionCode.diagnostics.code :: r.body)
      = .ok (some (r.body.length + 1)) := by
  obtain ⟨subFunction, data⟩ := r
  obtain ⟨h0, h4, hlen⟩ := h
  have hbody : (DiagnosticsMessage.body ⟨subFunction, data⟩).length + 1 = 5 := by
    rw [DiagnosticsMessage.body, List.length_append, toBeBytes_length]
    exact congrArg (2 + · + 1) hlen
  rw [hbody, diagnosticPduLength, readAt_eq (b := (subFunction.code >>> 8).toUInt8) rfl,
    readAt_eq (b := subFunction.code.toUInt8) rfl, fromBeBytes_shift]
  cases subFunction with
  | returnQueryData => exact absurd rfl h0
  | forceListenOnlyMode => exact absurd rfl h4
  | _ => rfl

/-- On the requests it has a rule for, the framer finds the length of the PDU. -/
theorem pduLength_request (unitId : UInt8) {r : RequestPdu} (hv : r.Valid)
    (h253 : r.wire.length ≤ 253) (hs : r.SelfDelimiting) :
    r.functionCode.pduLength .request (unitId :: r.wire) = .ok (some r.wire.length) := by
  cases r with
  | readCoils r | readDiscreteInputs r | readHoldingRegisters r | readInputRegisters r
  | writeSingleCoil r | writeSingleRegister r | readExceptionStatus | getCommEventCounter
  | getCommEventLog | reportServerId | maskWriteRegister r | readFifoQueue r => rfl
  | diagnostics r =>
    exact diagnosticPduLength_eq unitId hs
  | writeMultipleCoils r | writeMultipleRegisters r =>
    refine pduLengthFromU8Count_eq (c := r.byteCount) rfl ?_ h253
    rw [hv.2.2]
    exact Nat.add_comm 6 _
  | readFileRecord r | writeFileRecord r =>
    refine pduLengthFromU8Count_eq (c := r.byteCount) rfl ?_ h253
    rw [← hv.2.1]
    exact Nat.add_comm 2 _
  | readWriteMultipleRegisters r =>
    refine pduLengthFromU8Count_eq (c := r.writeByteCount) rfl ?_ h253
    rw [hv.2.2.2]
    exact Nat.add_comm 10 _
  | encapsulatedInterface r =>
    obtain ⟨mei, data⟩ := r
    obtain rfl : mei = .readDeviceIdentification := hs
    have hlen := (check_bind_eq_ok.mp (hv rfl)).1
    have hdata : data.length = 2 := DecodeError.checkExactLen_eq_ok.mp hlen
    show _ = Except.ok (some (data.length + 2))
    rw [hdata]
    rfl
  | custom fc data => exact absurd hs id

variable {r : ResponsePdu}

/-- On the normal responses it has a rule for, the framer finds the length of the PDU. -/
theorem pduLength_response (unitId : UInt8) (hv : r.Valid) (h253 : r.wire.length ≤ 253)
    (hs : r.SelfDelimiting) (hexc : ¬r.IsException) :
    r.functionCode.pduLength .response (unitId :: r.wire) = .ok (some r.wire.length) := by
  cases r with
  | writeSingleCoil r | writeSingleRegister r | readExceptionStatus r | getCommEventCounter r
  | writeMultipleCoils r | writeMultipleRegisters r | maskWriteRegister r => rfl
  | readCoils r | readDiscreteInputs r | reportServerId r =>
    refine pduLengthFromU8Count_eq (c := r.byteCount) rfl ?_ h253
    rw [← show r.data.length = r.byteCount.toNat from hv]
    exact Nat.add_comm 2 _
  | readHoldingRegisters r | readInputRegisters r | readWriteMultipleRegisters r =>
    refine pduLengthFromU8Count_eq (c := r.byteCount) rfl ?_ h253
    rw [← hv.1]
    exact Nat.add_comm 2 _
  | diagnostics r =>
    exact diagnosticPduLength_eq unitId hs
  | getCommEventLog r =>
    refine pduLengthFromU8Count_eq (c := r.byteCount) rfl ?_ h253
    rw [show r.byteCount.toNat = 6 + r.events.length from hv, ← Nat.add_assoc]
    exact Nat.add_comm 8 _
  | readFileRecord r | writeFileRecord r =>
    refine pduLengthFromU8Count_eq (c := r.byteCount) rfl ?_ h253
    rw [← hv.2.1]
    exact Nat.add_comm 2 _
  | readFifoQueue r =>
    refine pduLengthFromU16Count_eq (c := r.byteCount) rfl rfl ?_ h253
    rw [hv.1, ← Nat.add_assoc]
    exact Nat.add_comm 5 _
  | encapsulatedInterface r =>
    obtain ⟨mei, data⟩ := r
    obtain rfl : mei = .readDeviceIdentification := hs
    exact meiResponsePduLength_eq unitId (checkIdentificationResponse_eq_ok.mp (hv rfl)) h253
  | custom fc data => exact absurd hs id
  | exception r => exact absurd trivial hexc

/-- The exception to a named function is two bytes long. -/
theorem standardPduLength_exception {fc : FunctionCode} (h : ∀ b, fc ≠ .custom b)
    (src : List UInt8) : standardPduLength fc.exceptionCode .response src = .ok (some 2) := by
  cases fc with
  | custom b => exact absurd rfl (h b)
  | _ => rfl

/-! ## Decoding -/

theorem checkAduCrc_eq_ok {adu : List UInt8} (h : verifyCrc adu = true) :
    checkAduCrc adu = .ok () := by
  unfold verifyCrc at h
  split at h
  · cases h
  · exact rejectIf_eq_ok.mpr (not_not_intro (eq_of_beq h))

/-- A PDU whose length the framer finds comes out of its ADU, whatever follows. -/
theorem decodeStrict_rtuAdu {direction : Direction} {unitId fc : UInt8} {body : List UInt8}
    (hlen : standardPduLength fc direction (unitId :: fc :: body) = .ok (some (fc :: body).length))
    (h253 : (fc :: body).length ≤ 253) (suffix : List UInt8) :
    decodeStrict direction (rtuAdu unitId (fc :: body) ++ suffix)
      = (.ok (some ⟨.rtu unitId, fc :: body⟩), suffix) := by
  have hadu : strictAduLength direction (unitId :: fc :: body)
      = .ok (some ((fc :: body).length + 3)) := by
    rw [strictAduLength, readAt_eq (b := fc) rfl, hlen, onceKnown,
      validateStrictPduLength_eq_ok h253]
    rfl
  have hsplit : rtuAdu unitId (fc :: body) ++ suffix = (unitId :: fc :: body) ++
      (toLeBytes (crc16 (unitId :: fc :: body)) ++ suffix) := by
    rw [rtuAdu, withCrc, List.append_assoc]
  have hsize : (rtuAdu unitId (fc :: body)).length = (fc :: body).length + 3 := rtuAdu_length _ _
  rw [decodeStrict_eq_lengthDecode]
  refine lengthDecode_eq_frame.mpr ⟨(fc :: body).length + 3, ?_, ?_, ?_, ?_⟩
  · -- the first bytes settle the length
    have hknown : strictAduLength direction (unitId :: fc :: body) ≠ .ok none := by
      rw [hadu]
      intro h
      cases h
    rw [hsplit, (settled_strictAduLength direction).settled _ _ hknown, hadu]
  · rw [List.length_append, hsize]
    omega
  · rw [List.take_left' hsize, parseStrict, checkAduCrc_eq_ok (verifyCrc_rtuAdu _ _),
      rtuFrame_rtuAdu]
    rfl
  · exact (List.drop_left' hsize).symm

/-- The function of a request with a rule is a named one. -/
theorem RequestPdu.SelfDelimiting.not_custom {r : RequestPdu} (h : r.SelfDelimiting) :
    ∀ b, r.functionCode ≠ .custom b := by
  cases r with
  | custom fc data => exact absurd h id
  | _ => exact nofun

theorem ResponsePdu.SelfDelimiting.not_custom (h : r.SelfDelimiting) :
    ∀ b, r.functionCode ≠ .custom b := by
  cases r with
  | custom fc data => exact absurd h id
  | exception r => exact h
  | _ => exact nofun

theorem decodeStrict_request {r : RequestPdu} (hv : r.Valid) (h253 : r.wire.length ≤ 253)
    (hs : r.SelfDelimiting) (unitId : UInt8) (suffix : List UInt8) :
    decodeStrict .request (rtuAdu unitId r.wire ++ suffix)
      = (.ok (some ⟨.rtu unitId, r.wire⟩), suffix) := by
  refine decodeStrict_rtuAdu ?_ h253 suffix
  rw [standardPduLength_code hs.not_custom]
  exact pduLength_request unitId hv h253 hs

theorem decodeStrict_response (hv : r.Valid) (h253 : r.wire.length ≤ 253) (hs : r.SelfDelimiting)
    (unitId : UInt8) (suffix : List UInt8) :
    decodeStrict .response (rtuAdu unitId r.wire ++ suffix)
      = (.ok (some ⟨.rtu unitId, r.wire⟩), suffix) := by
  by_cases hexc : r.IsException
  · cases r with
    | exception e => exact decodeStrict_rtuAdu (standardPduLength_exception hs _) h253 suffix
    | _ => exact absurd hexc id
  · have hlen := pduLength_response unitId hv h253 hs hexc
    rw [← standardPduLength_code hs.not_custom, ResponsePdu.wire_of_not_isException hexc] at hlen
    rw [ResponsePdu.wire_of_not_isException hexc] at h253 ⊢
    exact decodeStrict_rtuAdu hlen h253 suffix

/-- Strict framing agrees with the PDU codec: what the codec accepts, and the framer has a rule
for, comes out of its ADU under the strict policy, with the bytes behind it left. -/
theorem strict_framing_agrees (unitId : UInt8) (pdu suffix : List UInt8) :
    (∀ r, decodeRequest pdu = .ok r → r.SelfDelimiting →
      ∃ adu, encodeFrame ⟨.rtu unitId, pdu⟩ [] = (.ok (), adu) ∧
        decodeStrict .request (adu ++ suffix) = (.ok (some ⟨.rtu unitId, pdu⟩), suffix)) ∧
    (∀ r, decodeResponse pdu = .ok r → r.SelfDelimiting →
      ∃ adu, encodeFrame ⟨.rtu unitId, pdu⟩ [] = (.ok (), adu) ∧
        decodeStrict .response (adu ++ suffix) = (.ok (some ⟨.rtu unitId, pdu⟩), suffix)) := by
  refine ⟨fun r hr hs => ?_, fun r hr hs => ?_⟩
  · obtain ⟨rfl, hv, h253⟩ := decodeRequest_eq_ok.mp hr
    have h1 : 1 ≤ r.wire.length := Nat.succ_le_succ (Nat.zero_le _)
    exact ⟨rtuAdu unitId r.wire, encodeFrame_eq h1 h253 [],
      decodeStrict_request hv h253 hs unitId suffix⟩
  · obtain ⟨rfl, hv, h253⟩ := decodeResponse_eq_ok.mp hr
    have h1 : 1 ≤ r.wire.length := by cases r <;> exact Nat.succ_le_succ (Nat.zero_le _)
    exact ⟨rtuAdu unitId r.wire, encodeFrame_eq h1 h253 [],
      decodeStrict_response hv h253 hs unitId suffix⟩

/-- An identification response with one object of three bytes, and two bytes behind it. -/
theorem strict_framing_agrees_identification :
    ∃ adu, encodeFrame ⟨.rtu 17, [0x2B, 0x0E, 1, 1, 0, 0, 1, 0, 3, 65, 66, 67]⟩ []
        = (.ok (), adu) ∧
      decodeStrict .response (adu ++ [9, 9])
        = (.ok (some ⟨.rtu 17, [0x2B, 0x0E, 1, 1, 0, 0, 1, 0, 3, 65, 66, 67]⟩), [9, 9]) :=
  (strict_framing_agrees 17 [0x2B, 0x0E, 1, 1, 0, 0, 1, 0, 3, 65, 66, 67] [9, 9]).2
    (.encapsulatedInterface ⟨.readDeviceIdentification, [1, 1, 0, 0, 1, 0, 3, 65, 66, 67]⟩) rfl rfl

end RustyModbus
