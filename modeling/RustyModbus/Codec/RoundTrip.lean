import RustyModbus.Codec.Pdu

/-!
# Encoding against decoding

The types with an `Encode` implementation are the payloads of the PDU variants (all
requests that have fields, all responses but the custom ones) and the typed
device-identification request. `Message` is the sum of them.

`Message.emits` collects the encoder lemmas: an encoder writes the wire form exactly for
the `Encodable` values that fit a PDU. Comparing `Encodable` with what the decoders
demand (`Accepted`) settles all three questions about a pair of an encoder and a decoder:
decode after encode, encode after decode, and whether both accept the same values. The two
differ in three places only. A multiple-write response is decoded with any quantity; an
encapsulated-interface message is encoded with any payload; an exception response is
encoded whatever function and exception code it holds.
-/

namespace RustyModbus

open Wire Encoder

/-- The `Encode` trait at one value. -/
structure Encode where
  encodedLen : Nat
  encodeInto : Encoder EncodeError Nat

/-- The `Encode` implementation of a request variant; `none` for the variants without one. -/
def RequestPdu.encode? : RequestPdu → Option Encode
  | readCoils r => some ⟨r.encodedLen, ReadCoilsRequest.encodeInto r⟩
  | readDiscreteInputs r => some ⟨r.encodedLen, ReadDiscreteInputsRequest.encodeInto r⟩
  | readHoldingRegisters r => some ⟨r.encodedLen, ReadHoldingRegistersRequest.encodeInto r⟩
  | readInputRegisters r => some ⟨r.encodedLen, ReadInputRegistersRequest.encodeInto r⟩
  | writeSingleCoil r => some ⟨r.encodedLen, r.encodeInto⟩
  | writeSingleRegister r => some ⟨r.encodedLen, r.encodeInto⟩
  | diagnostics r => some ⟨r.encodedLen, r.encodeInto⟩
  | writeMultipleCoils r => some ⟨r.encodedLen, WriteMultipleCoilsRequest.encodeInto r⟩
  | writeMultipleRegisters r => some ⟨r.encodedLen, WriteMultipleRegistersRequest.encodeInto r⟩
  | readFileRecord r =>
    some ⟨ReadFileRecordRequest.encodedLen r, ReadFileRecordRequest.encodeInto r⟩
  | writeFileRecord r =>
    some ⟨WriteFileRecordRequest.encodedLen r, WriteFileRecordRequest.encodeInto r⟩
  | maskWriteRegister r => some ⟨r.encodedLen, r.encodeInto⟩
  | readWriteMultipleRegisters r => some ⟨r.encodedLen, r.encodeInto⟩
  | readFifoQueue r => some ⟨r.encodedLen, r.encodeInto⟩
  | encapsulatedInterface r => some ⟨r.encodedLen, r.encodeInto⟩
  | readExceptionStatus | getCommEventCounter | getCommEventLog | reportServerId => none
  | custom _ _ => none

def ResponsePdu.encode? : ResponsePdu → Option Encode
  | readCoils r => some ⟨r.encodedLen, ReadCoilsResponse.encodeInto r⟩
  | readDiscreteInputs r => some ⟨r.encodedLen, ReadDiscreteInputsResponse.encodeInto r⟩
  | readHoldingRegisters r => some ⟨r.encodedLen, ReadHoldingRegistersResponse.encodeInto r⟩
  | readInputRegisters r => some ⟨r.encodedLen, ReadInputRegistersResponse.encodeInto r⟩
  | writeSingleCoil r => some ⟨r.encodedLen, r.encodeInto⟩
  | writeSingleRegister r => some ⟨r.encodedLen, r.encodeInto⟩
  | readExceptionStatus r => some ⟨r.encodedLen, r.encodeInto⟩
  | diagnostics r => some ⟨r.encodedLen, r.encodeInto⟩
  | getCommEventCounter r => some ⟨r.encodedLen, r.encodeInto⟩
  | getCommEventLog r => some ⟨r.encodedLen, r.encodeInto⟩
  | writeMultipleCoils r => some ⟨r.encodedLen, WriteMultipleCoilsResponse.encodeInto r⟩
  | writeMultipleRegisters r =>
    some ⟨r.encodedLen, WriteMultipleRegistersResponse.encodeInto r⟩
  | reportServerId r => some ⟨r.encodedLen, ReportServerIdResponse.encodeInto r⟩
  | readFileRecord r => some ⟨r.encodedLen, ReadFileRecordResponse.encodeInto r⟩
  | writeFileRecord r => some ⟨r.encodedLen, WriteFileRecordResponse.encodeInto r⟩
  | maskWriteRegister r => some ⟨r.encodedLen, r.encodeInto⟩
  | readWriteMultipleRegisters r =>
    some ⟨r.encodedLen, ReadWriteMultipleRegistersResponse.encodeInto r⟩
  | readFifoQueue r => some ⟨r.encodedLen, r.encodeInto⟩
  | encapsulatedInterface r => some ⟨r.encodedLen, r.encodeInto⟩
  | exception r => some ⟨r.encodedLen, r.encodeInto⟩
  | custom _ _ => none

/-- A value of one of the `Encode` types, with its direction. -/
inductive Message
  | request (r : RequestPdu)
  | response (r : ResponsePdu)
  | readDeviceIdentification (r : ReadDeviceIdentificationRequest)
deriving DecidableEq, Repr

namespace Message

def encode? : Message → Option Encode
  | request r => r.encode?
  | response r => r.encode?
  | readDeviceIdentification r => some ⟨r.encodedLen, r.encodeInto⟩

/-- The bytes the format prescribes. -/
def wire : Message → List UInt8
  | request r => r.wire
  | response r => r.wire
  | readDeviceIdentification r => (RequestPdu.encapsulatedInterface r.toEncapsulated).wire

/-- Decoding `bytes` in the direction of the message gives the message; the typed
device-identification request comes back as the encapsulated-interface request. -/
def DecodesFrom (bytes : List UInt8) : Message → Prop
  | request r => decodeRequest bytes = .ok r
  | response r => decodeResponse bytes = .ok r
  | readDeviceIdentification r =>
    decodeRequest bytes = .ok (.encapsulatedInterface r.toEncapsulated)

/-- What the decoder demands of the fields. -/
def Accepted : Message → Prop
  | request r => r.Valid
  | response r => r.Valid
  | readDeviceIdentification _ => True

/-- What the encoder demands of the fields. -/
def Encodable : Message → Prop
  | request (.encapsulatedInterface _) => True
  | request r => r.Valid
  | response (.writeMultipleCoils r) => InRange r.quantity maxWriteCoils
  | response (.writeMultipleRegisters r) => InRange r.quantity maxWriteRegisters
  | response (.encapsulatedInterface _) => True
  | response (.exception _) => True
  | response r => r.Valid
  | readDeviceIdentification _ => True

/-- A device-identification payload or an exception response that the decoder of its
direction does not return. -/
def Unreadable : Message → Prop
  | request (.encapsulatedInterface r) =>
    r.meiType = .readDeviceIdentification ∧
      ∃ e, EncapsulatedInterfaceRequest.decode r.body = .error e
  | response (.encapsulatedInterface r) =>
    r.meiType = .readDeviceIdentification ∧
      ∃ e, EncapsulatedInterfaceResponse.decode r.body = .error e
  | response (.exception r) => ¬r.Canonical
  | _ => False

/-- A multiple-write response with a quantity no such write can have. -/
def Unsendable : Message → Prop
  | response (.writeMultipleCoils r) => r.quantity = 0 ∨ r.quantity > maxWriteCoils
  | response (.writeMultipleRegisters r) => r.quantity = 0 ∨ r.quantity > maxWriteRegisters
  | _ => False

/-! ## The encoders, collected -/

variable {e : Encode}

theorem emits_request {r : RequestPdu} (he : r.encode? = some e) :
    Emits e.encodeInto e.encodedLen ((request r).Encodable ∧ r.wire.length ≤ maxPduSize)
      r.wire := by
  cases r with cases he
  | readCoils r | readDiscreteInputs r | readHoldingRegisters r | readInputRegisters r =>
    exact (AddressRange.encodeInto_emits _ _ r).and_of (show 5 ≤ maxPduSize by decide)
  | writeSingleCoil r | writeSingleRegister r =>
    exact r.encodeInto_emits.and_of (show 5 ≤ maxPduSize by decide)
  | diagnostics r | readWriteMultipleRegisters r => exact r.encodeInto_emits
  | writeMultipleCoils r | writeMultipleRegisters r =>
    exact WriteMultipleRequest.encodeInto_emits _ _ _ r
  | readFileRecord r =>
    exact CountedData.encodeFileRecord_emits (fun _ => rfl)
      validateReadFileSubRequestsEncode_eq_ok
  | writeFileRecord r =>
    exact CountedData.encodeFileRecord_emits (fun _ => rfl)
      validateWriteFileSubRequestsEncode_eq_ok
  | maskWriteRegister r => exact r.encodeInto_emits.and_of (show 7 ≤ maxPduSize by decide)
  | readFifoQueue r => exact r.encodeInto_emits.and_of (show 3 ≤ maxPduSize by decide)
  | encapsulatedInterface r => exact r.encodeInto_emits.congr (and_iff_right trivial).symm

theorem emits_response {r : ResponsePdu} (he : r.encode? = some e) :
    Emits e.encodeInto e.encodedLen ((response r).Encodable ∧ r.wire.length ≤ maxPduSize)
      r.wire := by
  cases r with cases he
  | readCoils r | readDiscreteInputs r | reportServerId r =>
    exact CountedData.encodePlain_emits _ r
  | readHoldingRegisters r | readInputRegisters r | readWriteMultipleRegisters r =>
    exact CountedData.encodeRegisters_emits _ r
  | writeSingleCoil r | writeSingleRegister r | getCommEventCounter r =>
    exact r.encodeInto_emits.and_of (show 5 ≤ maxPduSize by decide)
  | readExceptionStatus r | exception r =>
    exact r.encodeInto_emits.and_of (show 2 ≤ maxPduSize by decide)
  | diagnostics r | getCommEventLog r | readFifoQueue r => exact r.encodeInto_emits
  | writeMultipleCoils r | writeMultipleRegisters r =>
    exact (AddressRange.encodeInto_emits _ _ r).and_of (show 5 ≤ maxPduSize by decide)
  | readFileRecord r =>
    exact CountedData.encodeFileRecord_emits (fun h => by rw [CountedData.encodedLen, h])
      validateReadFileResponsePayloadEncode_eq_ok
  | writeFileRecord r =>
    exact CountedData.encodeFileRecord_emits (fun h => by rw [CountedData.encodedLen, h])
      validateWriteFilePayloadEncode_eq_ok
  | maskWriteRegister r => exact r.encodeInto_emits.and_of (show 7 ≤ maxPduSize by decide)
  | encapsulatedInterface r => exact r.encodeInto_emits.congr (and_iff_right trivial).symm

variable {m : Message}

/-- An encoder writes the wire form exactly for the values it takes that fit a PDU; in all
other cases it fails and the buffer is as it was. -/
theorem emits (he : m.encode? = some e) :
    Emits e.encodeInto e.encodedLen (m.Encodable ∧ m.wire.length ≤ maxPduSize) m.wire := by
  cases m with
  | request r => exact emits_request he
  | response r => exact emits_response he
  | readDeviceIdentification r =>
    obtain rfl := Option.some.inj he
    exact r.encodeInto_emits.and_of (show 4 ≤ maxPduSize by decide)

/-! ## Encoders against decoders -/

/-- Decoding in the direction of a message inverts its wire form on the accepted values. -/
theorem decodesFrom_iff {bytes : List UInt8} :
    m.DecodesFrom bytes ↔ bytes = m.wire ∧ m.Accepted ∧ bytes.length ≤ maxPduSize := by
  cases m with
  | request r => exact decodeRequest_eq_ok
  | response r => exact decodeResponse_eq_ok
  | readDeviceIdentification r =>
    refine decodeRequest_eq_ok.trans (and_congr_right fun _ => and_congr_left fun _ => ?_)
    refine ⟨fun _ => trivial, fun _ _ => ?_⟩
    have hcode := DeviceIdCode.fromRaw_eq_some.mpr (rfl : r.deviceIdCode.code = _)
    simp only [checkIdentificationRequest, check_bind_eq_ok, DecodeError.checkExactLen_eq_ok]
    exact ⟨rfl, okOr_bind_eq_ok.mpr ⟨_, hcode, rfl⟩⟩

/-- The values an encoder takes and its decoder refuses. -/
theorem encodable_of_unreadable (h : m.Unreadable) : m.Encodable ∧ ¬m.Accepted := by
  match m, h with
  | request (.encapsulatedInterface r), h =>
    exact ⟨trivial, EncapsulatedInterface.decode_body_eq_error.mp h⟩
  | response (.encapsulatedInterface r), h =>
    exact ⟨trivial, EncapsulatedInterface.decode_body_eq_error.mp h⟩
  | response (.exception r), h => exact ⟨trivial, h⟩

/-- The values a decoder takes and its encoder refuses. -/
theorem accepted_of_unsendable (h : m.Unsendable) : ¬m.Encodable ∧ m.Accepted := by
  match m, h with
  | response (.writeMultipleCoils r), h => exact ⟨fun hq => hq h, trivial⟩
  | response (.writeMultipleRegisters r), h => exact ⟨fun hq => hq h, trivial⟩

/-- On all other values the two agree. -/
theorem encodable_iff_accepted (hr : ¬m.Unreadable) (hs : ¬m.Unsendable) :
    m.Encodable ↔ m.Accepted := by
  cases m with
  | readDeviceIdentification r => exact Iff.rfl
  | request r =>
    cases r with
    | encapsulatedInterface r =>
      refine ⟨fun _ => Classical.not_not.mp fun h => hr ?_, fun _ => trivial⟩
      exact EncapsulatedInterface.decode_body_eq_error.mpr h
    | _ => exact Iff.rfl
  | response r =>
    cases r with
    | writeMultipleCoils r | writeMultipleRegisters r =>
      exact ⟨fun _ => trivial, fun _ => hs⟩
    | encapsulatedInterface r =>
      refine ⟨fun _ => Classical.not_not.mp fun h => hr ?_, fun _ => trivial⟩
      exact EncapsulatedInterface.decode_body_eq_error.mpr h
    | exception r => exact ⟨fun _ => Classical.not_not.mp hr, fun _ => trivial⟩
    | _ => exact Iff.rfl

/-- An encoder call ends in one of two ways. -/
theorem encodeInto_cases (he : m.encode? = some e) (buf : List UInt8) :
    (∃ err, e.encodeInto buf = .error err buf) ∨
      (m.Encodable ∧ m.wire.length = e.encodedLen ∧ e.encodedLen ≤ maxPduSize ∧
        e.encodedLen ≤ buf.length ∧
        e.encodeInto buf = .ok e.encodedLen (m.wire ++ buf.drop e.encodedLen)) := by
  have hem := emits he
  by_cases hsend : m.Encodable ∧ m.wire.length ≤ maxPduSize
  · by_cases hbuf : e.encodedLen ≤ buf.length
    · have hlen := hem.length hsend
      exact Or.inr ⟨hsend.1, hlen, hlen ▸ hsend.2, hbuf, hem.written buf hbuf hsend⟩
    · exact Or.inl (hem.tooSmall buf (by omega))
  · exact Or.inl (hem.refused buf hsend)

/-- Encode after decode. A decoded value is encoded back to the bytes it came from, or
refused; it is refused exactly if it is a multiple-write response whose quantity is zero or
above the write limit. -/
theorem reencode_decoded {m : Message} {e : Encode} (he : m.encode? = some e)
    (bytes buf : List UInt8) (hdec : m.DecodesFrom bytes) (hbuf : bytes.length ≤ buf.length) :
    (e.encodeInto buf = .ok bytes.length (bytes ++ buf.drop bytes.length) ∨
      ∃ err, e.encodeInto buf = .error err buf) ∧
    ((∃ err buf', e.encodeInto buf = .error err buf') ↔ m.Unsendable) := by
  obtain ⟨rfl, hacc, hmax⟩ := decodesFrom_iff.mp hdec
  have hem := emits he
  by_cases hs : m.Unsendable
  · obtain ⟨err, herr⟩ := hem.refused buf fun h => (accepted_of_unsendable hs).1 h.1
    exact ⟨Or.inr ⟨err, herr⟩, fun _ => hs, fun _ => ⟨err, buf, herr⟩⟩
  · have hr : ¬m.Unreadable := fun h => (encodable_of_unreadable h).2 hacc
    have hsend := And.intro ((encodable_iff_accepted hr hs).mpr hacc) hmax
    have hwritten := hem.written buf (by rw [← hem.length hsend]; exact hbuf) hsend
    rw [← hem.length hsend] at hwritten
    refine ⟨Or.inl hwritten, fun ⟨err, buf', herr⟩ => ?_, fun h => absurd h hs⟩
    rw [hwritten] at herr
    cases herr

/-- Coils 16 to 18 are asked for, and the request is written back over a larger buffer. -/
theorem reencode_decoded_readCoils :
    ((AddressRange.encodeInto .readCoils 2000 ⟨16, 3⟩ (List.replicate 6 0)
        = .ok 5 [0x01, 0x00, 0x10, 0x00, 0x03, 0x00] ∨
      ∃ err, AddressRange.encodeInto .readCoils 2000 ⟨16, 3⟩ (List.replicate 6 0)
        = .error err (List.replicate 6 0)) ∧
    ((∃ err buf', AddressRange.encodeInto .readCoils 2000 ⟨16, 3⟩ (List.replicate 6 0)
        = .error err buf') ↔ (request (.readCoils ⟨16, 3⟩)).Unsendable)) :=
  reencode_decoded (m := request (.readCoils ⟨16, 3⟩)) rfl [0x01, 0x00, 0x10, 0x00, 0x03]
    (List.replicate 6 0) rfl (by decide)

/-- Decode after encode. A failing encoder leaves the buffer as it was. A successful one
reports its encoded length, which fits a PDU, changes nothing behind it, and the bytes it
wrote are decoded to the value it was given, unless the value is one no decoder returns. -/
theorem decode_encoded {m : Message} {e : Encode} (he : m.encode? = some e)
    (buf : List UInt8) :
    (∀ err buf', e.encodeInto buf = .error err buf' → buf' = buf) ∧
    (∀ len buf', e.encodeInto buf = .ok len buf' →
      len = e.encodedLen ∧ len ≤ 253 ∧ buf'.length = buf.length ∧
        buf'.drop len = buf.drop len ∧ (¬m.Unreadable → m.DecodesFrom (buf'.take len))) := by
  rcases encodeInto_cases he buf with ⟨err, herr⟩ | ⟨henc, hlen, hmax, hbuf, hok⟩
  · rw [herr]
    exact ⟨fun _ _ h => (EStateM.Result.error.inj h).2.symm, nofun⟩
  · rw [hok]
    refine ⟨nofun, fun len buf' h => ?_⟩
    obtain ⟨rfl, rfl⟩ := EStateM.Result.ok.inj h
    refine ⟨rfl, hmax, ?_, List.drop_left' hlen, fun hr => ?_⟩
    · rw [List.length_append, List.length_drop, hlen]
      omega
    · have hs : ¬m.Unsendable := fun h => (accepted_of_unsendable h).1 henc
      rw [List.take_left' hlen]
      exact decodesFrom_iff.mpr ⟨rfl, (encodable_iff_accepted hr hs).mp henc, hlen ▸ hmax⟩

theorem decode_encoded_readFifoQueue :
    (∀ err buf', ReadFifoQueueRequest.encodeInto ⟨7⟩ (List.replicate 4 0) = .error err buf' →
      buf' = List.replicate 4 0) ∧
    (∀ len buf', ReadFifoQueueRequest.encodeInto ⟨7⟩ (List.replicate 4 0) = .ok len buf' →
      len = 3 ∧ len ≤ 253 ∧ buf'.length = 4 ∧ buf'.drop len = (List.replicate 4 0).drop len ∧
        (¬(request (.readFifoQueue ⟨7⟩)).Unreadable →
          decodeRequest (buf'.take len) = .ok (.readFifoQueue ⟨7⟩))) :=
  decode_encoded (m := request (.readFifoQueue ⟨7⟩)) rfl (List.replicate 4 0)

/-- Encoder and decoder of a type accept the same values, with two exceptions that go in
opposite directions: a multiple-write response with an impossible quantity is read but not
written, and a malformed device-identification payload or a non-canonical exception response
is written but not read back. -/
theorem encoder_decoder_agree {m : Message} {e : Encode} (he : m.encode? = some e)
    (buf : List UInt8) (hwire : m.wire.length ≤ 253) (hbuf : e.encodedLen ≤ buf.length) :
    (¬m.Unsendable → ¬m.Unreadable →
      ((∃ len buf', e.encodeInto buf = .ok len buf') ↔ m.DecodesFrom m.wire)) ∧
    (m.Unsendable → (∃ err, e.encodeInto buf = .error err buf) ∧ m.DecodesFrom m.wire) ∧
    (m.Unreadable → (∃ len buf', e.encodeInto buf = .ok len buf') ∧ ¬m.DecodesFrom m.wire) := by
  have hem := emits he
  have hdec : m.DecodesFrom m.wire ↔ m.Accepted := by
    rw [decodesFrom_iff]
    exact ⟨fun h => h.2.1, fun h => ⟨rfl, h, hwire⟩⟩
  have henc : (∃ len buf', e.encodeInto buf = .ok len buf') ↔ m.Encodable := by
    refine ⟨fun ⟨len, buf', hok⟩ => Classical.byContradiction fun hno => ?_, fun h =>
      ⟨_, _, hem.written buf hbuf ⟨h, hwire⟩⟩⟩
    obtain ⟨err, herr⟩ := hem.refused buf fun h => hno h.1
    rw [herr] at hok
    cases hok
  rw [hdec, henc]
  refine ⟨fun hs hr => encodable_iff_accepted hr hs, fun hs => ?_, encodable_of_unreadable⟩
  have h := accepted_of_unsendable hs
  exact ⟨hem.refused buf fun hsend => h.1 hsend.1, h.2⟩

theorem encoder_decoder_agree_maskWriteRegister :
    (∃ len buf', MaskWriteRegister.encodeInto ⟨4, 0xF2, 0x25⟩ (List.replicate 7 0)
      = .ok len buf') ↔
    decodeRequest [0x16, 0x00, 0x04, 0x00, 0xF2, 0x00, 0x25]
      = .ok (.maskWriteRegister ⟨4, 0xF2, 0x25⟩) :=
  (encoder_decoder_agree (m := request (.maskWriteRegister ⟨4, 0xF2, 0x25⟩))
    rfl (List.replicate 7 0) (by decide) (by decide)).1 id id

/-- The three kinds of disagreement, at their smallest: the response to a write of no coils
is read but not written; an empty device-identification request and an exception for function
code 0 are written but not read. -/
theorem encoder_decoder_disagree :
    (WriteMultipleCoilsResponse.encodeInto ⟨0, 0⟩ (List.replicate 5 0)
        = .error (.quantityOutOfRange 0) (List.replicate 5 0) ∧
      decodeResponse [0x0F, 0, 0, 0, 0] = .ok (.writeMultipleCoils ⟨0, 0⟩)) ∧
    (EncapsulatedInterface.encodeInto ⟨.readDeviceIdentification, []⟩ [0, 0]
        = .ok 2 [0x2B, 0x0E] ∧
      decodeRequest [0x2B, 0x0E] = .error (.truncated 2 0)) ∧
    (ExceptionResponse.encodeInto ⟨.custom 0, .illegalFunction⟩ [0, 0] = .ok 2 [0x80, 0x01] ∧
      decodeResponse [0x80, 0x01] = .error (.unknownFunctionCode 0)) := by
  exact ⟨⟨rfl, rfl⟩, ⟨rfl, rfl⟩, rfl, rfl⟩

end Message

end RustyModbus
