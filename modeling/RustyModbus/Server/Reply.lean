import RustyModbus.Server.Store

/-!
# Replies

How a server puts its answers on the wire, and what it means for bytes to be an answer to a
function code: an exception response for it, or a response of its type that the decoder of
the other side takes (`IsReply`).
-/

namespace RustyModbus.Server

open Wire Encoder

def encodeException (fcWithFlag : UInt8) (ec : ExceptionCode) : List UInt8 :=
  [fcWithFlag, ec.code]

theorem encodeException_length_le (b : UInt8) (ec : ExceptionCode) :
    (encodeException b ec).length ≤ maxPduSize :=
  show 2 ≤ 253 by decide

/-- `encode_response`: encode into a buffer of the announced size; if that fails, which
would be a bug, answer `ServerDeviceFailure`. -/
def encodeResponse (fc : FunctionCode) (encodedLen : Nat)
    (encodeInto : Encoder EncodeError Nat) : List UInt8 :=
  match encodeInto.run (List.replicate encodedLen 0) with
  | .ok written buf =>
    if written = buf.length then buf else encodeException fc.exceptionCode .serverDeviceFailure
  | .error _ _ => encodeException fc.exceptionCode .serverDeviceFailure

theorem encodeResponse_sendable {fc : FunctionCode} {len : Nat} {m : Encoder EncodeError Nat}
    {P : Prop} {wire : List UInt8} (hm : Emits m len P wire) (hP : P) :
    encodeResponse fc len m = wire := by
  have hrun : m.run (List.replicate len 0) = .ok len (wire ++ (List.replicate len 0).drop len) :=
    hm.written _ (Nat.le_of_eq List.length_replicate.symm) hP
  rw [List.drop_of_length_le (Nat.le_of_eq List.length_replicate), List.append_nil] at hrun
  rw [encodeResponse, hrun]
  exact if_pos (hm.length hP).symm

theorem encodeResponse_refused {fc : FunctionCode} {len : Nat} {m : Encoder EncodeError Nat}
    {P : Prop} {wire : List UInt8} (hm : Emits m len P wire) (hP : ¬P) :
    encodeResponse fc len m = encodeException fc.exceptionCode .serverDeviceFailure := by
  obtain ⟨e, he⟩ := hm.refused (List.replicate len 0) hP
  have hrun : m.run (List.replicate len 0) = .error e (List.replicate len 0) := he
  rw [encodeResponse, hrun]

/-- The bytes answer a request with function code `fc`. -/
inductive IsReply (fc : FunctionCode) : List UInt8 → Prop
  | exception (ec : ExceptionCode) : IsReply fc (encodeException fc.exceptionCode ec)
  | normal {pdu : List UInt8} (r : ResponsePdu) (hexc : ¬r.IsException)
    (hfc : r.functionCode = fc) (hwire : pdu = r.functionCode.code :: r.body) (hv : r.Valid)
    (hlen : pdu.length ≤ maxPduSize) : IsReply fc pdu

namespace IsReply

variable {fc : FunctionCode} {pdu : List UInt8}

theorem length_pos (h : IsReply fc pdu) : 0 < pdu.length := by
  cases h with
  | exception ec => exact Nat.succ_pos _
  | normal r hexc hfc hwire hv hlen =>
    rw [hwire]
    exact Nat.succ_pos _

theorem length_le (h : IsReply fc pdu) : pdu.length ≤ maxPduSize := by
  cases h with
  | exception ec => exact encodeException_length_le _ _
  | normal r hexc hfc hwire hv hlen => exact hlen

/-- The first byte is the function code, with the flag set in an exception. -/
theorem head (h : IsReply fc pdu) :
    pdu.head? = some fc.code ∨ pdu.head? = some fc.exceptionCode := by
  cases h with
  | exception ec => exact Or.inr rfl
  | normal r hexc hfc hwire hv hlen =>
    rw [hwire, hfc]
    exact Or.inl rfl

/-- The client's decoder takes it. -/
theorem decodes (hfc : FunctionCode.fromRaw fc.code = some fc) (h : IsReply fc pdu) :
    ∃ r, decodeResponse pdu = .ok r := by
  cases h with
  | exception ec =>
    refine ⟨.exception { functionCode := fc, exceptionCode := ExceptionCode.fromRaw ec.code },
      decodeResponse_eq_ok.mpr ⟨?_, ⟨hfc, ?_⟩, encodeException_length_le _ _⟩⟩
    · rw [encodeException, ResponsePdu.wire, ExceptionResponse.wire, ExceptionCode.code_fromRaw]
    · show ExceptionCode.fromRaw (ExceptionCode.fromRaw ec.code).code = _
      rw [ExceptionCode.code_fromRaw]
  | normal r hexc hfc hwire hv hlen =>
    exact ⟨r, decodeResponse_eq_ok.mpr
      ⟨by rw [hwire, ResponsePdu.wire_of_not_isException hexc], hv, hlen⟩⟩

/-- An encoded response is a reply of its type, or the exception that stands in for it. -/
theorem encodeResponse {len : Nat} {m : Encoder EncodeError Nat} {P : Prop} (r : ResponsePdu)
    (hm : Emits m len P (r.functionCode.code :: r.body)) (hexc : ¬r.IsException)
    (hok : P → r.Valid ∧ (r.functionCode.code :: r.body).length ≤ maxPduSize) :
    IsReply r.functionCode (encodeResponse r.functionCode len m) := by
  by_cases hP : P
  · rw [encodeResponse_sendable hm hP]
    exact normal r hexc rfl rfl (hok hP).1 (hok hP).2
  · rw [encodeResponse_refused hm hP]
    exact exception _

end IsReply

end RustyModbus.Server
