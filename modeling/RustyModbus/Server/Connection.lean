import RustyModbus.Frame.Mbap
import RustyModbus.Server.WellFormed

/-!
# The connection loop's last step

What a connection does with the reply of `process_request` before it sends it: an empty
reply ends the connection, an oversize one is replaced by an exception. Both are defences
against bugs in a handler; for requests with a proper function code neither is ever used.
-/

namespace RustyModbus.Server

open Wire Interaction

/-- `bounded_response_pdu`: nothing for an empty reply, an exception for an oversize one. -/
def boundedResponsePdu (responsePdu : List UInt8) :
    Option { pdu : List UInt8 // pdu.length ≤ maxPduSize } :=
  match responsePdu with
  | [] => none
  | functionCode :: data =>
    if h : (functionCode :: data).length ≤ maxPduSize then some ⟨functionCode :: data, h⟩
    else some ⟨[functionCode ||| 0x80, ExceptionCode.serverDeviceFailure.code],
      encodeException_length_le _ _⟩

def responseFrame (txnId : UInt16) (unitId : UnitId) (responsePdu : List UInt8) : Option Frame := do
  let pdu ← boundedResponsePdu responsePdu
  let header := MbapHeader.new txnId unitId pdu.val.length pdu.property
  return { header := .mbap header, pdu := pdu.val }

/-- The body of the connection loop: a request frame addressed to this server is processed
and its reply, if there is one, goes back under the same transaction id. -/
def handleFrame {σ : Type} (store : DataStore σ) (deviceId : DeviceIdentification) (frame : Frame)
    (s : σ) : Option Frame × σ :=
  let requestUnitId := frame.unitId
  let txnId := match frame.header with
    | .mbap header => header.transactionId
    | .rtu _ => 0
  let (reply, s) := (processRequest frame.pdu requestUnitId deviceId).run store s
  (reply.bind (responseFrame txnId requestUnitId), s)

theorem responseFrame_eq {pdu : List UInt8} (hpos : 0 < pdu.length)
    (hlen : pdu.length ≤ maxPduSize) (txnId : UInt16) (unitId : UnitId) :
    responseFrame txnId unitId pdu =
      some { header := .mbap (MbapHeader.new txnId unitId pdu.length hlen), pdu } := by
  cases pdu with
  | nil => cases hpos
  | cons fc data =>
    rw [responseFrame, boundedResponsePdu, dif_pos hlen]
    rfl

/-- A request whose function code is proper, addressed to one unit, stays unanswered only if
the store's diagnostics method asked for it. Otherwise the reply has a length a PDU can
have, carries the function code of the request, is taken by the client's decoder, and is
put into a frame as it is. -/
theorem reply_wellFormed {σ : Type} (store : DataStore σ) (s : σ)
    (deviceId : DeviceIdentification) {pdu : List UInt8} {unitId : UnitId} {fc : UInt8}
    (hunit : unitId ≠ 0) (hfirst : pdu.head? = some fc) (hfc : 1 ≤ fc ∧ fc ≤ 127)
    (txnId : UInt16) :
    match ((processRequest pdu unitId deviceId).run store s).1 with
    | none => ∃ req appended, decodeRequest pdu = .ok (.diagnostics req) ∧
      (store (.appendDiagnosticResponse req.subFunction req.data) s).1 = .ok ⟨none, appended⟩
    | some reply =>
      (1 ≤ reply.length ∧ reply.length ≤ 253) ∧
      (reply.head? = some fc ∨ reply.head? = some (fc ||| 0x80)) ∧
      (∃ response, decodeResponse reply = .ok response) ∧
      ∃ hlen, responseFrame txnId unitId reply =
        some { header := .mbap (MbapHeader.new txnId unitId reply.length hlen), pdu := reply } := by
  have hraw := FunctionCode.fromRaw_of_le hfc
  have hcode : (FunctionCode.fromByte fc).code = fc := FunctionCode.code_fromByte fc
  rcases run_processRequest store s deviceId hunit hfirst with ⟨reply, hreply, h⟩ | ⟨hnone, h⟩
  · rw [hreply]
    have hhead := h.head
    rw [FunctionCode.exceptionCode, hcode] at hhead
    exact ⟨⟨h.length_pos, h.length_le⟩, hhead, h.decodes (by rw [hcode, hraw]), h.length_le,
      responseFrame_eq h.length_pos h.length_le txnId unitId⟩
  · rw [hnone]
    exact h

/-- A store that appends more than it says. -/
def misstatingStore : DataStore Unit := fun op s =>
  match op with
  | .appendServerId => (.ok { result := 3, bytes := [0x01, 0x02, 0x03, 0xFF] }, s)
  | _ => (.error .illegalFunction, s)

theorem reply_wellFormed_misstatingStore :
    ((processRequest [0x11] 1 ⟨"", "", "", none, none, none, none⟩).run misstatingStore ()).1
        = some [0x91, 0x04] ∧
      ∃ response, decodeResponse [0x91, 0x04] = .ok response := by
  have hrun : ((processRequest [0x11] 1 ⟨"", "", "", none, none, none, none⟩).run
      misstatingStore ()).1 = some [0x91, 0x04] := rfl
  have h := reply_wellFormed misstatingStore () ⟨"", "", "", none, none, none, none⟩
    (show (1 : UInt8) ≠ 0 by decide) (show [(0x11 : UInt8)].head? = some 0x11 from rfl)
    (by decide) 0
  rw [hrun] at h
  exact ⟨hrun, h.2.2.1⟩

end RustyModbus.Server
