import RustyModbus.Client.Session
import RustyModbus.Server.Broadcast

/-!
# Broadcasts end to end

A client that is given unit 0 sends its writes once, as it would send them to a unit, and waits for
nothing. The server carries them out without a reply, so the connection stays as quiet as it was.
-/

namespace RustyModbus.EndToEnd

open Wire Interaction Server Client

variable {σ : Type} {store : DataStore σ} {deviceId : DeviceIdentification} {s : Session σ}
  {retry : RetryConfig}

/-- Either no unit is sent anything, or a request to one unit is a broadcast to all. -/
def Broadcasts (store : DataStore σ) (deviceId : DeviceIdentification) (s : Session σ)
    (retry : RetryConfig) (method : UnitId → ClientMethod Value) : Prop :=
  let run unitId := (method unitId).run.run (link (handleFrame store deviceId)) s
  (∃ e, ∀ unitId, run unitId = (.error e, s)) ∨
    ∃ (fc : FunctionCode) (pdu : SendablePdu)
      (check : OwnedResponsePdu → Option (Except ClientError Unit)),
      (∀ unitId ≠ 0, method unitId =
        exchange retry unitId fc pdu.val .mutating check >>= fun _ => pure .done) ∧
      run 0 = (.ok .done, { s with
        server := ((processRequest pdu.val 0 deviceId).run store s.server).2
        sent := s.sent ++ [requestFrame 0 0 pdu] })

/-- A check of the arguments, which does not depend on the unit. -/
theorem Broadcasts.check {α : Type} {x : Except ClientError α} {f : α → UnitId → ClientMethod Unit}
    {k : Unit → ClientMethod Value}
    (h : ∀ a, Broadcasts store deviceId s retry fun unitId => f a unitId >>= k) :
    Broadcasts store deviceId s retry fun unitId => (orReturn x >>= fun a => f a unitId) >>= k := by
  cases x with
  | error e => exact .inl ⟨e, fun _ => rfl⟩
  | ok a => exact h a

theorem Broadcasts.write {fc : FunctionCode} {pdu : List UInt8}
    {check : OwnedResponsePdu → Option (Except ClientError Unit)} :
    Broadcasts store deviceId s retry fun unitId =>
      Client.write retry fc unitId pdu check >>= fun _ => pure .done := by
  simp only [Broadcasts, Client.write]
  cases hpdu : checkedPduLength pdu with
  | error e =>
    refine .inl ⟨e, fun unitId => ?_⟩
    split
    · rw [sendBroadcast, hpdu]
      rfl
    · rw [exchange, sendWithRetry, hpdu]
      rfl
  | ok sendable =>
    have hval : sendable.val = pdu := by grind [checkedPduLength]
    have hframe : handleFrame store deviceId (requestFrame 0 0 sendable) s.server
        = (none, ((processRequest sendable.val 0 deviceId).run store s.server).2) :=
      congrArg (Option.bind · _, _)
        ((always_processRequest_broadcast sendable.val deviceId).run store s.server)
    refine .inr ⟨fc, sendable, check, fun unitId hunit => by rw [if_neg hunit, hval], ?_⟩
    rw [if_pos trivial, sendBroadcast, hpdu]
    show (Except.ok Value.done, (transmit (handleFrame store deviceId) (requestFrame 0 0 sendable)
      s).2) = _
    rw [transmit, hframe]
    rfl

/-- Reads are not broadcast. -/
theorem broadcast_arrives (store : DataStore σ) (deviceId : DeviceIdentification) (s : Session σ)
    (retry : RetryConfig) (c : ClientCall) :
    match c with
    | .writeSingleCoil .. | .writeSingleRegister .. | .writeMultipleCoils ..
    | .writeMultipleRegisters .. | .maskWriteRegister .. =>
      Broadcasts store deviceId s retry (c.method retry)
    | _ => (c.method retry 0).run.run (link (handleFrame store deviceId)) s
      = (.error .broadcastReadNotAllowed, s) := by
  cases c with
  | writeSingleCoil | writeSingleRegister | maskWriteRegister => exact .check fun _ => .write
  | writeMultipleCoils | writeMultipleRegisters =>
    exact .check fun _ => .check fun _ => .check fun _ => .write
  | _ => rfl

end RustyModbus.EndToEnd
