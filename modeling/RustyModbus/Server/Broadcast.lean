import RustyModbus.Server.Atomicity

/-!
# Broadcasts

A request to unit 0 goes to every server on the line. It is never answered, whatever comes
of it, and only the plain writes are carried out. Each arm of the dispatcher tests for a
broadcast at its own point: a question (`ask`) before the store is called, a command
(`command`) after it. Diagnostics is a question that is asked all the same.
-/

namespace RustyModbus.Server

open Wire Interaction

section Dispatch

variable {σ : Type} (store : DataStore σ) (s : σ)

theorem run_command_broadcast (fc : FunctionCode) (apply : Handler Unit) (response : List UInt8) :
    (command true fc apply response).run store s = (none, (apply.run.run store s).2) := by
  rw [command, Program.run_bind]
  rfl

/-- Answered or not, a command does the same. -/
theorem run_command_state {isBroadcast : Bool} (fc : FunctionCode) (apply : Handler Unit)
    (response : List UInt8) :
    ((command isBroadcast fc apply response).run store s).2 = (apply.run.run store s).2 := by
  cases isBroadcast with
  | true => rw [run_command_broadcast]
  | false =>
    rw [run_command]
    cases apply.run.run store s with
    | mk r t => cases r <;> rfl

end Dispatch

theorem always_command_broadcast (fc : FunctionCode) (apply : Handler Unit)
    (response : List UInt8) : (command true fc apply response).Always (· = none) :=
  Program.always_bind.mpr ((Fallible.Returns.trivial apply).mono fun _ _ => rfl)

/-- A broadcast is never answered, whatever the store replies. -/
theorem always_processRequest_broadcast (pdu : List UInt8) (deviceId : DeviceIdentification) :
    (processRequest pdu 0 deviceId).Always (· = none) := by
  rw [processRequest]
  cases decodeRequest pdu with
  | error e => rfl
  | ok request =>
    cases request with
    | writeSingleRegister | writeMultipleRegisters | writeSingleCoil | writeMultipleCoils
    | maskWriteRegister | writeFileRecord => exact always_command_broadcast _ _ _
    | diagnostics req =>
      obtain ⟨k, hk, hanswer⟩ := exists_handleDiagnostics req.subFunction req.data
      show (handleDiagnostics req.subFunction req.data >>= fun _ => pure none).Always _
      rw [hk]
      intro answer
      obtain ⟨r, hr, -⟩ := hanswer answer
      show (k answer >>= fun _ => pure none).Always _
      rw [hr]
      rfl
    | _ => rfl

/-- The function codes that a broadcast carries out. -/
def broadcastWrites : List UInt8 := [0x05, 0x06, 0x0F, 0x10, 0x15, 0x16]

variable {config : StoreConfig}

/-- A broadcast is silent; it has the effect of the request to one unit if its function code
is one of those, and none otherwise. -/
def BroadcastLaw (s : InMemoryStore config) (code : Option UInt8)
    (broadcast answered : StoreProgram (Option (List UInt8))) : Prop :=
  broadcast.run (memoryStore config) s =
    (none, if ∃ fc ∈ code, fc ∈ broadcastWrites then (answered.run (memoryStore config) s).2 else s)

variable {s : InMemoryStore config} {code : UInt8}

theorem BroadcastLaw.command {fc : FunctionCode} {apply : Handler Unit} {response : List UInt8}
    (h : code ∈ broadcastWrites) :
    BroadcastLaw s (some code) (command true fc apply response) (command false fc apply response) := by
  rw [BroadcastLaw, run_command_broadcast, if_pos ⟨code, rfl, h⟩, run_command_state]

theorem BroadcastLaw.unchanged {broadcast answered : StoreProgram (Option (List UInt8))}
    (h : code ∉ broadcastWrites) (hrun : broadcast.run (memoryStore config) s = (none, s)) :
    BroadcastLaw s (some code) broadcast answered := by
  rw [BroadcastLaw, hrun, if_neg]
  rintro ⟨fc, hfc, hmem⟩
  cases hfc
  exact h hmem

theorem BroadcastLaw.ask {response : StoreProgram (List UInt8)}
    {answered : StoreProgram (Option (List UInt8))} (h : code ∉ broadcastWrites) :
    BroadcastLaw s (some code) (ask true response) answered :=
  .unchanged h rfl

/-- The store is asked for diagnostics also by a broadcast, but that changes nothing. -/
theorem run_diagnostics_broadcast (sub : DiagnosticSubFunction) (data : List UInt8)
    (s : InMemoryStore config) :
    (do
      let _ ← handleDiagnostics sub data
      return none : StoreProgram (Option (List UInt8))).run (memoryStore config) s = (none, s) := by
  rw [Program.run_bind, run_handleDiagnostics_snd]
  rfl

/-- A code that is not standard is none of these. -/
theorem not_mem_broadcastWrites_of_custom (h : FunctionCode.fromRaw code = some (.custom code)) :
    code ∉ broadcastWrites := by
  intro hmem
  simp only [broadcastWrites, List.mem_cons, List.not_mem_nil, or_false] at hmem
  rcases hmem with rfl | rfl | rfl | rfl | rfl | rfl <;> exact absurd h (by decide)

theorem broadcastLaw_dispatch {request : RequestPdu} (hv : request.Valid) (pdu : List UInt8)
    (unitId : UnitId) (deviceId : DeviceIdentification) (s : InMemoryStore config) :
    BroadcastLaw s (some request.functionCode.code) (dispatchRequest request pdu 0 true deviceId)
      (dispatchRequest request pdu unitId false deviceId) := by
  cases request with
  | writeSingleRegister | writeMultipleRegisters | writeSingleCoil | writeMultipleCoils
  | maskWriteRegister | writeFileRecord =>
    exact .command (by simp [RequestPdu.functionCode, FunctionCode.code, broadcastWrites])
  | diagnostics req =>
    exact .unchanged (by simp [RequestPdu.functionCode, FunctionCode.code, broadcastWrites])
      (run_diagnostics_broadcast _ _ s)
  | custom code data => exact .ask (not_mem_broadcastWrites_of_custom hv)
  | _ => exact .ask (by simp [RequestPdu.functionCode, FunctionCode.code, broadcastWrites])

/-- Every request PDU, of any bytes. -/
theorem processRequest_broadcast (pdu : List UInt8) {unitId : UnitId} (hunit : unitId ≠ 0)
    (deviceId : DeviceIdentification) (s : InMemoryStore config) :
    BroadcastLaw s pdu.head? (processRequest pdu 0 deviceId)
      (processRequest pdu unitId deviceId) := by
  have hanswered : isBroadcast unitId = false := beq_eq_false_iff_ne.mpr hunit
  cases hdecode : decodeRequest pdu with
  | ok request =>
    obtain ⟨hwire, hv, -⟩ := decodeRequest_eq_ok.mp hdecode
    rw [processRequest, processRequest, hdecode, hanswered, hwire]
    exact broadcastLaw_dispatch hv request.wire unitId deviceId s
  | error e =>
    -- neither of the two gets as far as the store
    have hsame : ((processRequest pdu unitId deviceId).run (memoryStore config) s).2 = s := by
      rw [processRequest, hdecode, hanswered]
      rfl
    rw [BroadcastLaw, hsame, ite_self, processRequest, hdecode]
    rfl

def unnamedDevice : DeviceIdentification where
  vendorName := ""
  productCode := ""
  majorMinorRevision := ""
  vendorUrl := none
  productName := none
  modelName := none
  userApplicationName := none

/-- Switching a coil on: the broadcast does it and says nothing. -/
theorem processRequest_broadcast_writeSingleCoil :
    BroadcastLaw oneOfEachStore (some 0x05)
        (processRequest [0x05, 0, 0, 0xFF, 0] 0 unnamedDevice)
        (processRequest [0x05, 0, 0, 0xFF, 0] 1 unnamedDevice) ∧
      ((processRequest [0x05, 0, 0, 0xFF, 0] 1 unnamedDevice).run (memoryStore oneOfEach)
        oneOfEachStore).2.coils.toBools = [true] :=
  ⟨processRequest_broadcast [0x05, 0, 0, 0xFF, 0] (by decide) unnamedDevice oneOfEachStore,
    by decide +kernel⟩

end RustyModbus.Server
