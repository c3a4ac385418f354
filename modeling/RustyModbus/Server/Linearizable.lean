import RustyModbus.Lib.Concurrent
import RustyModbus.Server.Broadcast

/-!
# Concurrent requests

Any number of connections work on one in-memory store. A method of the store holds its lock
from beginning to end, so a call is one atomic step; everything else a handler does may
interleave with other requests in any way.

Almost every handler decides the whole effect and the whole reply of a request in one store
call. Such requests are linearizable: the library rule `linearizable` applies once the calls
have been counted (`callsAtMost_processRequest`). The exceptions are requests for several
groups of file records, which make one call per group.
-/

namespace RustyModbus.Server

open Wire Interaction

/-! ## Counting calls -/

section Count

variable {α β : Type} {n : Nat}

theorem callsAtMost_orFail_bind {x : Except ExceptionCode α} {f : α → Handler β}
    (hf : ∀ a, (f a).run.CallsAtMost n) : (orFail x >>= f).run.CallsAtMost n := by
  cases x with
  | ok a => exact hf a
  | error e => exact Program.callsAtMost_done n _

theorem callsAtMost_pure (a : α) : (pure a : Handler α).run.CallsAtMost n :=
  Program.callsAtMost_done n _

theorem callsAtMost_callStore_bind {op : StoreOp} {f : op.Answer → Handler β}
    (hf : ∀ a, (f a).run.CallsAtMost n) : (callStore op >>= f).run.CallsAtMost (n + 1) := by
  intro r
  cases r with
  | ok a => exact hf a
  | error e => exact Program.callsAtMost_done n _

theorem callsAtMost_callStore (op : StoreOp) : (callStore op).run.CallsAtMost 1 :=
  fun _ => trivial

theorem callsAtMost_answer {fc : FunctionCode} {h : Handler (List UInt8)}
    (hh : h.run.CallsAtMost n) : (answer fc h).CallsAtMost n := by
  refine (hh.bind (n := 0) fun r => ?_)
  cases r <;> trivial

theorem callsAtMost_ask {isBroadcast : Bool} {p : StoreProgram (List UInt8)}
    (hp : p.CallsAtMost n) : (ask isBroadcast p).CallsAtMost n := by
  cases isBroadcast with
  | true => exact Program.callsAtMost_done n _
  | false => exact hp.bind (n := 0) fun _ => trivial

theorem callsAtMost_command {isBroadcast : Bool} {fc : FunctionCode} {apply : Handler Unit}
    {response : List UInt8} (happly : apply.run.CallsAtMost n) :
    (command isBroadcast fc apply response).CallsAtMost n := by
  refine happly.bind (n := 0) fun r => ?_
  cases isBroadcast with
  | true => trivial
  | false => cases r <;> trivial

theorem callsAtMost_readRegistersOf_bind {isHolding : Bool} {a q : UInt16} {out : List UInt8}
    {f : Nat × Slice out → Handler β} (hf : ∀ r, (f r).run.CallsAtMost n) :
    (readRegistersOf isHolding a q out >>= f).run.CallsAtMost (n + 1) := by
  cases isHolding <;> exact callsAtMost_callStore_bind hf

theorem callsAtMost_readBitsOf_bind {isCoils : Bool} {a q : UInt16} {out : List UInt8}
    {f : Nat × Slice out → Handler β} (hf : ∀ r, (f r).run.CallsAtMost n) :
    (readBitsOf isCoils a q out >>= f).run.CallsAtMost (n + 1) := by
  cases isCoils <;> exact callsAtMost_callStore_bind hf

/-- A read of file records makes one call per group. -/
theorem callsAtMost_readFileRecordGroups (chunks : List (List UInt8)) (response : List UInt8) :
    (readFileRecordGroups chunks response).run.CallsAtMost chunks.length := by
  induction chunks generalizing response with
  | nil => exact callsAtMost_pure response
  | cons chunk chunks ih =>
    exact callsAtMost_orFail_bind fun _ => callsAtMost_orFail_bind fun _ =>
      callsAtMost_orFail_bind fun _ => callsAtMost_callStore_bind fun _ =>
      callsAtMost_orFail_bind fun _ => callsAtMost_orFail_bind fun _ =>
      callsAtMost_orFail_bind fun _ => ih _

/-- So does a write. -/
theorem callsAtMost_writeGroups (groups : List WriteFileRecordGroup) :
    (writeGroups groups).run.CallsAtMost groups.length := by
  induction groups with
  | nil => exact callsAtMost_pure ()
  | cons group groups ih => exact callsAtMost_callStore_bind fun _ => ih

end Count

/-- Every request but one for several groups of file records. -/
def SingleGroup : RequestPdu → Prop
  | .readFileRecord req => (chunksExact 7 req.data).length ≤ 1
  | .writeFileRecord req => ∀ groups, parseWriteGroups req.data 0 = .ok groups → groups.length ≤ 1
  | _ => True

theorem callsAtMost_handleDiagnostics (sub : DiagnosticSubFunction) (data : List UInt8) :
    (handleDiagnostics sub data).CallsAtMost 1 := by
  refine (callsAtMost_callStore _).bind (n := 0) fun r => ?_
  cases r with
  | error ec => trivial
  | ok result =>
    obtain ⟨count, appended⟩ := result
    cases count with
    | none => trivial
    | some count =>
      dsimp only
      split <;> trivial

theorem callsAtMost_applyWriteFileRecord {req : WriteFileRecordRequest}
    (h : SingleGroup (.writeFileRecord req)) : (applyWriteFileRecord req).run.CallsAtMost 1 := by
  refine callsAtMost_orFail_bind fun _ => ?_
  cases hgroups : parseWriteGroups req.data 0 with
  | error e => trivial
  | ok groups => exact (callsAtMost_writeGroups groups).mono (h groups hgroups)

theorem callsAtMost_dispatchRequest {request : RequestPdu} (h : SingleGroup request)
    (pdu : List UInt8) (unitId : UnitId) (isBroadcast : Bool) (deviceId : DeviceIdentification) :
    (dispatchRequest request pdu unitId isBroadcast deviceId).CallsAtMost 1 := by
  cases request with
  | readHoldingRegisters req | readInputRegisters req =>
    exact callsAtMost_ask <| callsAtMost_answer <| callsAtMost_orFail_bind fun _ =>
      callsAtMost_orFail_bind fun _ => callsAtMost_readRegistersOf_bind fun _ =>
      callsAtMost_orFail_bind fun _ => callsAtMost_pure _
  | readCoils req | readDiscreteInputs req =>
    exact callsAtMost_ask <| callsAtMost_answer <| callsAtMost_orFail_bind fun _ =>
      callsAtMost_orFail_bind fun _ => callsAtMost_readBitsOf_bind fun _ =>
      callsAtMost_orFail_bind fun _ => callsAtMost_pure _
  | writeSingleRegister req | writeSingleCoil req =>
    exact callsAtMost_command (callsAtMost_callStore _)
  | writeMultipleRegisters req | writeMultipleCoils req | maskWriteRegister req =>
    exact callsAtMost_command <| callsAtMost_orFail_bind fun _ => callsAtMost_callStore _
  | readWriteMultipleRegisters req =>
    exact callsAtMost_ask <| callsAtMost_answer <| callsAtMost_orFail_bind fun _ =>
      callsAtMost_orFail_bind fun _ => callsAtMost_callStore_bind fun _ =>
      callsAtMost_orFail_bind fun _ => callsAtMost_pure _
  | readFileRecord req =>
    refine callsAtMost_ask <| callsAtMost_answer <| callsAtMost_orFail_bind fun _ => ?_
    refine ((callsAtMost_readFileRecordGroups _ []).mono h).bind (n := 0) fun r => ?_
    cases r with
    | error e => trivial
    | ok groups => exact callsAtMost_orFail_bind fun _ => callsAtMost_pure _
  | writeFileRecord req => exact callsAtMost_command (callsAtMost_applyWriteFileRecord h)
  | readFifoQueue req =>
    exact callsAtMost_ask <| callsAtMost_answer <| callsAtMost_callStore_bind fun _ =>
      callsAtMost_orFail_bind fun _ => callsAtMost_orFail_bind fun _ =>
      callsAtMost_orFail_bind fun _ => callsAtMost_pure _
  | readExceptionStatus | getCommEventCounter =>
    exact callsAtMost_ask <| callsAtMost_answer <| callsAtMost_callStore_bind fun _ =>
      callsAtMost_pure _
  | diagnostics req =>
    refine (callsAtMost_handleDiagnostics req.subFunction req.data).bind (n := 0) fun r => ?_
    cases isBroadcast <;> trivial
  | getCommEventLog | reportServerId =>
    exact callsAtMost_ask <| callsAtMost_answer <| callsAtMost_callStore_bind fun _ =>
      callsAtMost_orFail_bind fun _ => callsAtMost_orFail_bind fun _ => callsAtMost_pure _
  | encapsulatedInterface req =>
    refine callsAtMost_ask ?_
    split <;> trivial
  | custom code data =>
    exact callsAtMost_ask <| callsAtMost_answer <| callsAtMost_callStore_bind fun _ =>
      callsAtMost_orFail_bind fun _ => callsAtMost_pure _

/-! ## Requests -/

structure Request where
  pdu : List UInt8
  unitId : UnitId
deriving DecidableEq, Repr

/-- What is sent to the server is not a request for several groups of file records. -/
def Request.SingleCall (r : Request) : Prop :=
  ∀ request, decodeRequest r.pdu = .ok request → SingleGroup request

def Request.program (deviceId : DeviceIdentification) (r : Request) :
    StoreProgram (Option (List UInt8)) :=
  processRequest r.pdu r.unitId deviceId

theorem Request.SingleCall.callsAtMost {r : Request} (h : r.SingleCall)
    (deviceId : DeviceIdentification) : (r.program deviceId).CallsAtMost 1 := by
  rw [Request.program, processRequest]
  cases hdecode : decodeRequest r.pdu with
  | ok request => exact callsAtMost_dispatchRequest (h request hdecode) _ _ _ _
  | error e =>
    dsimp only
    split <;> trivial

/-! ## Mask writes -/

def maskWrite (andMask orMask current : UInt16) : UInt16 :=
  (current &&& andMask) ||| (orMask &&& ~~~andMask)

def maskWriteRequest (address andMask orMask : UInt16) : RequestPdu :=
  .maskWriteRegister { address, andMask, orMask }

variable {config : StoreConfig}

theorem memoryStore_maskWrite (s : InMemoryStore config) {address : UInt16} (andMask orMask : UInt16)
    (h : address.toNat < config.holdingRegisterCount) :
    (memoryStore config (.atomicMaskWriteRegister address andMask orMask) s).2 =
      { s with
        holdingRegisters := s.holdingRegisters.set address.toNat
          (maskWrite andMask orMask s.holdingRegisters[address.toNat]) } := by
  rw [memoryStore, InMemoryStore.serve, InMemoryStore.atomicMaskWriteRegister,
    InMemoryStore.run_get_bind, InMemoryStore.run_check_bind, checkRange_inside h]
  rfl

/-- Processed in one go, a mask write changes its register by its masks. -/
theorem run_maskWrite {r : Request} {address andMask orMask : UInt16}
    (hr : r.pdu = (maskWriteRequest address andMask orMask).wire) (deviceId : DeviceIdentification)
    (s : InMemoryStore config) (h : address.toNat < config.holdingRegisterCount) :
    ((r.program deviceId).run (memoryStore config) s).2.holdingRegisters[address.toNat]
      = maskWrite andMask orMask s.holdingRegisters[address.toNat] := by
  have hdecode : decodeRequest r.pdu = .ok (maskWriteRequest address andMask orMask) := by
    rw [hr]
    exact decodeRequest_eq_ok.mpr ⟨rfl, trivial, show 7 ≤ maxPduSize by decide⟩
  have hvalid : validateMaskWriteAddress address = .ok () :=
    validateAddressRange_eq_ok.mpr (Nat.succ_le_of_lt address.toNat_lt)
  have happly : ((handleMaskWrite address andMask orMask).run.run (memoryStore config) s).2
      = (memoryStore config (.atomicMaskWriteRegister address andMask orMask) s).2 := by
    rw [handleMaskWrite, run_orFail_bind, hvalid]
    rfl
  have hstate : ((r.program deviceId).run (memoryStore config) s).2
      = ((handleMaskWrite address andMask orMask).run.run (memoryStore config) s).2 := by
    rw [Request.program, processRequest, hdecode]
    exact run_command_state _ s _ _ _
  simp only [hstate, happly, memoryStore_maskWrite s andMask orMask h]
  exact Vector.getElem_set_self ..

/-- No update is lost: each mask write applies to what the one before it has left. -/
theorem foldl_maskWrite {ι : Type} {requests : ι → Request} {address : UInt16}
    {andMask orMask : ι → UInt16}
    (hr : ∀ i, (requests i).pdu = (maskWriteRequest address (andMask i) (orMask i)).wire)
    (deviceId : DeviceIdentification) (h : address.toNat < config.holdingRegisterCount)
    (order : List ι) (s : InMemoryStore config) :
    (inSequence (memoryStore config) (fun i => (requests i).program deviceId) order
        s).2.holdingRegisters[address.toNat]
      = order.foldl (fun current i => maskWrite (andMask i) (orMask i) current)
          s.holdingRegisters[address.toNat] := by
  induction order generalizing s with
  | nil => rfl
  | cons i order ih =>
    rw [List.foldl_cons, ← run_maskWrite (hr i) deviceId s h]
    exact ih _

/-! ## Linearizability -/

/-- What a run of concurrent requests is. -/
structure RequestsLinearize {ι : Type} (deviceId : DeviceIdentification) (requests : ι → Request)
    (s : InMemoryStore config) (turns : List (Turn ι))
    (w : World storeInterface (Option (List UInt8)) ι (InMemoryStore config)) (order : List ι) :
    Prop where
  /-- The order explains every reply and the store. -/
  linearization : Linearization (memoryStore config) (fun i => (requests i).program deviceId) s
    turns w order
  /-- In particular, mask writes to one register are all applied. -/
  maskWrites : ∀ {address : UInt16} {andMask orMask : ι → UInt16},
    (∀ i, (requests i).pdu = (maskWriteRequest address (andMask i) (orMask i)).wire) →
    ∀ h : address.toNat < config.holdingRegisterCount,
      w.state.holdingRegisters[address.toNat]
        = order.foldl (fun current i => maskWrite (andMask i) (orMask i) current)
            s.holdingRegisters[address.toNat]

theorem requests_linearize {ι : Type} [DecidableEq ι] (deviceId : DeviceIdentification)
    {requests : ι → Request} (hsingle : ∀ i, (requests i).SingleCall) {s : InMemoryStore config}
    {turns : List (Turn ι)}
    {w : World storeInterface (Option (List UInt8)) ι (InMemoryStore config)}
    (hrun : (concurrent (memoryStore config) (fun i => (requests i).program deviceId) s).run
      (concurrent (memoryStore config) (fun i => (requests i).program deviceId) s).init turns
      = some w) :
    ∃ order, RequestsLinearize deviceId requests s turns w order := by
  obtain ⟨order, h⟩ := linearizable (fun i => (hsingle i).callsAtMost deviceId) hrun
  refine ⟨order, h, fun hr haddress => ?_⟩
  rw [← foldl_maskWrite hr deviceId haddress order s]
  simp only [h.state]

/-- Two mask writes to register 0, one for each half of it. -/
def halves (upper : Bool) : Request :=
  if upper then { pdu := (maskWriteRequest 0 0x00FF 0x1200).wire, unitId := 1 }
  else { pdu := (maskWriteRequest 0 0xFF00 0x0034).wire, unitId := 0xFF }

/-- Both are under way before either of them reaches the store. -/
def crossedTurns : List (Turn Bool) :=
  [.start true, .start false, .call false, .call true, .finish true, .finish false]

theorem requests_linearize_halves :
    ∃ w, (concurrent (memoryStore oneOfEach) (fun i => (halves i).program unnamedDevice)
        oneOfEachStore).run (concurrent (memoryStore oneOfEach)
          (fun i => (halves i).program unnamedDevice) oneOfEachStore).init crossedTurns = some w ∧
      w.state.holdingRegisters.toList = [0x1234] ∧
      ∃ order, RequestsLinearize unnamedDevice halves oneOfEachStore crossedTurns w order := by
  refine ⟨_, rfl, by decide +kernel, requests_linearize unnamedDevice (fun i request h => ?_) rfl⟩
  cases i with
  | true =>
    cases h
    trivial
  | false =>
    cases h
    trivial

end RustyModbus.Server
