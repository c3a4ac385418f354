import RustyModbus.Frame.Mbap
import RustyModbus.Frame.Owned

/-!
# Transactions of a client

A request waits for its response in one of sixteen slots, the one its transaction id falls
into modulo sixteen. `register` draws ids until it meets a free slot, `completeResponse`
looks at the slot of the id a frame carries, and what it finds there decides whether the
requester gets a response, an error, or hears nothing.

The clock is not part of this model: a response that would arrive behind the deadline of
its request is one that does not arrive. Neither is the verdict on reusing the session,
which the source updates on the way and which no request depends on.
-/

namespace RustyModbus.Client

open Wire

inductive TransportError
  | io (message : String)
  | frame (e : FrameError)
  | timeout
  | disconnected
  | accessDenied
  | tlsHandshake (message : String)
  | authorizationDenied (role : Option String) (functionCode : FunctionCode)
deriving DecidableEq, Repr

inductive ClientError
  | timeout
  | exception (r : ExceptionResponse)
  | transport (e : TransportError)
  | codec (e : DecodeError)
  | encode (e : EncodeError)
  | transactionConflict (txnId : UInt16)
  | unexpectedResponseUnitId (expected got : UInt8)
  | notConnected
  | retriesExhausted (attempts : Nat) (lastError : ClientError)
  | broadcastReadNotAllowed
  | shuttingDown
  | unexpectedResponse (expected got : UInt8)
  | unexpectedResponseEcho (field : String) (expected got : UInt16)
  | shortResponse (expected actual : Nat)
  | unexpectedResponseLength (functionCode : UInt8) (expected actual : Nat)
  | unexpectedResponsePadding (functionCode invalidMask actual : UInt8)
  | unexpectedFileRecordSubResponseCount (expected actual : Nat)
  | invalidDeviceIdentificationContinuation (previousObjectId nextObjectId : UInt8)
  | deviceIdentificationPaginationLimit (limit : UInt8)
deriving DecidableEq, Repr

def maxSlots : Nat := 16

structure ExpectedResponse where
  unitId : UnitId
  functionCode : FunctionCode
deriving DecidableEq, Repr

structure PendingTransaction where
  txnId : UInt16
  expected : ExpectedResponse
deriving DecidableEq, Repr

structure TransactionManager where
  nextId : UInt16
  slots : Vector (Option PendingTransaction) maxSlots
deriving DecidableEq, Repr

def slotIdx (txnId : UInt16) : Fin maxSlots := ⟨txnId.toNat % maxSlots, Nat.mod_lt _ (by decide)⟩

namespace TransactionManager

def new : TransactionManager := { nextId := 1, slots := Vector.replicate _ none }

/-- Draw an id; zero is reserved, so after it a second one is drawn. -/
def nextTransactionId (m : TransactionManager) : UInt16 × TransactionManager :=
  let id := m.nextId
  if id ≠ 0 then (id, { m with nextId := id + 1 }) else (id + 1, { m with nextId := id + 2 })

/-- The loop of `register`. It ends when every slot has been seen, for which `draws` many
ids are at hand. -/
def registerLoop (expected : ExpectedResponse) (draws : Nat) (seenSlots : Vector Bool maxSlots)
    (seenCount : Nat) (m : TransactionManager) : Except ClientError UInt16 × TransactionManager :=
  match draws with
  | 0 => (.error (.transactionConflict (m.nextId - 1)), m)
  | draws + 1 =>
    if seenCount < maxSlots then
      let (txnId, m) := m.nextTransactionId
      let slot := slotIdx txnId
      let seenCount := if seenSlots[slot] then seenCount else seenCount + 1
      let seenSlots := seenSlots.set slot true
      if m.slots[slot] = none then
        (.ok txnId, { m with slots := m.slots.set slot (some { txnId, expected }) })
      else registerLoop expected draws seenSlots seenCount m
    else (.error (.transactionConflict (m.nextId - 1)), m)

/-- Ids are consecutive up to the zero that is left out, so twice as many draws as there
are slots meet every slot. -/
def register (m : TransactionManager) (unitId : UnitId) (functionCode : FunctionCode) :
    Except ClientError UInt16 × TransactionManager :=
  registerLoop { unitId, functionCode } (2 * maxSlots) (Vector.replicate _ false) 0 m

/-- Empty the slot of a transaction, if it is still the one that holds it. -/
def remove (m : TransactionManager) (txnId : UInt16) : TransactionManager :=
  match m.slots[slotIdx txnId] with
  | some pending =>
    if pending.txnId = txnId then { m with slots := m.slots.set (slotIdx txnId) none } else m
  | none => m

end TransactionManager

/-- What the requester is sent for a response to its transaction. -/
def deliverResponse (expected : ExpectedResponse) (responseUnitId : UnitId) (pdu : List UInt8) :
    Except ClientError OwnedResponsePdu := do
  rejectIf (expected.unitId ≠ responseUnitId)
    (.unexpectedResponseUnitId expected.unitId responseUnitId)
  let response ← (OwnedResponsePdu.fromPdu pdu).mapError .codec
  let expected := expected.functionCode.code
  let got := response.functionCodeByte
  rejectIf (got ≠ expected ∧ got ≠ expected ||| 0x80) (.unexpectedResponse expected got)
  return response

/-- A response frame: what the requester is sent, or nothing if no slot holds the id. -/
def TransactionManager.completeResponse (m : TransactionManager) (txnId : UInt16)
    (responseUnitId : UnitId) (pdu : List UInt8) :
    Option (Except ClientError OwnedResponsePdu) × TransactionManager :=
  match m.slots[slotIdx txnId] with
  | some pending =>
    if pending.txnId = txnId then
      (some (deliverResponse pending.expected responseUnitId pdu),
        { m with slots := m.slots.set (slotIdx txnId) none })
    else (none, m)
  | none => (none, m)

/-! ## One request at a time -/

namespace TransactionManager

/-- No request is waiting. -/
def Idle (m : TransactionManager) : Prop := m.slots = Vector.replicate _ none

theorem idle_new : new.Idle := rfl

theorem nextTransactionId_slots (m : TransactionManager) :
    m.nextTransactionId.2.slots = m.slots := by
  rw [nextTransactionId]
  split <;> rfl

/-- Without a waiting request the first id that is drawn is registered. -/
theorem Idle.register {m : TransactionManager} (h : m.Idle) (unitId : UnitId)
    (fc : FunctionCode) :
    ∃ txnId nextId, m.register unitId fc = (.ok txnId,
      { nextId, slots := (Vector.replicate _ none).set (slotIdx txnId)
          (some { txnId, expected := { unitId, functionCode := fc } }) (slotIdx txnId).isLt }) := by
  have hslots := m.nextTransactionId_slots.trans h
  refine ⟨m.nextTransactionId.1, m.nextTransactionId.2.nextId, ?_⟩
  rw [TransactionManager.register, show 2 * maxSlots = 31 + 1 from rfl, registerLoop,
    if_pos (by decide)]
  dsimp only
  rw [hslots, if_pos (by rw [Fin.getElem_fin, Vector.getElem_replicate])]

/-- Its response, and no other request's, ends the transaction. -/
theorem completeResponse_registered (txnId nextId : UInt16) (expected : ExpectedResponse)
    (unitId : UnitId) (pdu : List UInt8) :
    completeResponse
      { nextId, slots := (Vector.replicate _ none).set (slotIdx txnId) (some { txnId, expected })
          (slotIdx txnId).isLt }
      txnId unitId pdu
      = (some (deliverResponse expected unitId pdu), { nextId, slots := Vector.replicate _ none }) := by
  have hslot : ((Vector.replicate maxSlots none).set (slotIdx txnId)
      (some { txnId, expected : PendingTransaction }))[slotIdx txnId] = some { txnId, expected } := by
    rw [Fin.getElem_fin, Vector.getElem_set_self]
  rw [completeResponse]
  dsimp only
  rw [hslot]
  dsimp only
  rw [if_pos rfl, Vector.set_set]
  congr 2
  ext i hi : 1
  rw [Vector.getElem_set, Vector.getElem_replicate, ite_self]

end TransactionManager

/-- A reply that decodes to a response of the requested function is delivered. -/
theorem deliverResponse_wire {unitId : UnitId} {fc : FunctionCode} {r : OwnedResponsePdu}
    (hv : r.Valid) (hlen : r.wire.length ≤ maxPduSize) (hfc : r.functionCode = fc) :
    deliverResponse { unitId, functionCode := fc } unitId r.wire = .ok r := by
  have hgot : r.functionCodeByte = fc.code ∨ r.functionCodeByte = fc.code ||| 0x80 := by
    rw [← hfc]
    cases r with
    | exception r => exact Or.inr rfl
    | _ => exact Or.inl rfl
  rw [deliverResponse, rejectIf_neg (not_not_intro rfl), OwnedResponsePdu.fromPdu_wire hv hlen]
  show (rejectIf (r.functionCodeByte ≠ fc.code ∧ r.functionCodeByte ≠ fc.code ||| 0x80)
    (ClientError.unexpectedResponse fc.code r.functionCodeByte) >>= fun _ => pure r) = .ok r
  rw [rejectIf_neg (fun h => hgot.elim h.1 h.2)]
  rfl

end RustyModbus.Client
