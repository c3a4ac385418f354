import RustyModbus.Client.Methods
import RustyModbus.Server.Connection

/-!
# A client connected to a server

The two ends of a connection over which every frame arrives, in order, and one request is
made at a time. `link` carries out the exchanges of the client's methods: it registers the
request, sends the frame, lets the server work on it, and gives the answer to the reader
of the client.

`run_exchange` is what the methods are verified with. It says that on such a connection a
request the server answers with a response of its function ends with the checks of that
response, and that afterwards nothing of the request is left.
-/

namespace RustyModbus.Client

open Wire Interaction Server

/-- The other end of a connection: what it does with a frame and what it answers. -/
abbrev FrameServer (σ : Type) := Frame → σ → Option Frame × σ

structure Session (σ : Type) where
  txnMgr : TransactionManager
  server : σ
  sent : List Frame

/-- A connection on which no request is open. -/
def Session.quiet {σ : Type} (nextId : UInt16) (server : σ) : Session σ :=
  { txnMgr := { nextId, slots := Vector.replicate _ none }, server, sent := [] }

/-- The reader: a frame that arrived is matched to a transaction. -/
def readFrame (m : TransactionManager) (frame : Option Frame) :
    Option (Except ClientError OwnedResponsePdu) × TransactionManager :=
  match frame with
  | some { header := .mbap h, pdu } => m.completeResponse h.transactionId h.unitId pdu
  -- nothing arrived; other headers do not exist on a TCP connection
  | _ => (none, m)

/-- Send a frame and read what comes back. -/
def transmit {σ : Type} (serve : FrameServer σ) (frame : Frame) (s : Session σ) :
    Option (Except ClientError OwnedResponsePdu) × Session σ :=
  let (reply, server) := serve frame s.server
  let (result, txnMgr) := readFrame s.txnMgr reply
  (result, { txnMgr, server, sent := s.sent ++ [frame] })

/-- The exchanges on a connection. A request without an answer runs into its timeout, and
however it ends its registration is dropped. -/
def link {σ : Type} (serve : FrameServer σ) : Component exchangeInterface (Session σ)
  | .request unitId functionCode pdu, s =>
    match s.txnMgr.register unitId functionCode with
    | (.error e, txnMgr) => (.error e, { s with txnMgr })
    | (.ok txnId, txnMgr) =>
      let (result, s) := transmit serve (requestFrame txnId unitId pdu) { s with txnMgr }
      (result.getD (.error .timeout), { s with txnMgr := s.txnMgr.remove txnId })
  | .broadcast pdu, s => (.ok (), (transmit serve (requestFrame 0 0 pdu) s).2)

/-! ## One exchange -/

theorem TransactionManager.Idle.remove {m : TransactionManager} (h : m.Idle) (txnId : UInt16) :
    m.remove txnId = m := by
  have hslot : m.slots[slotIdx txnId] = none := by
    rw [h, Fin.getElem_fin, Vector.getElem_replicate]
  rw [TransactionManager.remove, hslot]

section

variable {σ : Type} {store : DataStore σ} {deviceId : DeviceIdentification}

/-- The server answers the request with a valid response of its function. -/
structure Answers (store : DataStore σ) (deviceId : DeviceIdentification) (unitId : UnitId)
    (fc : FunctionCode) (pdu : List UInt8) (s : σ) (r : OwnedResponsePdu) (s' : σ) : Prop where
  run : (processRequest pdu unitId deviceId).run store s = (some r.wire, s')
  functionCode : r.functionCode = fc
  valid : r.Valid
  length_le : r.wire.length ≤ maxPduSize

variable {unitId : UnitId} {fc : FunctionCode} {s s' : σ} {r : OwnedResponsePdu}

theorem handleFrame_requestFrame {pdu : SendablePdu}
    (h : Answers store deviceId unitId fc pdu.val s r s') (txnId : UInt16) :
    handleFrame store deviceId (requestFrame txnId unitId pdu) s =
      (some { header := .mbap (MbapHeader.new txnId unitId r.wire.length h.length_le),
              pdu := r.wire }, s') := by
  have hpos : 0 < r.wire.length := by
    obtain ⟨b, data, hwire, -⟩ := ResponsePdu.exists_wire_eq_cons h.valid
    rw [hwire]
    exact Nat.succ_pos _
  show (((processRequest pdu.val unitId deviceId).run store s).1.bind (responseFrame txnId unitId),
    ((processRequest pdu.val unitId deviceId).run store s).2) = _
  rw [h.run]
  exact congrArg (·, s') (responseFrame_eq hpos h.length_le txnId unitId)

/-- The attempt ends with the response, and no trace of it stays in the client. -/
theorem link_request {pdu : SendablePdu} (h : Answers store deviceId unitId fc pdu.val s r s')
    {m : TransactionManager} (hm : m.Idle) (sent : List Frame) :
    ∃ m' frame, m'.Idle ∧
      link (handleFrame store deviceId) (.request unitId fc pdu) { txnMgr := m, server := s, sent }
        = (.ok r, { txnMgr := m', server := s', sent := sent ++ [frame] }) := by
  obtain ⟨txnId, nextId, hregister⟩ := hm.register unitId fc
  have hidle : TransactionManager.Idle { nextId, slots := Vector.replicate _ none } := rfl
  refine ⟨_, requestFrame txnId unitId pdu, hidle, ?_⟩
  rw [link]
  dsimp only
  rw [hregister]
  dsimp only
  rw [transmit]
  dsimp only
  rw [handleFrame_requestFrame h txnId, readFrame]
  dsimp only [MbapHeader.new]
  rw [TransactionManager.completeResponse_registered, deliverResponse_wire h.valid h.length_le
    h.functionCode]
  dsimp only
  rw [hidle.remove]
  rfl

/-- A response other than `ServerDeviceBusy` is not followed by another attempt. -/
theorem classifyAttempt_ok (retry : RetryConfig) (kind : RequestKind)
    (hbusy : ∀ exc, r = .exception exc → exc.exceptionCode ≠ .serverDeviceBusy) :
    classifyAttempt retry kind (.ok r) = .complete (.ok r) := by
  cases r with
  | exception exc =>
    have hne := hbusy exc rfl
    show ite _ _ (ite _ _ _) = _
    rw [if_neg (fun h : _ ∧ _ => hne h.1), ite_self]
  | _ => rfl

theorem run_sendWithRetry {pdu : List UInt8} (h : Answers store deviceId unitId fc pdu s r s')
    (hbusy : ∀ exc, r = .exception exc → exc.exceptionCode ≠ .serverDeviceBusy)
    (hpos : 0 < pdu.length) (hlen : pdu.length ≤ maxPduSize) (retry : RetryConfig)
    (kind : RequestKind) {m : TransactionManager} (hm : m.Idle) (sent : List Frame) :
    ∃ m' frame, m'.Idle ∧
      (sendWithRetry retry unitId fc pdu kind).run.run (link (handleFrame store deviceId))
          { txnMgr := m, server := s, sent }
        = (.ok r, { txnMgr := m', server := s', sent := sent ++ [frame] }) := by
  have hpdu : checkedPduLength pdu = .ok ⟨pdu, hpos, hlen⟩ := by
    rw [checkedPduLength, dif_neg (Nat.pos_iff_ne_zero.mp hpos), dif_neg (Nat.not_lt.mpr hlen)]
  obtain ⟨m', frame, hm', hlink⟩ := @link_request _ _ _ _ _ _ _ _ ⟨pdu, hpos, hlen⟩ h m hm sent
  refine ⟨m', frame, hm', ?_⟩
  rw [sendWithRetry, Fallible.run_bind, orReturn, Fallible.run_ofExcept, hpdu]
  show (attemptLoop retry unitId fc ⟨pdu, hpos, hlen⟩ kind 0).run _ _ = _
  rw [attemptLoop, Program.run, hlink]
  dsimp only
  rw [classifyAttempt_ok retry kind hbusy]
  rfl

theorem run_exchange {α : Type} {pdu : List UInt8}
    (h : Answers store deviceId unitId fc pdu s r s')
    (hbusy : ∀ exc, r = .exception exc → exc.exceptionCode ≠ .serverDeviceBusy)
    (hpos : 0 < pdu.length) (hlen : pdu.length ≤ maxPduSize) (retry : RetryConfig)
    (kind : RequestKind) (check : OwnedResponsePdu → Option (Except ClientError α))
    {m : TransactionManager} (hm : m.Idle) (sent : List Frame) :
    ∃ m' frame, m'.Idle ∧
      (exchange retry unitId fc pdu kind check).run.run (link (handleFrame store deviceId))
          { txnMgr := m, server := s, sent }
        = (typedResponse check r, { txnMgr := m', server := s', sent := sent ++ [frame] }) := by
  obtain ⟨m', frame, hm', hsend⟩ := run_sendWithRetry h hbusy hpos hlen retry kind hm sent
  refine ⟨m', frame, hm', ?_⟩
  rw [exchange, Fallible.run_bind, hsend]
  rfl

end

end RustyModbus.Client
