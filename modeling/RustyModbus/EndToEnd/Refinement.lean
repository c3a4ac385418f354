import RustyModbus.EndToEnd.Calls

/-!
# A client and a server are four arrays

The calls of a client, made one after the other on a connection to a server with an
in-memory store, give what `Tables.step` gives, and the store holds what the arrays hold.

A call is either refused before anything is sent (`agrees_refused`) or one exchange
(`agrees_exchange`). Which of the two, and with which request, is read off each method; what
the server answers to the request has been proved before. The step for every call carries
over to every sequence of calls by the simulation rule.
-/

namespace RustyModbus.EndToEnd

open Wire Interaction Server Client

/-! ## Calls on a connection -/

section

variable {config : StoreConfig}

/-- One call, and how many requests it sends. -/
def call (retry : RetryConfig) (unitId : UnitId) (deviceId : DeviceIdentification)
    (c : ClientCall) (s : Session (InMemoryStore config)) :
    Outcome × Session (InMemoryStore config) :=
  let (result, s) := (c.method retry unitId).run.run (link (handleFrame (memoryStore config) deviceId))
    { s with sent := [] }
  ({ result, requests := s.sent.length }, s)

/-- No request is open and the store of the server holds the arrays. -/
structure Holds (s : Session (InMemoryStore config)) (t : Tables) : Prop where
  idle : s.txnMgr.Idle
  tables : s.server.tables = t

/-- The call does to the session what it does to the arrays. -/
def Agrees (retry : RetryConfig) (unitId : UnitId) (deviceId : DeviceIdentification)
    (c : ClientCall) (s : Session (InMemoryStore config)) : Prop :=
  (call retry unitId deviceId c s).1 = (Tables.step c s.server.tables).1 ∧
    Holds (call retry unitId deviceId c s).2 (Tables.step c s.server.tables).2

variable {retry : RetryConfig} {unitId : UnitId} {deviceId : DeviceIdentification}
  {c : ClientCall} {s : Session (InMemoryStore config)}

theorem agrees_refused {e : EncodeError} (hidle : s.txnMgr.Idle) (he : c.encodeError = some e)
    (hm : c.method retry unitId = orReturn (.error (.encode e))) :
    Agrees retry unitId deviceId c s := by
  rw [Agrees, call, hm, Tables.step, he]
  exact ⟨rfl, hidle, rfl⟩

/-- A method that does not look at exceptions returns them. -/
theorem typedResponse_exception {α : Type}
    {check : OwnedResponsePdu → Option (Except ClientError α)}
    (hcheck : ∀ exc, check (.exception exc) = none) (exc : ExceptionResponse) :
    typedResponse check (.exception exc) = .error (.exception exc) := by
  unfold typedResponse
  rw [hcheck]

variable {request : RequestPdu}

theorem agrees_exchange {kind : RequestKind} {α : Type}
    {check : OwnedResponsePdu → Option (Except ClientError α)} {toValue : α → Value}
    (hidle : s.txnMgr.Idle) (he : c.encodeError = none) (hm : c.method retry unitId =
      exchange retry unitId request.functionCode request.wire kind check >>= fun a =>
        pure (toValue a)) (hfc : c.functionCode = request.functionCode)
    (hlen : request.wire.length ≤ maxPduSize) (hcheck : ∀ exc, check (.exception exc) = none)
    (hserves : Serves unitId deviceId c request check toValue s.server) :
    Agrees retry unitId deviceId c s := by
  have hpos : 0 < request.wire.length := Nat.succ_pos _
  rw [Agrees, call, hm, Tables.step, he]
  dsimp only
  rw [Fallible.run_bind]
  by_cases hin : c.Inside s.server.tables
  · obtain ⟨r, s', a, hanswers, htyped, heffect⟩ := hserves.inside hin
    have hbusy : ∀ exc, r = .exception exc → exc.exceptionCode ≠ .serverDeviceBusy := by
      intro exc hr
      rw [hr, typedResponse_exception hcheck] at htyped
      nomatch htyped
    obtain ⟨m', frame, hm', hrun⟩ :=
      run_exchange hanswers hbusy hpos hlen retry kind check hidle []
    rw [hrun, htyped, if_pos hin, heffect]
    exact ⟨rfl, hm', rfl⟩
  · have hbusy : ∀ exc, illegalDataAddress request.functionCode = .exception exc →
        exc.exceptionCode ≠ .serverDeviceBusy := by
      intro exc hr
      injection hr with hr
      rw [← hr]
      nofun
    obtain ⟨m', frame, hm', hrun⟩ :=
      run_exchange (hserves.outside hin) hbusy hpos hlen retry kind check hidle []
    rw [hrun, typedResponse_exception hcheck, if_neg hin, hfc]
    exact ⟨rfl, hm', rfl⟩

/-- A call within its limits that is served. -/
theorem IsExchange.agrees {α β : Type} {kind : β → OwnedResponsePdu}
    {accept : β → Except ClientError α} {toValue : α → Value}
    (h : IsExchange retry unitId c request kind accept toValue) (hidle : s.txnMgr.Idle)
    (he : c.encodeError = none)
    (hserves : ∀ check : OwnedResponsePdu → Option (Except ClientError α),
      (∀ d, typedResponse check (kind d) = accept d) →
        Serves unitId deviceId c request check toValue s.server) :
    Agrees retry unitId deviceId c s := by
  obtain ⟨replay, check, hlooks, hm⟩ := h.method_eq
  exact agrees_exchange hidle he hm h.functionCode h.length_le hlooks.exception
    (hserves check hlooks.typedResponse)

/-! ## Reads -/

section

variable (hunit : unitId ≠ 0) (hidle : s.txnMgr.Idle)

include hunit hidle

section Reads

variable {max a q : UInt16} {α β : Type} {check : OwnedResponsePdu → Option (Except ClientError α)}
  {kind : β → OwnedResponsePdu} {accept : β → Except ClientError α} {toValue : α → Value}

theorem agrees_read {request : RequestPdu}
    (h : InRange q max → IsExchange retry unitId c request kind accept toValue)
    (hm : c.method retry unitId =
      read retry request.functionCode max unitId a q check >>= fun a => pure (toValue a))
    (he : c.encodeError = limitError q.toNat max.toNat)
    (hserves : InRange q max → ∀ check : OwnedResponsePdu → Option (Except ClientError α),
      (∀ d, typedResponse check (kind d) = accept d) →
        Serves unitId deviceId c request check toValue s.server) :
    Agrees retry unitId deviceId c s := by
  by_cases hq : InRange q max
  · exact (h hq).agrees hidle (he.trans (limitError_eq_none.mpr hq.bounds)) (hserves hq)
  · rw [read_of_not_inRange hunit _ hq] at hm
    exact agrees_refused hidle (he.trans (limitError_of_not_inRange hq)) hm

end Reads

theorem agrees_readCoils (a q : UInt16) : Agrees retry unitId deviceId (.readCoils a q) s :=
  agrees_read hunit hidle (isExchange_readCoils hunit) rfl rfl fun hq _ hcheck =>
    @serves_readBits _ _ _ _ _ _ _ .readCoils true _ hunit hq rfl rfl hcheck

theorem agrees_readDiscreteInputs (a q : UInt16) :
    Agrees retry unitId deviceId (.readDiscreteInputs a q) s :=
  agrees_read hunit hidle (isExchange_readDiscreteInputs hunit) rfl rfl fun hq _ hcheck =>
    @serves_readBits _ _ _ _ _ _ _ .readDiscreteInputs false _ hunit hq rfl rfl hcheck

theorem agrees_readHoldingRegisters (a q : UInt16) :
    Agrees retry unitId deviceId (.readHoldingRegisters a q) s :=
  agrees_read hunit hidle (isExchange_readHoldingRegisters hunit) rfl rfl fun hq _ hcheck =>
    @serves_readRegisters _ _ _ _ _ _ _ .readHoldingRegisters true _ hunit hq rfl rfl hcheck

theorem agrees_readInputRegisters (a q : UInt16) :
    Agrees retry unitId deviceId (.readInputRegisters a q) s :=
  agrees_read hunit hidle (isExchange_readInputRegisters hunit) rfl rfl fun hq _ hcheck =>
    @serves_readRegisters _ _ _ _ _ _ _ .readInputRegisters false _ hunit hq rfl rfl hcheck

/-! ## Writes -/

theorem agrees_writeSingleCoil (a : UInt16)
    (v : Bool) : Agrees retry unitId deviceId (.writeSingleCoil a v) s := by
  refine (isExchange_writeSingleCoil hunit a v).agrees hidle rfl fun check hcheck =>
    serves_writeSingleCoil hunit a v ?_
  simp only [hcheck, expectEcho_self]
  rfl

theorem agrees_writeSingleRegister (a v : UInt16) :
    Agrees retry unitId deviceId (.writeSingleRegister a v) s := by
  refine (isExchange_writeSingleRegister hunit a v).agrees hidle rfl fun check hcheck =>
    serves_writeSingleRegister hunit a v ?_
  simp only [hcheck, expectEcho_self]
  rfl

theorem agrees_maskWriteRegister (a andMask orMask : UInt16) :
    Agrees retry unitId deviceId (.maskWriteRegister a andMask orMask) s := by
  refine (isExchange_maskWriteRegister hunit a andMask orMask).agrees hidle rfl
    fun check hcheck => serves_maskWriteRegister hunit a andMask orMask ?_
  simp only [hcheck, expectEcho_self]
  rfl

theorem agrees_writeMultipleCoils (a : UInt16)
    (values : List Bool) : Agrees retry unitId deviceId (.writeMultipleCoils a values) s := by
  cases hlimit : limitError values.length 1968 with
  | some e =>
    refine agrees_refused hidle hlimit ?_
    rw [ClientCall.method, writeMultipleCoils, maxWriteMultipleCoils,
      checkedQuantityLen_of_limitError hlimit]
    rfl
  | none =>
    obtain ⟨q, n, hq, hrange, hcount, hpacked, hbits, hexchange⟩ :=
      isExchange_writeMultipleCoils hunit a hlimit
    refine hexchange.agrees hidle hlimit fun check hcheck =>
      serves_writeMultipleCoils hunit hrange hcount hpacked.symm hq hbits ?_
    simp only [hcheck, expectEcho_self]
    rfl

theorem agrees_writeMultipleRegisters (a : UInt16) (values : List UInt16) :
    Agrees retry unitId deviceId (.writeMultipleRegisters a values) s := by
  cases hlimit : limitError values.length 123 with
  | some e =>
    refine agrees_refused hidle hlimit ?_
    rw [ClientCall.method, writeMultipleRegisters, maxWriteMultipleRegisters,
      checkedQuantityLen_of_limitError hlimit]
    rfl
  | none =>
    obtain ⟨q, n, hq, hrange, hcount, hexchange⟩ :=
      isExchange_writeMultipleRegisters hunit a hlimit
    refine hexchange.agrees hidle hlimit fun check hcheck =>
      serves_writeMultipleRegisters hunit hrange hcount hq ?_
    simp only [hcheck, expectEcho_self]
    rfl

/-! ## Read/Write Multiple Registers -/

theorem agrees_readWriteMultipleRegisters (ra rq wa : UInt16) (values : List UInt16) :
    Agrees retry unitId deviceId (.readWriteMultipleRegisters ra rq wa values) s := by
  cases hlimit : limitError values.length 121 with
  | some e =>
    have he : (ClientCall.readWriteMultipleRegisters ra rq wa values).encodeError = some e := by
      rw [ClientCall.encodeError, hlimit]
      rfl
    refine agrees_refused hidle he ?_
    rw [ClientCall.method, readWriteMultipleRegisters, rejectIf_neg hunit,
      maxReadWriteMultipleWriteRegisters, checkedQuantityLen_of_limitError hlimit]
    rfl
  | none =>
    have he : (ClientCall.readWriteMultipleRegisters ra rq wa values).encodeError
        = limitError rq.toNat 125 := by
      rw [ClientCall.encodeError, hlimit]
      rfl
    by_cases hread : InRange rq maxRwRead
    · obtain ⟨q, n, hq, hrange, hcount, hexchange⟩ :=
        isExchange_readWriteMultipleRegisters hunit ra wa hread hlimit
      exact hexchange.agrees hidle (he.trans (limitError_eq_none.mpr hread.bounds))
        fun check hcheck => serves_readWriteMultiple hunit hread hrange hcount hq hcheck
    · refine agrees_refused hidle (he.trans (limitError_of_not_inRange hread)) ?_
      obtain ⟨q, n, hquantity, hbytes, hq, hrange, -⟩ :=
        @exists_registerCount values 121 maxRwWrite rfl (by decide) hlimit
      let req : ReadWriteMultipleRegistersRequest := ⟨ra, rq, wa, q, n, values.flatMap toBeBytes⟩
      have hlen : req.encodedLen ≤ 256 := by
        have hle : q.toNat ≤ 121 := hrange.bounds.2
        show 10 + (values.flatMap toBeBytes).length ≤ 256
        rw [length_flatMap_toBeBytes, ← hq]
        omega
      have hencode := encodeRequest_readWrite_refused hlen hread
      rw [ClientCall.method, readWriteMultipleRegisters, rejectIf_neg hunit,
        maxReadWriteMultipleWriteRegisters, hquantity, hbytes, packRegisters_eq]
      dsimp only [orReturn_ok_bind]
      rw [hencode]
      rfl

end

/-! ## Sequences of calls -/

/-- Every call does to the session what it does to the arrays. -/
theorem call_simulates (retry : RetryConfig) (deviceId : DeviceIdentification)
    (hunit : unitId ≠ 0) :
    Simulates Holds (@call config retry unitId deviceId) Tables.step := by
  intro c s t hst
  have hagrees : Agrees retry unitId deviceId c s := by
    cases c with
    | readCoils a q => exact agrees_readCoils hunit hst.idle a q
    | readDiscreteInputs a q => exact agrees_readDiscreteInputs hunit hst.idle a q
    | readHoldingRegisters a q => exact agrees_readHoldingRegisters hunit hst.idle a q
    | readInputRegisters a q => exact agrees_readInputRegisters hunit hst.idle a q
    | writeSingleCoil a v => exact agrees_writeSingleCoil hunit hst.idle a v
    | writeSingleRegister a v => exact agrees_writeSingleRegister hunit hst.idle a v
    | writeMultipleCoils a values => exact agrees_writeMultipleCoils hunit hst.idle a values
    | writeMultipleRegisters a values =>
      exact agrees_writeMultipleRegisters hunit hst.idle a values
    | maskWriteRegister a andMask orMask =>
      exact agrees_maskWriteRegister hunit hst.idle a andMask orMask
    | readWriteMultipleRegisters ra rq wa values =>
      exact agrees_readWriteMultipleRegisters hunit hst.idle ra rq wa values
  rw [← hst.tables]
  exact hagrees

/-- Whatever the store holds at the start, a sequence of calls to one unit has the results it
has on four plain arrays, each call sends as many requests as it does there, and at the end
the store holds what the arrays hold. -/
theorem calls_refine_tables (store : InMemoryStore config) (retry : RetryConfig)
    (deviceId : DeviceIdentification) (nextId : UInt16) (hunit : unitId ≠ 0)
    (calls : List ClientCall) :
    let connection := runAll (call retry unitId deviceId) calls (Session.quiet nextId store)
    let reference := runAll Tables.step calls store.tables
    connection.1 = reference.1 ∧ connection.2.server.tables = reference.2 := by
  intro connection reference
  have hstart : Holds (Session.quiet nextId store) store.tables := ⟨rfl, rfl⟩
  obtain ⟨houtcomes, hfinal⟩ := (call_simulates retry deviceId hunit).runAll calls hstart
  exact ⟨houtcomes, hfinal.tables⟩

end

/-- A store with ten coils and four holding registers. -/
def smallStore : InMemoryStore ⟨10, 0, 4, 0⟩ where
  coils := BitTable.new _
  discreteInputs := BitTable.new _
  holdingRegisters := #v[1, 2, 3, 4]
  inputRegisters := #v[]
  files := fun _ => none
  fifoQueues := fun _ => none
  exceptionStatus := 0
  serverId := []
  valid := rfl

theorem calls_refine_tables_smallStore :
    let calls : List ClientCall :=
      [.writeMultipleCoils 7 [true, false, true], .readCoils 6 4,
        .readWriteMultipleRegisters 1 3 2 [8, 9], .readHoldingRegisters 3 2, .readCoils 0 0]
    let connection := runAll (call ⟨3, []⟩ 1 ⟨"", "", "", none, none, none, none⟩) calls
      (Session.quiet 1 smallStore)
    connection.1 =
      [⟨.ok .done, 1⟩, ⟨.ok (.bits [false, true, false, true]), 1⟩,
        ⟨.ok (.registers [2, 8, 9]), 1⟩,
        ⟨.error (.exception ⟨.readHoldingRegisters, .illegalDataAddress⟩), 1⟩,
        ⟨.error (.encode (.quantityOutOfRange 0)), 0⟩] ∧
      connection.2.server.tables.holdingRegisters = [1, 2, 8, 9] := by
  intro calls connection
  obtain ⟨houtcomes, hfinal⟩ := calls_refine_tables smallStore ⟨3, []⟩
    ⟨"", "", "", none, none, none, none⟩ 1 (show (1 : UnitId) ≠ 0 by decide) calls
  rw [houtcomes, hfinal]
  exact ⟨rfl, rfl⟩

end RustyModbus.EndToEnd
