import RustyModbus.Client.Checks
import RustyModbus.Client.Session
import RustyModbus.EndToEnd.Store

/-!
# What the server answers

For each request of a typed call: if every place it names is in the table, the server
answers with the values, or does the write and confirms it; if not, it answers
`IllegalDataAddress` and its store stays as it is. A range that leaves the address space is
found by a check of the handler, one that only leaves the table by the store; the answer is
the same.
-/

namespace RustyModbus.EndToEnd

open Wire Interaction Server Client

variable {config : StoreConfig} {s s' : InMemoryStore config} {t : Tables}

/-! ## The tables that are read -/

/-- The two bit reads differ in the table they are about. -/
def Tables.bits (isCoils : Bool) (t : Tables) : List Bool :=
  if isCoils then t.coils else t.discreteInputs

/-- The same for the two register reads. -/
def Tables.registers (isHolding : Bool) (t : Tables) : List UInt16 :=
  if isHolding then t.holdingRegisters else t.inputRegisters

theorem length_bits_le (isCoils : Bool) : (s.tables.bits isCoils).length ≤ 0x10000 := by
  obtain ⟨hcoils, hinputs, -⟩ := s.bounds
  cases isCoils with
  | true => exact s.coils.length_toBools ▸ hcoils
  | false => exact s.discreteInputs.length_toBools ▸ hinputs

theorem length_registers_le (isHolding : Bool) :
    (s.tables.registers isHolding).length ≤ 0x10000 := by
  obtain ⟨-, -, hholding, hinput⟩ := s.bounds
  cases isHolding with
  | true => exact s.holdingRegisters.length_toList ▸ hholding
  | false => exact s.inputRegisters.length_toList ▸ hinput

theorem performs_readBitsOf {isCoils : Bool} {a q : UInt16} {out : List UInt8}
    (hout : out.length = (q.toNat + 7) / 8) :
    Performs ((readBitsOf isCoils a q out).run.run (memoryStore config) s) s
      (a.toNat + q.toNat ≤ (s.tables.bits isCoils).length) s.tables fun r =>
        r.1 = q.toNat ∧ CarriesBits (readAt a.toNat q.toNat (s.tables.bits isCoils)) r.2.val := by
  cases isCoils with
  | true => exact .look (s.coils.readPacked_inside · hout) s.coils.readPacked_outside
  | false =>
    exact .look (s.discreteInputs.readPacked_inside · hout) s.discreteInputs.readPacked_outside

theorem performs_readRegistersOf {isHolding : Bool} {a q : UInt16} {out : List UInt8}
    (hout : out.length = q.toNat * 2) :
    Performs ((readRegistersOf isHolding a q out).run.run (memoryStore config) s) s
      (a.toNat + q.toNat ≤ (s.tables.registers isHolding).length) s.tables fun r =>
        r.1 = q.toNat ∧
          r.2.val = (readAt a.toNat q.toNat (s.tables.registers isHolding)).flatMap toBeBytes := by
  cases isHolding <;> exact .look (readRegistersBe_inside _ · hout) (readRegistersBe_outside _)

/-! ## Handlers -/

section Handlers

variable {inside : Prop} {α : Type} {Q : α → Prop} {h : Handler α} {a q : UInt16}

/-- A check in front of a handler that refuses nothing the handler would do. -/
theorem performs_orFail_bind {x : Except ExceptionCode Unit} (hok : inside → x = .ok ())
    (herror : ∀ e, x = .error e → e = .illegalDataAddress)
    (hh : Performs (h.run.run (memoryStore config) s) s inside t Q) :
    Performs ((do orFail x; h).run.run (memoryStore config) s) s inside t Q := by
  rw [run_orFail_bind]
  cases x with
  | ok u => exact hh
  | error e =>
    rw [herror e rfl]
    refine ⟨fun hin => ?_, fun _ => rfl⟩
    cases hok hin

/-- The check of the address range is such a check: no table is larger than the address space. -/
theorem performs_validateAddressRange_bind (hin : inside → a.toNat + q.toNat ≤ 0x10000)
    (hh : Performs (h.run.run (memoryStore config) s) s inside t Q) :
    Performs ((do orFail (validateAddressRange a q); h).run.run (memoryStore config) s) s inside t
      Q :=
  performs_orFail_bind (fun h => validateAddressRange_eq_ok.mpr (hin h))
    (fun _ => validateAddressRange_eq_error) hh

theorem checkedResponseU8_of_lt {n : Nat} (h : n < 256) :
    checkedResponseU8 n = .ok (UInt8.ofNat n) := if_pos h

/-- The bytes of a counted response: as many as announced. -/
structure IsCounted (n : UInt8) (data : List UInt8) (len : Nat) : Prop where
  count : n.toNat = len
  length : data.length = n.toNat

/-- The end of every handler that reads: room for the answer, the call on the store and a check
of the number it returns. -/
theorem performs_counted {fc : FunctionCode} {len : Nat} {P : List UInt8 → Prop}
    (read : (out : List UInt8) → Handler (Nat × Slice out)) (hlt : len < 256)
    (hread : ∀ out : List UInt8, out.length = len →
      Performs ((read out).run.run (memoryStore config) s) s inside t fun r =>
        r.1 = q.toNat ∧ P r.2.val) :
    Performs
      ((do
        let byteCount ← orFail (checkedResponseU8 len)
        let (count, data) ← read (List.replicate byteCount.toNat 0)
        let _ ← orFail (validateStoreCount count q q.toNat)
        return fc.code :: byteCount :: data.val : Handler (List UInt8)).run.run
          (memoryStore config) s) s inside t
      fun bytes => ∃ n data, bytes = fc.code :: n :: data ∧ IsCounted n data len ∧ P data := by
  have hlen : (List.replicate (UInt8.ofNat len).toNat (0 : UInt8)).length = len := by
    rw [List.length_replicate, UInt8.toNat_ofNat_of_lt' hlt]
  rw [run_orFail_bind, checkedResponseU8_of_lt hlt]
  dsimp only
  constructor
  case done =>
    intro hin
    obtain ⟨⟨count, data⟩, s', hrun, htables, hcount, hP⟩ := (hread _ hlen).done hin
    refine ⟨_, s', ?_, htables, _, data.val, rfl,
      ⟨UInt8.toNat_ofNat_of_lt' hlt, data.property.trans List.length_replicate⟩, hP⟩
    rw [Fallible.run_bind, hrun]
    dsimp only
    rw [run_orFail_bind, validateStoreCount_eq_ok.mpr ⟨rfl, hcount, Nat.le_of_eq hcount⟩]
    rfl
  case refused =>
    intro hout
    rw [Fallible.run_bind, (hread _ hlen).refused hout]

end Handlers

/-! ## Answers -/

section Answers

variable {deviceId : DeviceIdentification} {unitId : UnitId} {request : RequestPdu}
  {r : OwnedResponsePdu}

/-- What the handler of a valid request returns is the answer of the server. -/
theorem answers_of_dispatch (hunit : unitId ≠ 0) (hv : request.Valid)
    (hlen : request.wire.length ≤ maxPduSize)
    (hrun : (dispatchRequest request request.wire unitId false deviceId).run (memoryStore config) s
      = (some r.wire, s'))
    (hfc : r.functionCode = request.functionCode) (hr : r.Valid)
    (hrlen : r.wire.length ≤ maxPduSize) :
    Answers (memoryStore config) deviceId unitId request.functionCode request.wire s r s' :=
  ⟨(run_processRequest_wire (memoryStore config) s deviceId hv hlen hunit).trans hrun, hfc, hr, hrlen⟩

/-- The answer to a request outside the table. -/
abbrev illegalDataAddress (fc : FunctionCode) : OwnedResponsePdu :=
  .exception { functionCode := fc, exceptionCode := .illegalDataAddress }

theorem answers_illegalDataAddress (hunit : unitId ≠ 0) (hv : request.Valid)
    (hlen : request.wire.length ≤ maxPduSize)
    (hrun : (dispatchRequest request request.wire unitId false deviceId).run (memoryStore config) s
      = (some (encodeException request.functionCode.exceptionCode .illegalDataAddress), s)) :
    Answers (memoryStore config) deviceId unitId request.functionCode request.wire s
      (illegalDataAddress request.functionCode) s :=
  answers_of_dispatch hunit hv hlen hrun rfl ⟨RequestPdu.fromRaw_code hv, rfl⟩
    (encodeException_length_le _ _)

/-- What is needed of a request: inside the tables its answer passes the checks of the
method and stands for the effect of the call, and outside it is the exception. -/
structure Serves (unitId : UnitId) (deviceId : DeviceIdentification) (c : ClientCall)
    (request : RequestPdu) {α : Type} (check : OwnedResponsePdu → Option (Except ClientError α))
    (toValue : α → Value) (s : InMemoryStore config) : Prop where
  inside : c.Inside s.tables → ∃ r s' a,
    Answers (memoryStore config) deviceId unitId request.functionCode request.wire s r s' ∧
      typedResponse check r = .ok a ∧ c.effect s.tables = (toValue a, s'.tables)
  outside : ¬c.Inside s.tables →
    Answers (memoryStore config) deviceId unitId request.functionCode request.wire s
      (illegalDataAddress request.functionCode) s

variable {c : ClientCall} {α : Type} {toValue : α → Value}
  {check : OwnedResponsePdu → Option (Except ClientError α)}

/-- A question that is answered with counted data. -/
theorem Serves.of_counted {h : Handler (List UInt8)} {P : List UInt8 → Prop}
    (kind : CountedData → OwnedResponsePdu) (len : Nat) (hunit : unitId ≠ 0) (hv : request.Valid)
    (hlen : request.wire.length ≤ maxPduSize)
    (hdispatch : dispatchRequest request request.wire unitId false deviceId
      = ask false (answer request.functionCode h))
    (hh : Performs (h.run.run (memoryStore config) s) s (c.Inside s.tables) t fun bytes =>
      ∃ n data, bytes = request.functionCode.code :: n :: data ∧ IsCounted n data len ∧ P data)
    (hkind : ∀ d, (kind d).functionCode = request.functionCode ∧
      (kind d).wire = request.functionCode.code :: d.byteCount :: d.data)
    (hmax : len + 2 ≤ 253)
    (haccept : c.Inside s.tables → ∀ n data, IsCounted n data len → P data →
      (kind ⟨n, data⟩).Valid ∧
        ∃ a, typedResponse check (kind ⟨n, data⟩) = .ok a ∧ c.effect s.tables = (toValue a, t)) :
    Serves unitId deviceId c request check toValue s := by
  constructor
  case inside =>
    intro hin
    obtain ⟨_, s', hrun, rfl, n, data, rfl, hdata, hP⟩ := hh.done hin
    obtain ⟨hvalid, a, htyped, heffect⟩ := haccept hin n data hdata hP
    obtain ⟨hfc, hwire⟩ := hkind ⟨n, data⟩
    refine ⟨_, s', a, answers_of_dispatch hunit hv hlen ?_ hfc hvalid ?_, htyped, heffect⟩
    · rw [hdispatch, run_ask, run_answer, hrun, hwire]
    · rw [hwire]
      show data.length + 2 ≤ 253
      rwa [hdata.length, hdata.count]
  case outside =>
    intro hout
    refine answers_illegalDataAddress hunit hv hlen ?_
    rw [hdispatch, run_ask, run_answer, hh.refused hout]

/-- A command that is confirmed with its echo. -/
theorem Serves.of_command {check : OwnedResponsePdu → Option (Except ClientError Unit)}
    {apply : Handler Unit} {response : List UInt8} (request : RequestPdu) (r : OwnedResponsePdu)
    (hunit : unitId ≠ 0) (hv : request.Valid) (hlen : request.wire.length ≤ maxPduSize)
    (hdispatch : dispatchRequest request request.wire unitId false deviceId
      = command false request.functionCode apply response)
    (happly : Performs (apply.run.run (memoryStore config) s) s (c.Inside s.tables) t fun _ => True)
    (heffect : c.effect s.tables = (.done, t)) (hresponse : response = r.wire)
    (hfc : r.functionCode = request.functionCode) (hr : r.Valid)
    (hrlen : r.wire.length ≤ maxPduSize) (hechoed : typedResponse check r = .ok ()) :
    Serves unitId deviceId c request check (fun _ => .done) s := by
  constructor
  case inside =>
    intro hin
    obtain ⟨_, s', hrun, rfl, -⟩ := happly.done hin
    refine ⟨r, s', (), answers_of_dispatch hunit hv hlen ?_ hfc hr hrlen, hechoed, heffect⟩
    rw [hdispatch, run_command, hrun, hresponse]
  case outside =>
    intro hout
    refine answers_illegalDataAddress hunit hv hlen ?_
    rw [hdispatch, run_command, happly.refused hout]

/-! ### Reads -/

section Reads

variable {a q : UInt16} {fc : FunctionCode}

def bitRequest (isCoils : Bool) (range : AddressRange) : RequestPdu :=
  if isCoils then .readCoils range else .readDiscreteInputs range

def bitResponse (isCoils : Bool) (data : CountedData) : OwnedResponsePdu :=
  if isCoils then .readCoils data else .readDiscreteInputs data

theorem performs_handleReadBits (isCoils : Bool) (hq : InRange q 2000) :
    ∃ h, handleReadBits fc a q isCoils = answer fc h ∧
      Performs (h.run.run (memoryStore config) s) s
        (a.toNat + q.toNat ≤ (s.tables.bits isCoils).length) s.tables fun bytes =>
          ∃ n data, bytes = (bitRequest isCoils ⟨a, q⟩).functionCode.code :: n :: data ∧
            IsCounted n data ((q.toNat + 7) / 8) ∧
            CarriesBits (readAt a.toNat q.toNat (s.tables.bits isCoils)) data := by
  have hle : q.toNat ≤ 2000 := hq.bounds.2
  refine ⟨_, rfl, ?_⟩
  rw [validateReadBits_eq, validateRead_of_inRange hq]
  refine performs_validateAddressRange_bind (fun hin => Nat.le_trans hin (length_bits_le _)) ?_
  cases isCoils <;> exact performs_counted _ (by omega) fun out hout => performs_readBitsOf hout

theorem serves_readBits {isCoils : Bool}
    {check : OwnedResponsePdu → Option (Except ClientError (List Bool))} (hunit : unitId ≠ 0)
    (hq : InRange q 2000)
    (hinside : c.Inside s.tables = (a.toNat + q.toNat ≤ (s.tables.bits isCoils).length))
    (heffect : c.effect s.tables =
      (.bits (readAt a.toNat q.toNat (s.tables.bits isCoils)), s.tables))
    (hcheck : ∀ r, typedResponse check (bitResponse isCoils r) = bitValues fc q r) :
    Serves unitId deviceId c (bitRequest isCoils ⟨a, q⟩) check .bits s := by
  have hle : q.toNat ≤ 2000 := hq.bounds.2
  obtain ⟨h, hhandler, hperforms⟩ := @performs_handleReadBits config s a q
    (bitRequest isCoils ⟨a, q⟩).functionCode isCoils hq
  rw [← hinside] at hperforms
  refine .of_counted (bitResponse isCoils) _ hunit ?_ ?_ ?_ hperforms ?_ (by omega)
    fun hin n data hdata hbits => ⟨?_, _, ?_, heffect⟩
  · cases isCoils <;> exact hq
  · cases isCoils <;> exact (show 5 ≤ 253 by decide)
  · rw [← hhandler]
    cases isCoils <;> rfl
  · cases isCoils <;> exact fun d => ⟨rfl, rfl⟩
  · cases isCoils <;> exact hdata.length
  · rw [hcheck]
    exact bitValues_eq fc (length_readAt (hinside ▸ hin)) (hdata.length.trans hdata.count) hbits

def registerRequest (isHolding : Bool) (range : AddressRange) : RequestPdu :=
  if isHolding then .readHoldingRegisters range else .readInputRegisters range

def registerResponse (isHolding : Bool) (data : CountedData) : OwnedResponsePdu :=
  if isHolding then .readHoldingRegisters data else .readInputRegisters data

theorem performs_handleReadRegisters (isHolding : Bool) (hq : InRange q maxReadRegisters) :
    ∃ h, handleReadRegisters fc a q isHolding = answer fc h ∧
      Performs (h.run.run (memoryStore config) s) s
        (a.toNat + q.toNat ≤ (s.tables.registers isHolding).length) s.tables fun bytes =>
          ∃ n data, bytes = (registerRequest isHolding ⟨a, q⟩).functionCode.code :: n :: data ∧
            IsCounted n data (q.toNat * 2) ∧
            data = (readAt a.toNat q.toNat (s.tables.registers isHolding)).flatMap toBeBytes := by
  have hle : q.toNat ≤ 125 := hq.bounds.2
  refine ⟨_, rfl, ?_⟩
  rw [validateReadRegisters, validateRead_of_inRange hq]
  refine performs_validateAddressRange_bind (fun hin => Nat.le_trans hin (length_registers_le _)) ?_
  cases isHolding <;>
    exact performs_counted _ (by omega) fun out hout => performs_readRegistersOf hout

theorem IsCounted.even {n : UInt8} {data : List UInt8} {count : Nat}
    (h : IsCounted n data (count * 2)) : data.length % 2 = 0 := by
  rw [h.length, h.count, Nat.mul_mod_left]

theorem serves_readRegisters {isHolding : Bool}
    {check : OwnedResponsePdu → Option (Except ClientError (List UInt16))} (hunit : unitId ≠ 0)
    (hq : InRange q 125)
    (hinside : c.Inside s.tables = (a.toNat + q.toNat ≤ (s.tables.registers isHolding).length))
    (heffect : c.effect s.tables =
      (.registers (readAt a.toNat q.toNat (s.tables.registers isHolding)), s.tables))
    (hcheck : ∀ r, typedResponse check (registerResponse isHolding r) = registerValues fc q r) :
    Serves unitId deviceId c (registerRequest isHolding ⟨a, q⟩) check .registers s := by
  have hle : q.toNat ≤ 125 := hq.bounds.2
  obtain ⟨h, hhandler, hperforms⟩ := @performs_handleReadRegisters config s a q
    (registerRequest isHolding ⟨a, q⟩).functionCode isHolding hq
  rw [← hinside] at hperforms
  refine .of_counted (registerResponse isHolding) _ hunit ?_ ?_ ?_ hperforms ?_ (by omega)
    fun hin n data hdata hvalues => ⟨?_, _, ?_, heffect⟩
  · cases isHolding <;> exact hq
  · cases isHolding <;> exact (show 5 ≤ 253 by decide)
  · rw [← hhandler]
    cases isHolding <;> rfl
  · cases isHolding <;> exact fun d => ⟨rfl, rfl⟩
  · cases isHolding <;> exact ⟨hdata.length, hdata.even⟩
  · rw [hcheck, hvalues]
    exact registerValues_eq fc (length_readAt (hinside ▸ hin))

end Reads

/-! ### Writes -/

section Writes

variable {check : OwnedResponsePdu → Option (Except ClientError Unit)}

theorem serves_writeSingleCoil (hunit : unitId ≠ 0) (a : UInt16) (v : Bool)
    (hechoed : typedResponse check (.writeSingleCoil ⟨a, CoilValue.fromBool v⟩) = .ok ()) :
    Serves unitId deviceId (.writeSingleCoil a v) (.writeSingleCoil ⟨a, CoilValue.fromBool v⟩) check
      (fun _ => .done) s := by
  refine .of_command _ (.writeSingleCoil ⟨a, CoilValue.fromBool v⟩) hunit trivial
    (show 5 ≤ 253 by decide) rfl ?_ rfl
    (encodeResponse_sendable (WriteSingleCoil.encodeInto_emits _) trivial) rfl trivial
    (show 5 ≤ 253 by decide) hechoed
  rw [CoilValue.asBool_fromBool]
  exact performs_writeCoil s a v

theorem serves_writeSingleRegister (hunit : unitId ≠ 0) (a v : UInt16)
    (hechoed : typedResponse check (.writeSingleRegister ⟨a, v⟩) = .ok ()) :
    Serves unitId deviceId (.writeSingleRegister a v) (.writeSingleRegister ⟨a, v⟩) check
      (fun _ => .done) s :=
  .of_command _ (.writeSingleRegister ⟨a, v⟩) hunit trivial (show 5 ≤ 253 by decide) rfl
    (performs_writeRegister s a v) rfl
    (encodeResponse_sendable (WriteSingleRegister.encodeInto_emits _) trivial) rfl trivial
    (show 5 ≤ 253 by decide) hechoed

theorem serves_maskWriteRegister (hunit : unitId ≠ 0) (a am om : UInt16)
    (hechoed : typedResponse check (.maskWriteRegister ⟨a, am, om⟩) = .ok ()) :
    Serves unitId deviceId (.maskWriteRegister a am om) (.maskWriteRegister ⟨a, am, om⟩) check
      (fun _ => .done) s :=
  .of_command _ (.maskWriteRegister ⟨a, am, om⟩) hunit trivial (show 7 ≤ 253 by decide) rfl
    (performs_validateAddressRange_bind (fun hin => Nat.le_trans hin (length_registers_le true))
      (performs_atomicMaskWriteRegister s a am om)) rfl
    (encodeResponse_sendable (MaskWriteRegister.encodeInto_emits _) trivial) rfl trivial
    (show 7 ≤ 253 by decide) hechoed

variable {a q : UInt16} {n : UInt8}

theorem writeMultipleCoils_valid {packed : List UInt8} (hq : InRange q maxWriteCoils)
    (hn : n.toNat = coilBytes q) (hlen : n.toNat = packed.length) :
    (RequestPdu.writeMultipleCoils ⟨a, q, n, packed⟩).Valid ∧
      (RequestPdu.writeMultipleCoils ⟨a, q, n, packed⟩).wire.length ≤ maxPduSize := by
  have hle : q.toNat ≤ 1968 := hq.bounds.2
  refine ⟨⟨hq, hn, hlen⟩, ?_⟩
  show packed.length + 6 ≤ 253
  rw [coilBytes] at hn
  omega

theorem serves_writeMultipleCoils {packed : List UInt8} {values : List Bool} (hunit : unitId ≠ 0)
    (hq : InRange q maxWriteCoils) (hn : n.toNat = coilBytes q) (hlen : n.toNat = packed.length)
    (hcount : q.toNat = values.length) (hbits : CarriesBits values packed)
    (hechoed : typedResponse check (.writeMultipleCoils ⟨a, q⟩) = .ok ()) :
    Serves unitId deviceId (.writeMultipleCoils a values) (.writeMultipleCoils ⟨a, q, n, packed⟩)
      check (fun _ => .done) s := by
  obtain ⟨hv, hwire⟩ := @writeMultipleCoils_valid a q n packed hq hn hlen
  refine .of_command _ (.writeMultipleCoils ⟨a, q⟩) hunit hv hwire rfl ?_ rfl
    (encodeResponse_sendable (AddressRange.encodeInto_emits _ _ ⟨a, q⟩) hq) rfl trivial
    (show 5 ≤ 253 by decide) hechoed
  rw [validateWriteCoils, validateWrite_of_inRange hq hn]
  exact performs_validateAddressRange_bind (fun hin => hcount ▸ Nat.le_trans hin (length_bits_le true))
    (performs_writeCoilsPacked s hq hcount (hlen.symm.trans hn) hbits)

variable {values : List UInt16}

theorem writeMultipleRegisters_valid (hq : InRange q maxWriteRegisters)
    (hn : n.toNat = registerBytes q) (hcount : q.toNat = values.length) :
    (RequestPdu.writeMultipleRegisters ⟨a, q, n, values.flatMap toBeBytes⟩).Valid ∧
      (RequestPdu.writeMultipleRegisters ⟨a, q, n, values.flatMap toBeBytes⟩).wire.length
        ≤ maxPduSize := by
  have hle : q.toNat ≤ 123 := hq.bounds.2
  have hlen := length_flatMap_toBeBytes values
  refine ⟨⟨hq, hn, ?_⟩, ?_⟩
  · show n.toNat = (values.flatMap toBeBytes).length
    rw [hn, registerBytes, hlen, hcount]
  · show (values.flatMap toBeBytes).length + 6 ≤ 253
    omega

theorem serves_writeMultipleRegisters (hunit : unitId ≠ 0) (hq : InRange q maxWriteRegisters)
    (hn : n.toNat = registerBytes q) (hcount : q.toNat = values.length)
    (hechoed : typedResponse check (.writeMultipleRegisters ⟨a, q⟩) = .ok ()) :
    Serves unitId deviceId (.writeMultipleRegisters a values)
      (.writeMultipleRegisters ⟨a, q, n, values.flatMap toBeBytes⟩) check (fun _ => .done) s := by
  obtain ⟨hv, hwire⟩ := @writeMultipleRegisters_valid a q n values hq hn hcount
  refine .of_command _ (.writeMultipleRegisters ⟨a, q⟩) hunit hv hwire rfl ?_ rfl
    (encodeResponse_sendable (AddressRange.encodeInto_emits _ _ ⟨a, q⟩) hq) rfl trivial
    (show 5 ≤ 253 by decide) hechoed
  rw [validateWriteRegisters, validateWrite_of_inRange hq hn]
  exact performs_validateAddressRange_bind
    (fun hin => hcount ▸ Nat.le_trans hin (length_registers_le true))
    (performs_writeRegistersBe s hq hcount)

end Writes

/-! ### Read/Write Multiple Registers -/

section

variable {ra rq wa wq : UInt16} {n : UInt8} {values : List UInt16}

theorem readWriteMultiple_valid (hrq : InRange rq maxRwRead) (hwq : InRange wq maxRwWrite)
    (hn : n.toNat = registerBytes wq) (hcount : wq.toNat = values.length) :
    (RequestPdu.readWriteMultipleRegisters
        ⟨ra, rq, wa, wq, n, values.flatMap toBeBytes⟩).Valid ∧
      (RequestPdu.readWriteMultipleRegisters
        ⟨ra, rq, wa, wq, n, values.flatMap toBeBytes⟩).wire.length ≤ maxPduSize := by
  have hle : wq.toNat ≤ 121 := hwq.bounds.2
  have hlen := length_flatMap_toBeBytes values
  refine ⟨⟨hrq, hwq, hn, ?_⟩, ?_⟩
  · show n.toNat = (values.flatMap toBeBytes).length
    rw [hn, registerBytes, hlen, hcount]
  · show (values.flatMap toBeBytes).length + 10 ≤ 253
    omega

/-- The values that come back are read after the write. -/
theorem serves_readWriteMultiple
    {check : OwnedResponsePdu → Option (Except ClientError (List UInt16))} (hunit : unitId ≠ 0)
    (hrq : InRange rq maxRwRead) (hwq : InRange wq maxRwWrite) (hn : n.toNat = registerBytes wq)
    (hcount : wq.toNat = values.length)
    (hcheck : ∀ r, typedResponse check (.readWriteMultipleRegisters r) =
      registerValues .readWriteMultipleRegisters rq r) :
    Serves unitId deviceId (.readWriteMultipleRegisters ra rq wa values)
      (.readWriteMultipleRegisters ⟨ra, rq, wa, wq, n, values.flatMap toBeBytes⟩) check
      .registers s := by
  obtain ⟨hv, hwire⟩ := @readWriteMultiple_valid ra rq wa wq n values hrq hwq hn hcount
  have hle : rq.toNat ≤ 125 := hrq.bounds.2
  have hlt : rq.toNat * 2 < 256 := by omega
  have hbound : s.tables.holdingRegisters.length ≤ 0x10000 := length_registers_le true
  let read := readAt ra.toNat rq.toNat (writeAt wa.toNat values s.tables.holdingRegisters)
  refine .of_counted (P := (· = read.flatMap toBeBytes)) .readWriteMultipleRegisters (rq.toNat * 2)
    hunit hv hwire rfl ?_ (fun d => ⟨rfl, rfl⟩) (by omega)
    fun ⟨hread, hwrite⟩ n data hdata hvalues => ⟨⟨hdata.length, hdata.even⟩, read, ?_, rfl⟩
  · rw [validateReadWriteRegisters_of_inRange hrq hwq hn]
    refine performs_orFail_bind (fun ⟨hread, hwrite⟩ => ?_) (fun e he => ?_) ?_
    · exact check_bind_eq_ok.mpr ⟨validateAddressRange_eq_ok.mpr (Nat.le_trans hread hbound),
        validateAddressRange_eq_ok.mpr (hcount ▸ Nat.le_trans hwrite hbound)⟩
    · rcases bind_eq_error.mp he with hread | ⟨_, -, hwrite⟩
      · exact validateAddressRange_eq_error hread
      · exact validateAddressRange_eq_error hwrite
    · exact performs_counted
        (fun out => callStore (.atomicReadWriteRegistersBe ra rq wa wq (values.flatMap toBeBytes) out))
        hlt fun out hout => performs_atomicReadWriteRegistersBe s hrq hwq hcount hout
  · rw [hcheck, hvalues]
    exact registerValues_eq _ (length_readAt (by rwa [writeAt_length hwrite]))

end

end Answers

end RustyModbus.EndToEnd
