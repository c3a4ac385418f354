import RustyModbus.Server.Handler

/-!
# Every reply is well formed

Whatever the store does, a request with a proper function code is answered with bytes the
client's decoder takes. Every count, length and vector a store can return is checked before
it reaches the wire: each handler's response is shown to be an `IsReply` of its function
code for all possible replies of the store, and the decoder lemma does the rest.
-/

namespace RustyModbus.Server

open Wire Interaction Fallible

/-! ## The checks between the store and the wire -/

theorem checkedResponseU8_eq_ok {value : Nat} {b : UInt8} :
    checkedResponseU8 value = .ok b ↔ b.toNat = value := by
  rw [checkedResponseU8]
  constructor
  · intro h
    split at h
    next hlt =>
      obtain rfl := Except.ok.inj h
      rw [UInt8.toNat_ofNat', Nat.mod_eq_of_lt hlt]
    next => cases h
  · rintro rfl
    rw [if_pos b.toNat_lt, UInt8.ofNat_toNat]

theorem checkedResponseU16_eq_ok {value : Nat} {w : UInt16} :
    checkedResponseU16 value = .ok w ↔ w.toNat = value := by
  rw [checkedResponseU16]
  constructor
  · intro h
    split at h
    next hlt =>
      obtain rfl := Except.ok.inj h
      rw [UInt16.toNat_ofNat', Nat.mod_eq_of_lt hlt]
    next => cases h
  · rintro rfl
    rw [if_pos w.toNat_lt, UInt16.ofNat_toNat]

theorem validateStoreCount_eq_ok {count n capacity : Nat} {requested : UInt16} :
    validateStoreCount count requested capacity = .ok n ↔
      n = count ∧ count = requested.toNat ∧ count ≤ capacity := by
  rw [validateStoreCount]
  split
  next h => rw [Except.ok.injEq, and_iff_left h, eq_comm]
  next h => simp only [reduceCtorEq, h, and_false]

theorem returns_orFail {α : Type} {P : α → Prop} {x : Except ExceptionCode α}
    (h : ∀ a, x = .ok a → P a) : Returns P (orFail x) := Returns.ofExcept h

/-- A check, then what relies on it. -/
theorem returns_check {α β : Type} {P : α → Prop} {Q : β → Prop} {x : Except ExceptionCode α}
    {f : α → Handler β} (hx : ∀ {a}, x = .ok a ↔ P a) (hf : ∀ a, P a → Returns Q (f a)) :
    Returns Q (orFail x >>= f) := .bind (returns_orFail fun _ => hx.mp) hf

variable {fc : FunctionCode}

/-- A handler whose responses are replies, with its failures turned into exceptions. -/
theorem always_answer {h : Handler (List UInt8)} (hh : Returns (IsReply fc) h) :
    (answer fc h).Always (IsReply fc) := by
  refine Program.always_bind.mpr (hh.mono fun r hr => ?_)
  cases r with
  | ok response => exact hr response rfl
  | error ec => exact .exception ec

/-! ## The handlers -/

/-- A response that announces as many bytes as it carries. -/
theorem length_counted (fc : UInt8) {byteCount : UInt8} {data : List UInt8} {n : Nat}
    (hcount : data.length = byteCount.toNat) (hn : byteCount.toNat = n) (hle : n ≤ 251) :
    (fc :: byteCount :: data).length ≤ maxPduSize := by
  show data.length + 1 + 1 ≤ 253
  omega

theorem always_handleReadRegisters (address quantity : UInt16) (isHolding : Bool) :
    (handleReadRegisters (if isHolding then .readHoldingRegisters else .readInputRegisters)
      address quantity isHolding).Always
      (IsReply (if isHolding then .readHoldingRegisters else .readInputRegisters)) := by
  refine always_answer <| returns_check validateRead_eq_ok fun _ ⟨hrange, _⟩ => ?_
  refine returns_check checkedResponseU8_eq_ok fun byteCount hbyte => ?_
  refine .skip fun (count, registers) => ?_
  refine .skip fun _ => .pure ?_
  have hle : quantity.toNat ≤ 125 := hrange.bounds.2
  have hdata : registers.val.length = byteCount.toNat := by
    rw [registers.property, List.length_replicate]
  have hlen := length_counted (if isHolding then 0x03 else 0x04) hdata hbyte (by omega)
  cases isHolding with
  | true =>
    exact .normal (.readHoldingRegisters ⟨byteCount, registers.val⟩) id rfl rfl
      ⟨hdata, show registers.val.length % 2 = 0 by omega⟩ hlen
  | false =>
    exact .normal (.readInputRegisters ⟨byteCount, registers.val⟩) id rfl rfl
      ⟨hdata, show registers.val.length % 2 = 0 by omega⟩ hlen

theorem always_handleReadBits (address quantity : UInt16) (isCoils : Bool) :
    (handleReadBits (if isCoils then .readCoils else .readDiscreteInputs) address quantity
      isCoils).Always (IsReply (if isCoils then .readCoils else .readDiscreteInputs)) := by
  rw [handleReadBits, validateReadBits_eq]
  refine always_answer <| returns_check validateRead_eq_ok fun _ ⟨hrange, _⟩ => ?_
  refine returns_check checkedResponseU8_eq_ok fun byteCount hbyte => ?_
  refine .skip fun (count, bits) => ?_
  refine .skip fun _ => .pure ?_
  have hle : quantity.toNat ≤ 2000 := hrange.bounds.2
  have hdata : bits.val.length = byteCount.toNat := by
    rw [bits.property, List.length_replicate]
  have hlen := length_counted (if isCoils then 0x01 else 0x02) hdata hbyte (by omega)
  cases isCoils with
  | true => exact .normal (.readCoils ⟨byteCount, bits.val⟩) id rfl rfl hdata hlen
  | false => exact .normal (.readDiscreteInputs ⟨byteCount, bits.val⟩) id rfl rfl hdata hlen

theorem always_handleReadWriteMultiple (req : ReadWriteMultipleRegistersRequest) :
    (handleReadWriteMultiple req).Always (IsReply .readWriteMultipleRegisters) := by
  refine always_answer <| returns_check validateReadWriteRegisters_eq_ok fun _ ⟨hrange, _⟩ => ?_
  refine returns_check checkedResponseU8_eq_ok fun byteCount hbyte => ?_
  refine .skip fun (count, registers) => ?_
  refine .skip fun _ => .pure ?_
  have hle : req.readQuantity.toNat ≤ 125 := hrange.bounds.2
  have hdata : registers.val.length = byteCount.toNat := by
    rw [registers.property, List.length_replicate]
  exact .normal (.readWriteMultipleRegisters ⟨byteCount, registers.val⟩) id rfl rfl
    ⟨hdata, show registers.val.length % 2 = 0 by omega⟩ (length_counted _ hdata hbyte (by omega))

/-- The loop over the groups of a file read appends one well-formed group per sub-request
and never grows beyond what a response may carry. -/
theorem returns_readFileRecordGroups (chunks : List (List UInt8)) {response : List UInt8}
    (hlen : response.length ≤ 250) :
    Returns (fun r => ∃ gs : List ReadDataGroup, r = response ++ gs.flatMap ReadDataGroup.wire ∧
      gs.length = chunks.length ∧ r.length ≤ 250) (readFileRecordGroups chunks response) := by
  induction chunks generalizing response with
  | nil => exact .pure ⟨[], (List.append_nil _).symm, rfl, hlen⟩
  | cons chunk chunks ih =>
    refine .skip fun _ => ?_
    refine returns_check validateRange_eq_ok fun _ hrange => ?_
    refine returns_check rejectIf_eq_ok fun _ hmax => ?_
    refine .skip fun (n, values) => ?_
    refine returns_check validateStoreCount_eq_ok fun n' hn => ?_
    refine returns_check checkedResponseU8_eq_ok fun respLen hresp => ?_
    refine returns_check rejectIf_eq_ok fun _ hfit => ?_
    obtain ⟨rfl, hcount, -⟩ := hn
    have hpos := hrange.2.1
    have hle : (wordAt chunk 5).toNat ≤ 122 := Nat.not_lt.mp hmax
    have hvalues : values.val.length = (wordAt chunk 5).toNat * 2 := by
      rw [values.property, List.length_replicate]
    let g : ReadDataGroup :=
      { data := values.val, even := by omega, nonempty := by omega, short := by omega }
    have hwire : respLen :: 0x06 :: values.val = g.wire := by
      have hbyte : respLen = UInt8.ofNat (1 + values.val.length) := by
        rw [← UInt8.ofNat_toNat (x := respLen), hresp]
        congr 1
        omega
      rw [hbyte]
      rfl
    rw [hwire] at hfit ⊢
    refine (ih (Nat.not_lt.mp hfit)).mono fun r hr a ha => ?_
    obtain ⟨gs, rfl, hgs, hr⟩ := hr a ha
    exact ⟨g :: gs, by rw [List.flatMap_cons, List.append_assoc], by simp [hgs], hr⟩

theorem ReadDataGroup.four_le_wire_length (g : ReadDataGroup) : 4 ≤ g.wire.length := by
  rw [g.wire_length]
  have := g.nonempty
  omega

theorem always_handleReadFileRecord (req : ReadFileRecordRequest) :
    (handleReadFileRecord req).Always (IsReply .readFileRecord) := by
  refine always_answer <| returns_check rejectIf_eq_ok fun _ hsubs => ?_
  refine .bind (returns_readFileRecordGroups _ (Nat.zero_le 250)) fun groups hgroups => ?_
  refine returns_check checkedResponseU8_eq_ok fun byteCount hbyte => ?_
  refine .pure ?_
  obtain ⟨gs, hgs, hcount, hmax⟩ := hgroups
  rw [List.nil_append] at hgs
  have hmin : 4 ≤ groups.length := by
    -- there is at least one sub-request, and a group has at least four bytes
    rw [not_or] at hsubs
    have hpos := List.length_pos_iff.mpr hsubs.1
    rw [chunksExact, if_pos (by omega), List.length_cons] at hcount
    cases gs with
    | nil => cases hcount
    | cons g gs =>
      rw [hgs, List.flatMap_cons, List.length_append]
      have := ReadDataGroup.four_le_wire_length g
      omega
  exact .normal (.readFileRecord ⟨byteCount, groups⟩) id rfl rfl
    ⟨⟨by rw [hbyte]; exact hmin, by rw [hbyte]; exact hmax⟩, hbyte.symm,
      (walkReadGroups_eq_ok groups).mpr ⟨gs, hgs⟩⟩
    (length_counted _ hbyte.symm hbyte (by omega))

theorem always_handleReadFifoQueue (address : UInt16) :
    (handleReadFifoQueue address).Always (IsReply .readFifoQueue) := by
  refine always_answer <| .skip fun (count, values) => ?_
  refine returns_check rejectIf_eq_ok fun _ hmax => ?_
  refine returns_check checkedResponseU16_eq_ok fun byteCount hbyte => ?_
  refine returns_check checkedResponseU16_eq_ok fun fifoCount hfifo => ?_
  refine .pure ?_
  have hle : count ≤ 31 := Nat.not_lt.mp hmax
  have hvalues : values.val.length = 62 := values.property.trans List.length_replicate
  have htake : (values.val.take (count * 2)).length = count * 2 := by
    rw [List.length_take]
    omega
  refine .normal (.readFifoQueue ⟨byteCount, fifoCount, values.val.take (count * 2)⟩) id rfl rfl
    ⟨?_, ?_, ?_⟩ ?_
  · show byteCount.toNat = 2 + (values.val.take (count * 2)).length
    omega
  · show ¬31 < fifoCount
    rw [UInt16.lt_iff_toNat_lt, hfifo]
    exact hmax
  · show fifoCount.toNat * 2 = (values.val.take (count * 2)).length
    omega
  · show (values.val.take (count * 2)).length + 5 ≤ 253
    omega

theorem always_handleCustomRequest {unitId fc : UInt8} (data : List UInt8)
    (hfc : FunctionCode.fromRaw fc = some (.custom fc)) :
    (handleCustomRequest unitId fc data).Always (IsReply (.custom fc)) := by
  refine always_answer <| .skip fun (n, data) => ?_
  refine .skip fun _ => .pure ?_
  have hdata : data.val.length = 252 := data.property.trans List.length_replicate
  refine .normal (.custom fc (data.val.take n)) id rfl rfl hfc ?_
  show (data.val.take n).length + 1 ≤ 253
  rw [List.length_take]
  omega

theorem always_handleCommEventLog : handleCommEventLog.Always (IsReply .getCommEventLog) := by
  refine always_answer <| .skip fun ⟨log, events⟩ => ?_
  refine returns_check rejectIf_eq_ok fun _ hmax => ?_
  refine returns_check checkedResponseU8_eq_ok fun byteCount hbyte => ?_
  refine .pure ?_
  have hle : events.length ≤ 64 := Nat.not_lt.mp hmax
  refine .normal (.getCommEventLog ⟨byteCount, log.status, log.eventCount, log.messageCount, events⟩)
    id rfl rfl ?_ ?_
  · show byteCount.toNat = 6 + events.length
    omega
  · show events.length + 8 ≤ 253
    omega

theorem always_handleReportServerId : handleReportServerId.Always (IsReply .reportServerId) := by
  refine always_answer <| .skip fun ⟨count, appended⟩ => ?_
  refine returns_check rejectIf_eq_ok fun _ hmax => ?_
  refine returns_check checkedResponseU8_eq_ok fun byteCount hbyte => ?_
  refine .pure ?_
  rw [not_or, Nat.not_lt] at hmax
  exact .normal (.reportServerId ⟨byteCount, appended⟩) id rfl rfl hbyte.symm
    (length_counted _ hbyte.symm hbyte hmax.2)

/-! ## Dispatch -/

/-- There is an answer, and it answers `fc`. -/
def Answered (fc : FunctionCode) (r : Option (List UInt8)) : Prop :=
  ∃ pdu, r = some pdu ∧ IsReply fc pdu

theorem always_ask {response : StoreProgram (List UInt8)} (h : response.Always (IsReply fc)) :
    (ask false response).Always (Answered fc) :=
  Program.always_bind.mpr (h.mono fun pdu hpdu => ⟨pdu, rfl, hpdu⟩)

theorem always_command {apply : Handler Unit} {response : List UInt8} (h : IsReply fc response) :
    (command false fc apply response).Always (Answered fc) := by
  refine Program.always_bind.mpr ((Returns.trivial apply).mono fun r _ => ?_)
  cases r with
  | ok u => exact ⟨response, rfl, h⟩
  | error ec => exact ⟨_, rfl, .exception ec⟩

/-- What the diagnostics handler does with each answer of the store. -/
theorem exists_handleDiagnostics (sub : DiagnosticSubFunction) (data : List UInt8) :
    ∃ k, handleDiagnostics sub data = .call (.appendDiagnosticResponse sub data) k ∧
      ∀ answer, ∃ r, k answer = .done r ∧
        (Answered .diagnostics r ∨ r = none ∧ ∃ appended, answer = .ok ⟨none, appended⟩) := by
  refine ⟨_, rfl, fun answer => ?_⟩
  cases answer with
  | error ec => exact ⟨_, rfl, Or.inl ⟨_, rfl, .exception ec⟩⟩
  | ok result =>
    obtain ⟨count, appended⟩ := result
    cases count with
    | none => exact ⟨_, rfl, Or.inr ⟨rfl, appended, rfl⟩⟩
    | some count =>
      by_cases hbad : count ≠ appended.length ∨
          appended.length > maxDiagnosticResponseDataLen ∨ appended.length % 2 ≠ 0
      · exact ⟨_, if_pos hbad, Or.inl ⟨_, rfl, .exception _⟩⟩
      · refine ⟨_, if_neg hbad, Or.inl ⟨_, rfl, ?_⟩⟩
        simp only [not_or, Decidable.not_not, Nat.not_lt] at hbad
        obtain ⟨-, hmax, heven⟩ := hbad
        have hle : appended.length ≤ 250 := hmax
        refine .normal (.diagnostics ⟨sub, appended⟩) id rfl rfl heven ?_
        show appended.length + 3 ≤ 253
        omega

theorem run_handleDiagnostics {σ : Type} (store : DataStore σ) (s : σ)
    (sub : DiagnosticSubFunction) (data : List UInt8) :
    Answered .diagnostics ((handleDiagnostics sub data).run store s).1 ∨
      ((handleDiagnostics sub data).run store s).1 = none ∧
        ∃ appended, (store (.appendDiagnosticResponse sub data) s).1 = .ok ⟨none, appended⟩ := by
  obtain ⟨k, hk, hanswer⟩ := exists_handleDiagnostics sub data
  obtain ⟨r, hr, h⟩ := hanswer (store (.appendDiagnosticResponse sub data) s).1
  rw [hk, Program.run, hr]
  exact h

theorem isReply_writeFileRecord (req : WriteFileRecordRequest) :
    IsReply .writeFileRecord (encodeResponse .writeFileRecord (CountedData.encodedLen req)
      (WriteFileRecordResponse.encodeInto req)) := by
  refine IsReply.encodeResponse (.writeFileRecord req)
    (CountedData.encodeFileRecord_emits (fun hcount => ?_) validateWriteFilePayloadEncode_eq_ok) id
    id
  rw [CountedData.encodedLen, hcount]

theorem isReply_writeMultiple {max : UInt16} (r : AddressRange) (resp : ResponsePdu)
    (hexc : ¬resp.IsException) (hfc : resp.functionCode = fc) (hbody : resp.body = r.body)
    (hv : resp.Valid) :
    IsReply fc (encodeResponse fc r.encodedLen (r.encodeInto fc max)) := by
  subst hfc
  refine IsReply.encodeResponse resp (hbody ▸ AddressRange.encodeInto_emits _ max r) hexc
    fun _ => ⟨hv, ?_⟩
  rw [hbody]
  show 5 ≤ 253
  decide

/-- The requests other than diagnostics are always answered. -/
theorem always_dispatchRequest {request : RequestPdu} {pdu : List UInt8} (unitId : UnitId)
    (deviceId : DeviceIdentification) (hpdu : pdu = request.wire) (hv : request.Valid)
    (hdiag : ∀ req, request ≠ .diagnostics req) :
    (dispatchRequest request pdu unitId false deviceId).Always
      (Answered request.functionCode) := by
  cases request with
  | readHoldingRegisters req => exact always_ask (always_handleReadRegisters _ _ true)
  | readInputRegisters req => exact always_ask (always_handleReadRegisters _ _ false)
  | readCoils req => exact always_ask (always_handleReadBits _ _ true)
  | readDiscreteInputs req => exact always_ask (always_handleReadBits _ _ false)
  | writeSingleRegister req =>
    exact always_command <| IsReply.encodeResponse (.writeSingleRegister req)
      (WriteSingleRegister.encodeInto_emits req) id fun _ => ⟨trivial, show 5 ≤ 253 by decide⟩
  | writeMultipleRegisters req =>
    exact always_command <| isReply_writeMultiple ⟨req.address, req.quantity⟩
      (.writeMultipleRegisters _) id rfl rfl trivial
  | writeSingleCoil req =>
    exact always_command <| IsReply.encodeResponse (.writeSingleCoil req)
      (WriteSingleCoil.encodeInto_emits req) id fun _ => ⟨trivial, show 5 ≤ 253 by decide⟩
  | writeMultipleCoils req =>
    exact always_command <| isReply_writeMultiple ⟨req.address, req.quantity⟩
      (.writeMultipleCoils _) id rfl rfl trivial
  | maskWriteRegister req =>
    exact always_command <| IsReply.encodeResponse (.maskWriteRegister req)
      (MaskWriteRegister.encodeInto_emits req) id fun _ => ⟨trivial, show 7 ≤ 253 by decide⟩
  | readWriteMultipleRegisters req => exact always_ask (always_handleReadWriteMultiple req)
  | readFileRecord req => exact always_ask (always_handleReadFileRecord req)
  | writeFileRecord req => exact always_command (isReply_writeFileRecord req)
  | readFifoQueue req => exact always_ask (always_handleReadFifoQueue _)
  | readExceptionStatus =>
    refine always_ask <| always_answer <| .skip fun status =>
      Returns.pure ?_
    exact IsReply.encodeResponse (.readExceptionStatus ⟨status⟩)
      (ReadExceptionStatusResponse.encodeInto_emits _) id fun _ =>
        ⟨trivial, show 2 ≤ 253 by decide⟩
  | diagnostics req => exact absurd rfl (hdiag req)
  | getCommEventCounter =>
    refine always_ask <| always_answer <| .skip fun (status, eventCount) => .pure ?_
    exact IsReply.encodeResponse (.getCommEventCounter ⟨status, eventCount⟩)
      (GetCommEventCounterResponse.encodeInto_emits _) id fun _ =>
        ⟨trivial, show 5 ≤ 253 by decide⟩
  | getCommEventLog => exact always_ask always_handleCommEventLog
  | reportServerId => exact always_ask always_handleReportServerId
  | encapsulatedInterface req =>
    refine always_ask ?_
    split
    next => exact isReply_buildDeviceIdResponse req.data deviceId
    next =>
      rw [hpdu]
      exact IsReply.exception _
  | custom fc data => exact always_ask (always_handleCustomRequest data hv)

/-- A request that cannot be decoded is answered under its first byte. -/
theorem isReply_decodeFailure (fc : UInt8) (ec : ExceptionCode) :
    IsReply (FunctionCode.fromByte fc) (encodeException (fc ||| 0x80) ec) := by
  have hcode : (FunctionCode.fromByte fc).exceptionCode = fc ||| 0x80 := by
    rw [FunctionCode.exceptionCode, FunctionCode.code_fromByte]
  rw [← hcode]
  exact .exception ec

/-- Every request with a proper function code is answered, unless the store itself asked
for silence. -/
theorem run_processRequest {σ : Type} (store : DataStore σ) (s : σ)
    (deviceId : DeviceIdentification) {pdu : List UInt8} {unitId : UnitId} {fc : UInt8}
    (hunit : unitId ≠ 0) (hfirst : pdu.head? = some fc) :
    let reply := ((processRequest pdu unitId deviceId).run store s).1
    Answered (FunctionCode.fromByte fc) reply ∨
      reply = none ∧ ∃ req appended, decodeRequest pdu = .ok (.diagnostics req) ∧
        (store (.appendDiagnosticResponse req.subFunction req.data) s).1 = .ok ⟨none, appended⟩ := by
  have hbroadcast : isBroadcast unitId = false := beq_eq_false_iff_ne.mpr hunit
  have hhead : pdu.headD 0 = fc := by
    rw [List.headD_eq_head?_getD, hfirst, Option.getD_some]
  dsimp only
  unfold processRequest
  rw [hbroadcast]
  cases hdecode : decodeRequest pdu with
  | error e =>
    left
    exact ⟨_, rfl, hhead ▸ isReply_decodeFailure (pdu.headD 0) (decodeFailure e)⟩
  | ok request =>
    obtain ⟨hpdu, hv, -⟩ := decodeRequest_eq_ok.mp hdecode
    have hfc : FunctionCode.fromByte fc = request.functionCode := by
      rw [hpdu, RequestPdu.wire, List.head?_cons, Option.some.injEq] at hfirst
      rw [← hfirst]
      exact (FunctionCode.fromRaw_eq_some.mp (RequestPdu.fromRaw_code hv)).2.2
    rw [hfc]
    by_cases hdiag : ∃ req, request = .diagnostics req
    · obtain ⟨req, rfl⟩ := hdiag
      show Answered .diagnostics (Program.run store ((handleDiagnostics req.subFunction req.data)
        >>= pure) s).1 ∨ (Program.run store ((handleDiagnostics req.subFunction req.data)
        >>= pure) s).1 = none ∧ _
      rw [Program.run_bind]
      rcases run_handleDiagnostics store s req.subFunction req.data with h | ⟨hnone, appended, h⟩
      · exact Or.inl h
      · exact Or.inr ⟨hnone, req, appended, rfl, h⟩
    · left
      exact (always_dispatchRequest unitId deviceId hpdu hv
        (fun req hreq => hdiag ⟨req, hreq⟩)).run store s

/-- Whatever the request and whatever the store answers, a reply is a PDU of proper length, so
the connection neither drops nor replaces it. -/
theorem always_processRequest (pdu : List UInt8) {unitId : UnitId} (hunit : unitId ≠ 0)
    (deviceId : DeviceIdentification) :
    (processRequest pdu unitId deviceId).Always fun r =>
      ∀ reply, r = some reply → ∃ fc, IsReply fc reply := by
  have hbroadcast : isBroadcast unitId = false := beq_eq_false_iff_ne.mpr hunit
  have hanswered : ∀ fc r, Answered fc r → ∀ reply, r = some reply → ∃ fc, IsReply fc reply := by
    rintro fc r ⟨pdu, rfl, h⟩ reply hreply
    cases hreply
    exact ⟨fc, h⟩
  rw [processRequest, hbroadcast]
  cases hdecode : decodeRequest pdu with
  | error e =>
    exact hanswered _ _ ⟨_, rfl, isReply_decodeFailure (pdu.headD 0) (decodeFailure e)⟩
  | ok request =>
    obtain ⟨hpdu, hv, -⟩ := decodeRequest_eq_ok.mp hdecode
    by_cases hdiag : ∃ req, request = .diagnostics req
    · obtain ⟨req, rfl⟩ := hdiag
      obtain ⟨k, hk, hanswer⟩ := exists_handleDiagnostics req.subFunction req.data
      show (handleDiagnostics req.subFunction req.data >>= pure).Always _
      rw [hk]
      intro answer
      obtain ⟨r, hr, h⟩ := hanswer answer
      show (k answer >>= pure).Always _
      rw [hr]
      rcases h with h | ⟨rfl, -⟩
      · exact hanswered _ r h
      · exact fun reply hreply => absurd hreply (Option.some_ne_none reply).symm
    · exact (always_dispatchRequest unitId deviceId hpdu hv
        (fun req hreq => hdiag ⟨req, hreq⟩)).mono fun r => hanswered _ r

end RustyModbus.Server
