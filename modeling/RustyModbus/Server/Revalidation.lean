import RustyModbus.Server.FileRecord

/-!
# What is left to refuse behind the decoder

The limits of the protocol are written down three times: in the decoders, in the checks of
`validate.rs` and in the handlers. Behind a decoder that has passed a request, the later copies can
refuse very little. `DeadChecks` lists, for each function on tables, files and queues, the checks of
its handler that cannot fail any more. `Refusal` lists the reasons that are left: an address range
that leaves the address space, an answer to a file read that gets too long, and what the store says.
The theorem holds for any store, so the reasons of the last kind are read off the log of its
replies.
-/

namespace RustyModbus.Server

open Wire Interaction Fallible

/-- The calls of an execution with the replies of the store, in order. -/
abbrev StoreLog := List (Sigma storeInterface.Reply)

/-- The ranges of addresses a request names. -/
def addressRanges : RequestPdu → List (UInt16 × UInt16)
  | .readCoils r | .readDiscreteInputs r | .readHoldingRegisters r | .readInputRegisters r =>
    [(r.address, r.quantity)]
  | .writeMultipleCoils r => [(r.address, r.quantity)]
  | .writeMultipleRegisters r => [(r.address, r.quantity)]
  | .readWriteMultipleRegisters r =>
    [(r.readAddress, r.readQuantity), (r.writeAddress, r.writeQuantity)]
  | _ => []

/-- A read that was answered with another number of items than it asked for. -/
def StoreOp.Miscounts : (op : StoreOp) → op.Answer → Prop
  | .readCoilsPacked _ quantity _, (n, _) | .readDiscreteInputsPacked _ quantity _, (n, _)
  | .readHoldingRegistersBe _ quantity _, (n, _) | .readInputRegistersBe _ quantity _, (n, _) =>
    n ≠ quantity.toNat
  | .atomicReadWriteRegistersBe _ readQuantity _ _ _ _, (n, _) => n ≠ readQuantity.toNat
  | .readFileRecordBe _ _ recordLength _, (n, _) => n ≠ recordLength.toNat
  | _, _ => False

/-- Why a handler refuses a request, after the calls in `log`, and with which code. -/
inductive Refusal (request : RequestPdu) (log : StoreLog) : ExceptionCode → Prop
  | outOfRange {address quantity : UInt16} (hmem : (address, quantity) ∈ addressRanges request)
    (hout : 0x10000 < address.toNat + quantity.toNat) : Refusal request log .illegalDataAddress
  | groupTooLong {req : ReadFileRecordRequest} {gs : List ReadGroup} {g : ReadGroup}
    (hreq : request = .readFileRecord req) (hdata : req.data = gs.flatMap ReadGroup.wire)
    (hg : g ∈ gs) (hlong : 122 < g.val.recordLength.toNat) :
    Refusal request log .illegalDataAddress
  | replyTooLong {req : ReadFileRecordRequest} {gs : List ReadGroup}
    (hreq : request = .readFileRecord req) (hdata : req.data = gs.flatMap ReadGroup.wire)
    (hlong : 250 < Files.replyLength gs) : Refusal request log .illegalDataValue
  | miscount {op : StoreOp} {a : op.Answer} (hlast : log.getLast? = some ⟨op, .ok a⟩)
    (h : op.Miscounts a) : Refusal request log .serverDeviceFailure
  | overfull {address : UInt16} {out : List UInt8} {n : Nat} {values : Slice out}
    (hlast : log.getLast? = some ⟨.readFifoQueueBe address out, .ok (n, values)⟩) (h : 31 < n) :
    Refusal request log .illegalDataValue
  | store {op : StoreOp} {ec : ExceptionCode} (hlast : log.getLast? = some ⟨op, .error ec⟩) :
    Refusal request log ec

/-- A conversion of a computed count that succeeds. -/
def Converts {α : Type} (x : Except ExceptionCode α) : Prop := ∃ a, x = .ok a

/-- The checks behind the decoder that cannot fail: those of quantities and byte counts, those of a
group of file records, and the conversions of counts to bytes and words. -/
def DeadChecks : RequestPdu → Prop
  | .readCoils r =>
    validateReadCoils r.address r.quantity ≠ .error .illegalDataValue ∧
      Converts (checkedResponseU8 ((r.quantity.toNat + 7) / 8))
  | .readDiscreteInputs r =>
    validateReadDiscreteInputs r.address r.quantity ≠ .error .illegalDataValue ∧
      Converts (checkedResponseU8 ((r.quantity.toNat + 7) / 8))
  | .readHoldingRegisters r | .readInputRegisters r =>
    validateReadRegisters r.address r.quantity ≠ .error .illegalDataValue ∧
      Converts (checkedResponseU8 (r.quantity.toNat * 2))
  | .writeMultipleCoils r =>
    validateWriteCoils r.address r.quantity r.byteCount ≠ .error .illegalDataValue
  | .writeMultipleRegisters r =>
    validateWriteRegisters r.address r.quantity r.byteCount ≠ .error .illegalDataValue
  | .maskWriteRegister r => validateMaskWriteAddress r.address = .ok ()
  | .readWriteMultipleRegisters r =>
    validateReadWriteRegisters r.readAddress r.readQuantity r.writeAddress r.writeQuantity
      r.writeByteCount ≠ .error .illegalDataValue ∧
      Converts (checkedResponseU8 (r.readQuantity.toNat * 2))
  | .readFileRecord r =>
    ¬(r.data = [] ∨ r.data.length % 7 ≠ 0 ∨ r.data.length > 0xF5) ∧
      (∀ chunk ∈ chunksExact 7 r.data, chunk[0]! = 6 ∧
        validateRange (wordAt chunk 1) (wordAt chunk 3) (wordAt chunk 5).toNat = .ok ()) ∧
      (∀ n ≤ 122, Converts (checkedResponseU8 (1 + 2 * n))) ∧
      ∀ n ≤ 250, Converts (checkedResponseU8 n)
  | .writeFileRecord r =>
    (0x09 ≤ r.byteCount ∧ r.byteCount ≤ 0xFB) ∧ ∃ groups, parseWriteGroups r.data 0 = .ok groups
  | .readFifoQueue _ =>
    ∀ n ≤ 31, Converts (checkedResponseU16 (2 + n * 2)) ∧ Converts (checkedResponseU16 n)
  | _ => True

/-! ## The checks -/

theorem converts_u8 {n : Nat} (h : n < 256) : Converts (checkedResponseU8 n) := ⟨_, if_pos h⟩

theorem converts_u16 {n : Nat} (h : n < 65536) : Converts (checkedResponseU16 n) := ⟨_, if_pos h⟩

theorem validateAddressRange_ne {a q : UInt16} :
    validateAddressRange a q ≠ .error .illegalDataValue := fun h =>
  nomatch validateAddressRange_eq_error h

theorem validateRead_ne {max a q : UInt16} (h : InRange q max) :
    validateRead max a q ≠ .error .illegalDataValue := by
  rw [validateRead_of_inRange h]
  exact validateAddressRange_ne

theorem validateWrite_ne {max a q : UInt16} {expected : UInt16 → Nat} {n : UInt8}
    (h : InRange q max) (hn : n.toNat = expected q) :
    validateWrite max expected a q n ≠ .error .illegalDataValue := by
  rw [validateWrite_of_inRange h hn]
  exact validateAddressRange_ne

theorem validateMaskWriteAddress_eq_ok (a : UInt16) : validateMaskWriteAddress a = .ok () := by
  have := a.toNat_lt
  rw [validateMaskWriteAddress, validateAddressRange_eq_ok]
  show a.toNat + 1 ≤ 0x10000
  omega

theorem validateReadWriteRegisters_ne {ra rq wa wq : UInt16} {n : UInt8}
    (hrq : InRange rq maxRwRead) (hwq : InRange wq maxRwWrite) (hn : n.toNat = registerBytes wq) :
    validateReadWriteRegisters ra rq wa wq n ≠ .error .illegalDataValue := by
  rw [validateReadWriteRegisters_of_inRange hrq hwq hn]
  intro h
  rcases bind_eq_error.mp h with h | ⟨-, -, h⟩
  · exact validateAddressRange_ne h
  · exact validateAddressRange_ne h

theorem lt_of_inRange {q : UInt16} {max : UInt16} (h : InRange q max) {n : Nat}
    (hmax : max.toNat < n) : q.toNat < n := Nat.lt_of_le_of_lt h.bounds.2 hmax

variable {request : RequestPdu}

theorem deadChecks_of_valid (hv : request.Valid) : DeadChecks request := by
  cases request with
  | readCoils r | readDiscreteInputs r =>
    have hq : InRange r.quantity 2000 := hv
    have hlt : r.quantity.toNat < 2001 := lt_of_inRange hq (by decide)
    exact ⟨validateRead_ne hq, converts_u8 (by omega)⟩
  | readHoldingRegisters r | readInputRegisters r =>
    have hq : InRange r.quantity 125 := hv
    have hlt : r.quantity.toNat < 126 := lt_of_inRange hq (by decide)
    exact ⟨validateRead_ne hq, converts_u8 (by omega)⟩
  | writeMultipleCoils r | writeMultipleRegisters r => exact validateWrite_ne hv.1 hv.2.1
  | maskWriteRegister r => exact validateMaskWriteAddress_eq_ok r.address
  | readWriteMultipleRegisters r =>
    have hrq : InRange r.readQuantity 125 := hv.1
    have hlt : r.readQuantity.toNat < 126 := lt_of_inRange hrq (by decide)
    exact ⟨validateReadWriteRegisters_ne hv.1 hv.2.1 hv.2.2.1, converts_u8 (by omega)⟩
  | readFileRecord r =>
    obtain ⟨hpos, hle, gs, hdata⟩ := readRequest_groups hv
    refine ⟨readGroups_size hpos hle hdata, fun chunk hchunk => ?_,
      fun n hn => converts_u8 (by omega), fun n hn => converts_u8 (by omega)⟩
    rw [hdata, chunksExact_readGroups] at hchunk
    obtain ⟨g, -, rfl⟩ := List.mem_map.mp hchunk
    obtain ⟨href, hfile, hrec, hlen⟩ := readGroup_header g
    rw [hfile, hrec, hlen]
    exact ⟨href, validateRange_eq_ok.mpr g.property.2⟩
  | writeFileRecord r =>
    obtain ⟨gs, -, -, hparse⟩ := writeRequest_groups hv
    exact ⟨writeRequest_byteCount hv, _, hparse⟩
  | readFifoQueue r => exact fun n hn => ⟨converts_u16 (by omega), converts_u16 (by omega)⟩
  | _ => trivial

/-! ## The parts of the handlers -/

section

variable {request : RequestPdu} {past : StoreLog}

/-- A call to the store: it stands last in the log, and if it fails, that is the reason. -/
theorem explains_callStore (op : StoreOp) :
    Explains (Refusal request) (fun log a => log.getLast? = some ⟨op, .ok a⟩) (callStore op)
      past := by
  intro r
  refine ⟨fun e he => ?_, fun a ha => ?_⟩
  · obtain rfl : r = .error e := he
    exact .store List.getLast?_concat
  · obtain rfl : r = .ok a := ha
    exact List.getLast?_concat

/-- A check that passes. -/
theorem explains_ok {α : Type} {x : Except ExceptionCode α} (h : Converts x) :
    Explains (Refusal request) (fun log a => log = past ∧ x = .ok a) (orFail x) past := by
  obtain ⟨a, rfl⟩ := h
  exact .ofExcept nofun fun a' ha => ⟨rfl, ha⟩

theorem refusal_addressRange {a q : UInt16} {e : ExceptionCode}
    (h : (a, q) ∈ addressRanges request) (he : validateAddressRange a q = .error e) :
    Refusal request past e := by
  obtain ⟨hout, rfl⟩ := rejectIf_eq_error.mp he
  exact .outOfRange h hout

theorem explains_addressRange {a q : UInt16} (h : (a, q) ∈ addressRanges request) :
    Explains (Refusal request) (fun _ _ => True) (orFail (validateAddressRange a q)) past :=
  .ofExcept (fun _ he => refusal_addressRange h he) fun _ _ => trivial

theorem explains_validateWrite {max a q : UInt16} {expected : UInt16 → Nat} {n : UInt8}
    (hq : InRange q max) (hn : n.toNat = expected q) (h : (a, q) ∈ addressRanges request) :
    Explains (Refusal request) (fun _ _ => True) (orFail (validateWrite max expected a q n))
      past := by
  rw [validateWrite_of_inRange hq hn]
  exact explains_addressRange h

/-- The last call of the log has counted `n` items, which must be as many as were asked for. -/
def Counted (log : StoreLog) (n : Nat) (requested : UInt16) : Prop :=
  ∃ (op : StoreOp) (a : op.Answer), log.getLast? = some ⟨op, .ok a⟩ ∧
    (n ≠ requested.toNat → op.Miscounts a)

/-- The check of the count a store returned. -/
theorem explains_storeCount {n : Nat} {requested : UInt16} (hcounted : Counted past n requested) :
    Explains (Refusal request) (fun log m => log = past ∧ m = n ∧ n = requested.toNat)
      (orFail (validateStoreCount n requested requested.toNat)) past := by
  refine .ofExcept (fun e he => ?_) fun m hm => ?_
  · obtain ⟨op, a, hlast, hmiscounts⟩ := hcounted
    by_cases hn : n = requested.toNat
    · rw [validateStoreCount_eq_ok.mpr ⟨rfl, hn, Nat.le_of_eq hn⟩] at he
      cases he
    · rw [validateStoreCount, if_neg fun h => hn h.1] at he
      cases he
      exact .miscount hlast (hmiscounts hn)
  · obtain ⟨hm, hn, -⟩ := validateStoreCount_eq_ok.mp hm
    exact ⟨rfl, hm, hn⟩

theorem explains_readRegistersOf (isHolding : Bool) (a q : UInt16) (out : List UInt8) :
    Explains (Refusal request) (fun log r => Counted log r.1 q) (readRegistersOf isHolding a q out)
      past := by
  cases isHolding <;> exact (explains_callStore _).mono fun _ r hlast => ⟨_, r, hlast, id⟩

theorem explains_readBitsOf (isCoils : Bool) (a q : UInt16) (out : List UInt8) :
    Explains (Refusal request) (fun log r => Counted log r.1 q) (readBitsOf isCoils a q out)
      past := by
  cases isCoils <;> exact (explains_callStore _).mono fun _ r hlast => ⟨_, r, hlast, id⟩

theorem explains_writeGroups (groups : List WriteFileRecordGroup) :
    Explains (Refusal request) (fun _ _ => True) (writeGroups groups) past := by
  induction groups generalizing past with
  | nil => exact .pure trivial
  | cons g groups ih => exact .bind (explains_callStore _) fun _ _ _ => ih

/-- The loop of a file read: `front` has been read, and its answers are in `response`. -/
theorem explains_readFileRecordGroups {req : ReadFileRecordRequest}
    (hreq : request = .readFileRecord req) (front : List ReadGroup) {gs : List ReadGroup}
    (hdata : req.data = (front ++ gs).flatMap ReadGroup.wire) {response : List UInt8}
    (hlen : response.length = Files.replyLength front) (hroom : response.length ≤ 250) :
    Explains (Refusal request) (fun _ groups => groups.length ≤ 250)
      (readFileRecordGroups (gs.map ReadGroup.wire) response) past := by
  induction gs generalizing past front response with
  | nil => exact .pure hroom
  | cons g gs ih =>
    rw [List.map_cons, readFileRecordGroups_cons]
    refine .bind (P := fun _ _ => g.val.recordLength.toNat ≤ 122)
      (.ofExcept (fun e he => ?_) fun _ hok => Nat.not_lt.mp (rejectIf_eq_ok.mp hok))
      fun _ _ hshort => ?_
    · obtain ⟨hlong, rfl⟩ := rejectIf_eq_error.mp he
      exact .groupTooLong hreq hdata (List.mem_append_right _ List.mem_cons_self) hlong
    refine .bind (explains_callStore _) fun log result hlast => ?_
    have hcounted : Counted log result.1 g.val.recordLength := ⟨_, result, hlast, id⟩
    refine .bind (explains_storeCount hcounted) fun _ m hm => ?_
    obtain ⟨-, rfl, hn⟩ := hm
    refine .bind (explains_ok (converts_u8 (by omega))) fun _ respLen _ => ?_
    -- what has been read so far, this group included
    have hfront : (response ++ respLen :: 0x06 :: result.2.val).length
        = Files.replyLength (front ++ [g]) := by
      rw [Files.replyLength_append, List.length_append, hlen, List.length_cons, List.length_cons,
        result.2.property, List.length_replicate]
      show _ = Files.replyLength front + (2 + 2 * g.val.recordLength.toNat + 0)
      omega
    have hdata : req.data = ((front ++ [g]) ++ gs).flatMap ReadGroup.wire := by
      rw [hdata, List.append_cons]
    refine .bind
      (P := fun _ _ => (response ++ respLen :: 0x06 :: result.2.val).length ≤ 250)
      (.ofExcept (fun e he => ?_) fun _ hok => Nat.not_lt.mp (rejectIf_eq_ok.mp hok))
      fun _ _ hfits => ih (front ++ [g]) hdata hfront hfits
    obtain ⟨hlong, rfl⟩ := rejectIf_eq_error.mp he
    refine .replyTooLong hreq hdata ?_
    rw [Files.replyLength_append, ← hfront]
    exact Nat.lt_of_lt_of_le hlong (Nat.le_add_right _ _)

end

/-! ## The handlers -/

/-- A reply, if it is an exception, has a reason. -/
def Justified (request : RequestPdu) (fc : FunctionCode) (log : StoreLog) (reply : List UInt8) :
    Prop :=
  IsExceptionPdu reply → ∃ ec, reply = encodeException fc.exceptionCode ec ∧ Refusal request log ec

variable {fc : FunctionCode} {past : StoreLog}

theorem ensures_answer {h : Handler (List UInt8)}
    (hh : Explains (Refusal request) (fun _ r => ¬IsExceptionPdu r) h past) :
    (answer fc h).Ensures (Justified request fc) past := by
  refine Program.ensures_bind.mpr (Program.Ensures.mono (fun log r hr => ?_) hh)
  cases r with
  | ok response => exact fun hexc => absurd hexc (hr.2 response rfl)
  | error ec => exact fun _ => ⟨ec, rfl, hr.1 ec rfl⟩

/-- What the program of a request to one unit promises. -/
def Replied (request : RequestPdu) (fc : FunctionCode) (log : StoreLog)
    (reply : Option (List UInt8)) : Prop :=
  ∃ bytes, reply = some bytes ∧ Justified request fc log bytes

theorem ensures_ask {p : StoreProgram (List UInt8)} (h : p.Ensures (Justified request fc) past) :
    (ask false p).Ensures (Replied request fc) past :=
  Program.ensures_bind.mpr (h.mono fun _ reply hreply => ⟨reply, rfl, hreply⟩)

theorem ensures_command {apply : Handler Unit} {response : List UInt8}
    (h : Explains (Refusal request) (fun _ _ => True) apply past)
    (hresponse : ¬IsExceptionPdu response) :
    (command false fc apply response).Ensures (Replied request fc) past := by
  refine Program.ensures_bind.mpr (Program.Ensures.mono (fun log r hr => ?_) h)
  cases r with
  | ok u => exact ⟨response, rfl, fun hexc => absurd hexc hresponse⟩
  | error ec => exact ⟨_, rfl, fun _ => ⟨ec, rfl, hr.1 ec rfl⟩⟩

theorem not_isExceptionPdu_code (fc : FunctionCode) (h : ∀ b, fc ≠ .custom b) (data : List UInt8) :
    ¬IsExceptionPdu (fc.code :: data) :=
  not_isExceptionPdu (FunctionCode.fromRaw_code h)

section

variable {request : RequestPdu}

theorem ensures_handleReadRegisters {fc : FunctionCode} {a q : UInt16} {isHolding : Bool}
    (hq : InRange q maxReadRegisters) (hmem : (a, q) ∈ addressRanges request) :
    (handleReadRegisters fc a q isHolding).Ensures (Justified request fc) [] := by
  have hlt : q.toNat < 126 := lt_of_inRange hq (by decide)
  refine ensures_answer ?_
  rw [validateReadRegisters, validateRead_of_inRange hq]
  refine .bind (explains_addressRange hmem) fun _ _ _ => ?_
  refine .bind (explains_ok (converts_u8 (by omega))) fun _ byteCount _ => ?_
  refine .bind (explains_readRegistersOf _ _ _ _) fun _ _ hcounted => ?_
  refine .bind (explains_storeCount hcounted) fun _ _ _ => .pure ?_
  cases isHolding with
  | true => exact not_isExceptionPdu_code .readHoldingRegisters nofun _
  | false => exact not_isExceptionPdu_code .readInputRegisters nofun _

theorem ensures_handleReadBits {fc : FunctionCode} {a q : UInt16} {isCoils : Bool}
    (hq : InRange q maxReadCoils) (hmem : (a, q) ∈ addressRanges request) :
    (handleReadBits fc a q isCoils).Ensures (Justified request fc) [] := by
  have hlt : q.toNat < 2001 := lt_of_inRange hq (by decide)
  refine ensures_answer ?_
  rw [validateReadBits_eq, validateRead_of_inRange (show InRange q 2000 from hq)]
  refine .bind (explains_addressRange hmem) fun _ _ _ => ?_
  refine .bind (explains_ok (converts_u8 (by omega))) fun _ byteCount _ => ?_
  refine .bind (explains_readBitsOf _ _ _ _) fun _ _ hcounted => ?_
  refine .bind (explains_storeCount hcounted) fun _ _ _ => .pure ?_
  cases isCoils with
  | true => exact not_isExceptionPdu_code .readCoils nofun _
  | false => exact not_isExceptionPdu_code .readDiscreteInputs nofun _

theorem ensures_handleReadWriteMultiple {req : ReadWriteMultipleRegistersRequest}
    (hv : req.Valid) :
    (handleReadWriteMultiple req).Ensures
      (Justified (.readWriteMultipleRegisters req) .readWriteMultipleRegisters) [] := by
  have hrq : InRange req.readQuantity 125 := hv.1
  have hlt : req.readQuantity.toNat < 126 := lt_of_inRange hrq (by decide)
  refine ensures_answer ?_
  rw [validateReadWriteRegisters_of_inRange hv.1 hv.2.1 hv.2.2.1]
  refine .bind (P := fun _ _ => True)
    (.ofExcept (fun e he => ?_) fun _ _ => trivial) fun _ _ _ => ?_
  · rcases bind_eq_error.mp he with he | ⟨-, -, he⟩
    · exact refusal_addressRange List.mem_cons_self he
    · exact refusal_addressRange (List.mem_cons_of_mem _ List.mem_cons_self) he
  refine .bind (explains_ok (converts_u8 (by omega))) fun _ byteCount _ => ?_
  refine .bind (explains_callStore _) fun log result hlast => ?_
  have hcounted : Counted log result.1 req.readQuantity := ⟨_, result, hlast, id⟩
  refine .bind (explains_storeCount hcounted) fun _ _ _ => .pure ?_
  exact not_isExceptionPdu_code .readWriteMultipleRegisters nofun _

theorem ensures_handleReadFileRecord {req : ReadFileRecordRequest}
    (hv : (RequestPdu.readFileRecord req).Valid) :
    (handleReadFileRecord req).Ensures (Justified (.readFileRecord req) .readFileRecord) [] := by
  obtain ⟨hpos, hle, gs, hdata⟩ := readRequest_groups hv
  rw [handleReadFileRecord_groups hpos hle hdata]
  refine ensures_answer <| .bind
    (explains_readFileRecordGroups rfl [] hdata rfl (Nat.zero_le _))
    fun _ groups hgroups => ?_
  refine .bind (explains_ok (converts_u8 (by omega))) fun _ _ _ => .pure ?_
  exact not_isExceptionPdu_code .readFileRecord nofun _

theorem ensures_handleReadFifoQueue (address : UInt16) :
    (handleReadFifoQueue address).Ensures (Justified request .readFifoQueue) [] := by
  refine ensures_answer <| .bind (explains_callStore _) fun log result hlast => ?_
  refine .bind (P := fun _ _ => result.1 ≤ 31)
    (.ofExcept (fun e he => ?_) fun _ hok => Nat.not_lt.mp (rejectIf_eq_ok.mp hok))
    fun _ _ hle => ?_
  · obtain ⟨hlong, rfl⟩ := rejectIf_eq_error.mp he
    exact .overfull hlast hlong
  refine .bind (explains_ok (converts_u16 (by omega))) fun _ _ _ => ?_
  refine .bind (explains_ok (converts_u16 (by omega))) fun _ _ _ => .pure ?_
  exact not_isExceptionPdu_code .readFifoQueue nofun _

end

/-! ## Dispatch -/

/-- The function codes of the tables, the files and the queues. -/
def tableFunctions : List UInt8 :=
  [0x01, 0x02, 0x03, 0x04, 0x05, 0x06, 0x0F, 0x10, 0x14, 0x15, 0x16, 0x17, 0x18]

theorem not_custom_of_mem : ∀ b ∈ tableFunctions, FunctionCode.fromRaw b ≠ some (.custom b) := by
  have hall : tableFunctions.all (fun b => FunctionCode.fromRaw b != some (.custom b)) = true := rfl
  exact fun b hb => bne_iff_ne.mp (List.all_eq_true.mp hall b hb)

theorem ensures_dispatchRequest {pdu : List UInt8} (unitId : UnitId)
    (deviceId : DeviceIdentification) (hv : request.Valid) (hlen : request.wire.length ≤ maxPduSize)
    (hfc : request.functionCode.code ∈ tableFunctions) :
    (dispatchRequest request pdu unitId false deviceId).Ensures
      (Replied request request.functionCode) [] := by
  cases request with
  | readHoldingRegisters req | readInputRegisters req =>
    exact ensures_ask (ensures_handleReadRegisters hv List.mem_cons_self)
  | readCoils req | readDiscreteInputs req =>
    exact ensures_ask (ensures_handleReadBits hv List.mem_cons_self)
  | writeSingleRegister req =>
    exact ensures_command ((explains_callStore _).mono fun _ _ _ => trivial)
      (not_isExceptionPdu_encodeResponse (WriteSingleRegister.encodeInto_emits _) trivial (by simp))
  | writeSingleCoil req =>
    exact ensures_command ((explains_callStore _).mono fun _ _ _ => trivial)
      (not_isExceptionPdu_encodeResponse (WriteSingleCoil.encodeInto_emits _) trivial (by simp))
  | writeMultipleRegisters req | writeMultipleCoils req =>
    refine ensures_command ?_ (not_isExceptionPdu_encodeResponse
      (AddressRange.encodeInto_emits _ _ _) hv.1 (by simp))
    exact .bind (explains_validateWrite hv.1 hv.2.1 List.mem_cons_self) fun _ _ _ =>
      (explains_callStore _).mono fun _ _ _ => trivial
  | maskWriteRegister req =>
    refine ensures_command ?_ (not_isExceptionPdu_encodeResponse
      (MaskWriteRegister.encodeInto_emits _) trivial (by simp))
    exact .bind (explains_ok ⟨(), validateMaskWriteAddress_eq_ok _⟩) fun _ _ _ =>
      (explains_callStore _).mono fun _ _ _ => trivial
  | readWriteMultipleRegisters req => exact ensures_ask (ensures_handleReadWriteMultiple hv)
  | readFileRecord req => exact ensures_ask (ensures_handleReadFileRecord hv)
  | writeFileRecord req =>
    obtain ⟨gs, -, -, hparse⟩ := writeRequest_groups hv
    rw [dispatchRequest, applyWriteFileRecord_groups hv hparse,
      encodeResponse_writeFileRecord hv hlen]
    exact ensures_command (explains_writeGroups _)
      (not_isExceptionPdu_code .writeFileRecord (by simp) _)
  | readFifoQueue req => exact ensures_ask (ensures_handleReadFifoQueue _)
  | custom fc data => exact absurd hv (not_custom_of_mem fc hfc)
  | diagnostics req =>
    exact absurd hfc (show FunctionCode.diagnostics.code ∉ tableFunctions by decide)
  | encapsulatedInterface req =>
    exact absurd hfc (show FunctionCode.encapsulatedInterfaceTransport.code ∉ tableFunctions by decide)
  | _ => exact absurd hfc (by decide)

/-- Behind the decoder the handlers' own checks of values, groups and counts are dead. Whatever the
store does, a request is refused only for one of the reasons of `Refusal`. -/
theorem revalidation_dead {pdu : List UInt8} {request : RequestPdu}
    (h : decodeRequest pdu = .ok request) (hfc : ∃ fc ∈ tableFunctions, pdu.head? = some fc)
    {unitId : UnitId} (hunit : unitId ≠ 0) (deviceId : DeviceIdentification) :
    DeadChecks request ∧
      ∀ {σ : Type} (store : DataStore σ) (s : σ),
        ∃ reply, ((processRequest pdu unitId deviceId).run store s).1 = some reply ∧
          (IsExceptionPdu reply →
            ∃ ec, reply = encodeException request.functionCode.exceptionCode ec ∧
              Refusal request ((processRequest pdu unitId deviceId).trace store s) ec) := by
  obtain ⟨rfl, hv, hlen⟩ := decodeRequest_eq_ok.mp h
  obtain ⟨fc, hmem, hhead⟩ := hfc
  obtain rfl : request.functionCode.code = fc := Option.some.inj hhead
  refine ⟨deadChecks_of_valid hv, fun store s => ?_⟩
  have hprogram : processRequest request.wire unitId deviceId
      = dispatchRequest request request.wire unitId false deviceId := by
    rw [processRequest, h, show isBroadcast unitId = false from beq_eq_false_iff_ne.mpr hunit]
  rw [hprogram]
  exact (ensures_dispatchRequest unitId deviceId hv hlen hmem).run store s

theorem revalidation_dead_readCoils :
    DeadChecks (.readCoils { address := 0, quantity := 1 }) ∧
      ∀ {σ : Type} (store : DataStore σ) (s : σ),
        ∃ reply, ((processRequest [0x01, 0, 0, 0, 1] 1 unnamedDevice).run store s).1 = some reply ∧
          (IsExceptionPdu reply →
            ∃ ec, reply = encodeException FunctionCode.readCoils.exceptionCode ec ∧
              Refusal (.readCoils { address := 0, quantity := 1 })
                ((processRequest [0x01, 0, 0, 0, 1] 1 unnamedDevice).trace store s) ec) :=
  have hdecode : decodeRequest [0x01, 0, 0, 0, 1] = .ok (.readCoils { address := 0, quantity := 1 }) :=
    rfl
  have hunit : (1 : UnitId) ≠ 0 := by decide
  revalidation_dead hdecode ⟨0x01, by decide, rfl⟩ hunit unnamedDevice

end RustyModbus.Server
