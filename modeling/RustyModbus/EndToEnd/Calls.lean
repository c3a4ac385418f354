import RustyModbus.EndToEnd.Server

/-!
# A call is one exchange

What the methods of a client come down to when their arguments are within the limits of the
protocol. The request is encoded and sent to the unit, and of what comes back one kind of response
is looked at (`IsExchange`). Nothing is said here about who answers: against the server of this
repository the calls are those of four arrays, against any other one they still return nothing but
what the bytes say.
-/

namespace RustyModbus.EndToEnd

open Wire Interaction Server Client

variable {retry : RetryConfig} {unitId : UnitId}

/-! ## Limits -/

theorem limitError_eq_none {count max : Nat} :
    limitError count max = none ↔ 1 ≤ count ∧ count ≤ max := by
  simp [limitError]

theorem inRange_of_limitError {q max : UInt16} (h : limitError q.toNat max.toNat = none) :
    InRange q max :=
  inRange_iff.mpr (limitError_eq_none.mp h)

theorem limitError_of_not_inRange {q max : UInt16} (h : ¬InRange q max) :
    limitError q.toNat max.toNat = some (.quantityOutOfRange q) := by
  have hq := q.toNat_lt
  have hlimit : ¬(1 ≤ q.toNat ∧ q.toNat ≤ max.toNat) := fun hb => h (inRange_iff.mpr hb)
  rw [limitError, if_neg hlimit, Nat.min_eq_left (by omega), UInt16.ofNat_toNat]

theorem checkedQuantityLen_of_limitError {len max : Nat} {e : EncodeError}
    (h : limitError len max = some e) : checkedQuantityLen len max = .error (.encode e) := by
  have hlimit : ¬(1 ≤ len ∧ len ≤ max) := fun hb => by
    rw [limitError_eq_none.mpr hb] at h
    nomatch h
  rw [limitError, if_neg hlimit, Option.some.injEq] at h
  have hquantity : (if len < 65536 then UInt16.ofNat len else 65535)
      = UInt16.ofNat (min len 65535) := by
    by_cases hlen : len < 65536
    · rw [if_pos hlen, Nat.min_eq_left (by omega)]
    · rw [if_neg hlen, Nat.min_eq_right (by omega)]
      rfl
  rw [checkedQuantityLen, if_pos (by omega), hquantity, h]

/-- A number of values within the limit is a quantity on the wire. -/
theorem checkedQuantityLen_of_le {len max : Nat} (hmax : max < 65536) (hpos : 1 ≤ len)
    (hle : len ≤ max) :
    ∃ q, checkedQuantityLen len max = .ok q ∧ q.toNat = len := by
  refine ⟨UInt16.ofNat len, ?_, UInt16.toNat_ofNat_of_lt' (Nat.lt_of_le_of_lt hle hmax)⟩
  rw [checkedQuantityLen, if_neg (by omega), if_pos (by omega)]

theorem checkedByteCountLen_of_lt {len : Nat} (h : len < 256) :
    ∃ n, checkedByteCountLen len = .ok n ∧ n.toNat = len := by
  refine ⟨UInt8.ofNat len, ?_, UInt8.toNat_ofNat_of_lt' h⟩
  rw [checkedByteCountLen, checkedByteCountValue, if_neg (by omega), if_pos h]

variable {values : List UInt16}

/-- The quantity and the byte count of registers within the limit. -/
theorem exists_registerCount {limit : Nat} {max : UInt16} (hmax : max.toNat = limit)
    (hlt : limit < 128) (hlimit : limitError values.length limit = none) :
    ∃ q n, checkedQuantityLen values.length limit = .ok q ∧
      checkedByteCountLen (values.length * 2) = .ok n ∧
      q.toNat = values.length ∧ InRange q max ∧ n.toNat = registerBytes q := by
  obtain ⟨hpos, hle⟩ := limitError_eq_none.mp hlimit
  obtain ⟨q, hquantity, hq⟩ := @checkedQuantityLen_of_le _ limit (by omega) hpos hle
  obtain ⟨n, hbytes, hn⟩ := @checkedByteCountLen_of_lt (values.length * 2) (by omega)
  exact ⟨q, n, hquantity, hbytes, hq, inRange_iff.mpr ⟨by omega, by omega⟩,
    by rw [hn, registerBytes, hq]⟩

/-! ## Exchanges -/

/-- The check of a method looks at responses of the kind `kind` only, and accepts what `accept`
accepts. -/
structure LooksAt {α β : Type} (check : OwnedResponsePdu → Option (Except ClientError α))
    (kind : β → OwnedResponsePdu) (accept : β → Except ClientError α) : Prop where
  hit : ∀ d, check (kind d) = some (accept d)
  miss : ∀ r, (∀ d, r ≠ kind d) → check r = none
  normal : ∀ d exc, kind d ≠ .exception exc

/-- The call sends `request` and returns what is accepted of its response. -/
structure IsExchange (retry : RetryConfig) (unitId : UnitId) (c : ClientCall)
    (request : RequestPdu) {α β : Type} (kind : β → OwnedResponsePdu)
    (accept : β → Except ClientError α) (toValue : α → Value) : Prop where
  method_eq : ∃ replay check, LooksAt check kind accept ∧ c.method retry unitId =
    exchange retry unitId request.functionCode request.wire replay check >>= fun a =>
      pure (toValue a)
  functionCode : c.functionCode = request.functionCode
  length_le : request.wire.length ≤ maxPduSize

section

variable {α β : Type} {check : OwnedResponsePdu → Option (Except ClientError α)}
  {kind : β → OwnedResponsePdu} {accept : β → Except ClientError α}

theorem LooksAt.typedResponse (h : LooksAt check kind accept) (d : β) :
    typedResponse check (kind d) = accept d := by
  unfold Client.typedResponse
  rw [h.hit]

theorem LooksAt.exception (h : LooksAt check kind accept) (exc : ExceptionResponse) :
    check (.exception exc) = none :=
  h.miss _ fun d hd => h.normal d exc hd.symm

end

theorem IsExchange.of_method {c : ClientCall} {α β : Type} {kind : β → OwnedResponsePdu}
    {check : OwnedResponsePdu → Option (Except ClientError α)} {accept : β → Except ClientError α}
    {toValue : α → Value} (request : RequestPdu) (replay : RequestKind)
    (hm : c.method retry unitId =
      exchange retry unitId request.functionCode request.wire replay check >>= fun a =>
        pure (toValue a))
    (hfc : c.functionCode = request.functionCode) (hlen : request.wire.length ≤ maxPduSize)
    (hlooks : LooksAt check kind accept) :
    IsExchange retry unitId c request kind accept toValue :=
  ⟨⟨replay, check, hlooks, hm⟩, hfc, hlen⟩

theorem orReturn_ok_bind {α β : Type} (a : α) (f : α → ClientMethod β) :
    (orReturn (.ok a) >>= f) = f a := rfl

/-! ## Reads -/

variable (hunit : unitId ≠ 0)

include hunit

section Reads

variable {max a q : UInt16} {α : Type} {check : OwnedResponsePdu → Option (Except ClientError α)}

theorem read_of_inRange (fc : FunctionCode) (hq : InRange q max) :
    read retry fc max unitId a q check =
      exchange retry unitId fc (fc.code :: AddressRange.body ⟨a, q⟩) .replaySafe check := by
  rw [Client.read, rejectIf_neg hunit]
  dsimp only
  rw [encodeRequest_sendable (AddressRange.encodeInto_emits fc max ⟨a, q⟩) hq (Nat.le_refl 5)]
  rfl

theorem read_of_not_inRange (fc : FunctionCode) (hq : ¬InRange q max) :
    read retry fc max unitId a q check = orReturn (.error (.encode (.quantityOutOfRange q))) := by
  rw [Client.read, rejectIf_neg hunit]
  dsimp only
  rw [encodeRequest_addressRange_refused hq]
  rfl

/-- A read within its limit. -/
theorem isExchange_read {c : ClientCall} {β : Type} {kind : β → OwnedResponsePdu}
    {accept : β → Except ClientError α} {toValue : α → Value} (request : RequestPdu)
    (hq : InRange q max)
    (hm : c.method retry unitId =
      read retry request.functionCode max unitId a q check >>= fun a => pure (toValue a))
    (hfc : c.functionCode = request.functionCode) (hbody : request.body = AddressRange.body ⟨a, q⟩)
    (hlooks : LooksAt check kind accept) :
    IsExchange retry unitId c request kind accept toValue := by
  rw [read_of_inRange hunit _ hq, ← hbody] at hm
  refine .of_method request .replaySafe hm hfc ?_ hlooks
  rw [RequestPdu.wire, hbody]
  exact show 5 ≤ 253 by decide

end Reads

variable {a q : UInt16}

theorem isExchange_readCoils (hq : InRange q 2000) :
    IsExchange retry unitId (.readCoils a q) (.readCoils ⟨a, q⟩)
      ResponsePdu.readCoils (bitValues .readCoils q) .bits :=
  isExchange_read hunit _ hq rfl rfl rfl ⟨fun _ => rfl, fun r => by cases r <;> simp, by simp⟩

theorem isExchange_readDiscreteInputs (hq : InRange q 2000) :
    IsExchange retry unitId (.readDiscreteInputs a q) (.readDiscreteInputs ⟨a, q⟩)
      ResponsePdu.readDiscreteInputs (bitValues .readDiscreteInputs q) .bits :=
  isExchange_read hunit _ hq rfl rfl rfl ⟨fun _ => rfl, fun r => by cases r <;> simp, by simp⟩

theorem isExchange_readHoldingRegisters (hq : InRange q 125) :
    IsExchange retry unitId (.readHoldingRegisters a q) (.readHoldingRegisters ⟨a, q⟩)
      ResponsePdu.readHoldingRegisters (registerValues .readHoldingRegisters q) .registers :=
  isExchange_read hunit _ hq rfl rfl rfl ⟨fun _ => rfl, fun r => by cases r <;> simp, by simp⟩

theorem isExchange_readInputRegisters (hq : InRange q 125) :
    IsExchange retry unitId (.readInputRegisters a q) (.readInputRegisters ⟨a, q⟩)
      ResponsePdu.readInputRegisters (registerValues .readInputRegisters q) .registers :=
  isExchange_read hunit _ hq rfl rfl rfl ⟨fun _ => rfl, fun r => by cases r <;> simp, by simp⟩

/-! ## Writes -/

/-- A write that has been encoded to `request`. -/
theorem isExchange_write {c : ClientCall} {β : Type} {kind : β → OwnedResponsePdu}
    {check : OwnedResponsePdu → Option (Except ClientError Unit)}
    {accept : β → Except ClientError Unit} {method : ClientMethod Unit} (request : RequestPdu)
    (hc : c.method retry unitId = method >>= fun _ => pure Value.done)
    (hm : method = write retry request.functionCode unitId request.wire check)
    (hfc : c.functionCode = request.functionCode) (hlen : request.wire.length ≤ maxPduSize)
    (hlooks : LooksAt check kind accept) :
    IsExchange retry unitId c request kind accept fun _ => .done := by
  rw [hm, write, if_neg hunit] at hc
  exact .of_method request .mutating hc hfc hlen hlooks

theorem isExchange_writeSingleCoil (a : UInt16) (v : Bool) :
    IsExchange retry unitId (.writeSingleCoil a v) (.writeSingleCoil ⟨a, CoilValue.fromBool v⟩)
      ResponsePdu.writeSingleCoil
      (fun resp => do
        expectEcho "address" a resp.address
        expectEcho "value" (CoilValue.fromBool v).toWire resp.value.toWire)
      fun _ => .done := by
  have hencode := encodeRequest_sendable
    (WriteSingleCoil.encodeInto_emits { address := a, value := CoilValue.fromBool v }) trivial
    (Nat.le_refl 5)
  apply isExchange_write hunit (.writeSingleCoil ⟨a, CoilValue.fromBool v⟩)
  case hc => rfl
  case hm =>
    rw [writeSingleCoil]
    dsimp only
    rw [hencode]
    rfl
  case hfc => rfl
  case hlen => exact show 5 ≤ 253 by decide
  case hlooks => exact ⟨fun _ => rfl, fun r => by cases r <;> simp, by simp⟩

theorem isExchange_writeSingleRegister (a v : UInt16) :
    IsExchange retry unitId (.writeSingleRegister a v) (.writeSingleRegister ⟨a, v⟩)
      ResponsePdu.writeSingleRegister
      (fun resp => do
        expectEcho "address" a resp.address
        expectEcho "value" v resp.value)
      fun _ => .done := by
  have hencode := encodeRequest_sendable
    (WriteSingleRegister.encodeInto_emits { address := a, value := v }) trivial (Nat.le_refl 5)
  apply isExchange_write hunit (.writeSingleRegister ⟨a, v⟩)
  case hc => rfl
  case hm =>
    rw [writeSingleRegister, hencode]
    rfl
  case hfc => rfl
  case hlen => exact show 5 ≤ 253 by decide
  case hlooks => exact ⟨fun _ => rfl, fun r => by cases r <;> simp, by simp⟩

theorem isExchange_maskWriteRegister (a andMask orMask : UInt16) :
    IsExchange retry unitId (.maskWriteRegister a andMask orMask)
      (.maskWriteRegister ⟨a, andMask, orMask⟩) ResponsePdu.maskWriteRegister
      (fun resp => do
        expectEcho "address" a resp.address
        expectEcho "and_mask" andMask resp.andMask
        expectEcho "or_mask" orMask resp.orMask)
      fun _ => .done := by
  have hencode := encodeRequest_sendable
    (MaskWriteRegister.encodeInto_emits { address := a, andMask, orMask }) trivial (Nat.le_refl 7)
  apply isExchange_write hunit (.maskWriteRegister ⟨a, andMask, orMask⟩)
  case hc => rfl
  case hm =>
    rw [maskWriteRegister, hencode]
    rfl
  case hfc => rfl
  case hlen => exact show 7 ≤ 253 by decide
  case hlooks => exact ⟨fun _ => rfl, fun r => by cases r <;> simp, by simp⟩

/-- The coils are packed as the server unpacks them. -/
theorem isExchange_writeMultipleCoils (a : UInt16) {values : List Bool}
    (hlimit : limitError values.length 1968 = none) :
    ∃ (q : UInt16) (n : UInt8), q.toNat = values.length ∧ InRange q maxWriteCoils ∧
      n.toNat = coilBytes q ∧ (packCoils values n.toNat).length = n.toNat ∧
      CarriesBits values (packCoils values n.toNat) ∧
      IsExchange retry unitId (.writeMultipleCoils a values)
        (.writeMultipleCoils ⟨a, q, n, packCoils values n.toNat⟩) ResponsePdu.writeMultipleCoils
        (fun resp => do
          expectEcho "address" a resp.address
          expectEcho "quantity" q resp.quantity)
        fun _ => .done := by
  obtain ⟨hpos, hle⟩ := limitError_eq_none.mp hlimit
  obtain ⟨q, hquantity, hq⟩ := @checkedQuantityLen_of_le _ 1968 (by decide) hpos hle
  obtain ⟨n, hbytes, hn⟩ := @checkedByteCountLen_of_lt ((values.length + 7) / 8) (by omega)
  obtain ⟨hpacked, hbits⟩ := carriesBits_packCoils values
  rw [← hn] at hpacked hbits
  have hrange : InRange q maxWriteCoils := inRange_iff.mpr ⟨by omega, hq ▸ hle⟩
  have hcount : n.toNat = coilBytes q := by rw [hn, coilBytes, hq]
  let req : WriteMultipleRequest := ⟨a, q, n, packCoils values n.toNat⟩
  obtain ⟨hv, hlen⟩ := @writeMultipleCoils_valid a q n _ hrange hcount hpacked.symm
  have hencode := encodeRequest_pdu
    (WriteMultipleRequest.encodeInto_emits .writeMultipleCoils 1968 coilBytes req) ⟨hv, hlen⟩ hlen
  refine ⟨q, n, hq, hrange, hcount, hpacked, hbits, ?_⟩
  apply isExchange_write hunit (.writeMultipleCoils req)
  case hc => rfl
  case hm =>
    rw [writeMultipleCoils, maxWriteMultipleCoils, hquantity, hbytes]
    dsimp only [orReturn_ok_bind]
    rw [WriteMultipleCoilsRequest.encodeInto, hencode]
    rfl
  case hfc => rfl
  case hlen => exact hlen
  case hlooks => exact ⟨fun _ => rfl, fun r => by cases r <;> simp, by simp⟩

theorem isExchange_writeMultipleRegisters (a : UInt16)
    (hlimit : limitError values.length 123 = none) :
    ∃ (q : UInt16) (n : UInt8), q.toNat = values.length ∧ InRange q maxWriteRegisters ∧
      n.toNat = registerBytes q ∧
      IsExchange retry unitId (.writeMultipleRegisters a values)
        (.writeMultipleRegisters ⟨a, q, n, values.flatMap toBeBytes⟩)
        ResponsePdu.writeMultipleRegisters
        (fun resp => do
          expectEcho "address" a resp.address
          expectEcho "quantity" q resp.quantity)
        fun _ => .done := by
  obtain ⟨q, n, hquantity, hbytes, hq, hrange, hcount⟩ :=
    @exists_registerCount values 123 maxWriteRegisters rfl (by decide) hlimit
  let req : WriteMultipleRequest := ⟨a, q, n, values.flatMap toBeBytes⟩
  obtain ⟨hv, hlen⟩ := @writeMultipleRegisters_valid a q n _ hrange hcount hq
  have hencode := encodeRequest_pdu
    (WriteMultipleRequest.encodeInto_emits .writeMultipleRegisters 123 registerBytes req)
    ⟨hv, hlen⟩ hlen
  refine ⟨q, n, hq, hrange, hcount, ?_⟩
  apply isExchange_write hunit (.writeMultipleRegisters req)
  case hc => rfl
  case hm =>
    rw [writeMultipleRegisters, maxWriteMultipleRegisters, hquantity, hbytes,
      packRegisters_eq]
    dsimp only [orReturn_ok_bind]
    rw [WriteMultipleRegistersRequest.encodeInto, hencode]
    rfl
  case hfc => rfl
  case hlen => exact hlen
  case hlooks => exact ⟨fun _ => rfl, fun r => by cases r <;> simp, by simp⟩

theorem isExchange_readWriteMultipleRegisters (ra wa : UInt16) {rq : UInt16}
    (hread : InRange rq maxRwRead) (hlimit : limitError values.length 121 = none) :
    ∃ (q : UInt16) (n : UInt8), q.toNat = values.length ∧ InRange q maxRwWrite ∧
      n.toNat = registerBytes q ∧
      IsExchange retry unitId (.readWriteMultipleRegisters ra rq wa values)
        (.readWriteMultipleRegisters ⟨ra, rq, wa, q, n, values.flatMap toBeBytes⟩)
        ResponsePdu.readWriteMultipleRegisters (registerValues .readWriteMultipleRegisters rq)
        .registers := by
  obtain ⟨q, n, hquantity, hbytes, hq, hrange, hcount⟩ :=
    @exists_registerCount values 121 maxRwWrite rfl (by decide) hlimit
  let req : ReadWriteMultipleRegistersRequest := ⟨ra, rq, wa, q, n, values.flatMap toBeBytes⟩
  obtain ⟨hv, hlen⟩ := @readWriteMultiple_valid ra rq wa q n _ hread hrange hcount hq
  have hencode := encodeRequest_pdu (ReadWriteMultipleRegistersRequest.encodeInto_emits req)
    ⟨hv, hlen⟩ hlen
  refine ⟨q, n, hq, hrange, hcount, ?_⟩
  apply IsExchange.of_method (.readWriteMultipleRegisters req) .mutating
  case hm =>
    rw [ClientCall.method, readWriteMultipleRegisters, rejectIf_neg hunit,
      maxReadWriteMultipleWriteRegisters, hquantity, hbytes, packRegisters_eq]
    dsimp only [orReturn_ok_bind]
    rw [hencode]
    rfl
  case hfc => rfl
  case hlen => exact hlen
  case hlooks => exact ⟨fun _ => rfl, fun r => by cases r <;> simp, by simp⟩

end RustyModbus.EndToEnd
