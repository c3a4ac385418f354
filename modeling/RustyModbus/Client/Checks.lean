import RustyModbus.Client.Methods

/-!
# The checks around an exchange

What a method does before it sends and after it has received: when its arguments can be
encoded and to which bytes, and which responses pass its checks with which values.
-/

namespace RustyModbus.Client

open Wire Interaction Encoder

/-! ## Encoding -/

variable {m : Encoder EncodeError Nat}

theorem encodeRequest_sendable {len size : Nat} {P : Prop} {wire : List UInt8}
    (hm : Emits m len P wire) (hP : P) (hsize : len ≤ size) :
    encodeRequest m size = .ok wire := by
  have hrun : m.run (List.replicate size 0) = .ok len (wire ++ (List.replicate size 0).drop len) :=
    hm.written _ (by rwa [List.length_replicate]) hP
  rw [encodeRequest, hrun]
  dsimp only
  rw [← hm.length hP, List.take_left]

/-- A PDU fits the buffer for the largest one. -/
theorem encodeRequest_pdu {len : Nat} {P : Prop} {wire : List UInt8} (hm : Emits m len P wire)
    (hP : P) (hlen : wire.length ≤ maxPduSize) :
    encodeRequest m 256 = .ok wire := by
  have hsize : maxPduSize ≤ 256 := by decide
  exact encodeRequest_sendable hm hP (hm.length hP ▸ Nat.le_trans hlen hsize)

theorem encodeRequest_reserve {len size : Nat} {f : Nat → EncodeError} (h : len ≤ size) :
    encodeRequest (do reserve len f; m) size = encodeRequest m size := by
  have hrun : (do reserve len f; m).run (List.replicate size 0) = m.run (List.replicate size 0) :=
    reserve_bind_of_le (by rwa [List.length_replicate])
  rw [encodeRequest, hrun, encodeRequest]

theorem encodeRequest_check_error (e : EncodeError) (size : Nat) :
    encodeRequest (do Encoder.check (.error e); m) size = .error (.encode e) := rfl

theorem checkQuantity_of_not_inRange {q max : UInt16} (h : ¬InRange q max) :
    EncodeError.checkQuantity q max = .error (.quantityOutOfRange q) :=
  if_pos (Decidable.not_not.mp h)

variable {fc : FunctionCode}

theorem encodeRequest_addressRange_refused {max : UInt16} {req : AddressRange}
    (h : ¬InRange req.quantity max) :
    encodeRequest (req.encodeInto fc max) 5
      = .error (.encode (.quantityOutOfRange req.quantity)) := by
  have hlen : req.encodedLen ≤ 5 := Nat.le_refl 5
  rw [AddressRange.encodeInto, encodeRequest_reserve hlen, checkQuantity_of_not_inRange h,
    encodeRequest_check_error]

theorem encodeRequest_readWrite_refused {req : ReadWriteMultipleRegistersRequest}
    (hlen : req.encodedLen ≤ 256)
    (h : ¬InRange req.readQuantity ReadWriteMultipleRegistersRequest.maxReadQuantity) :
    encodeRequest req.encodeInto 256 = .error (.encode (.quantityOutOfRange req.readQuantity)) := by
  rw [ReadWriteMultipleRegistersRequest.encodeInto, encodeRequest_reserve hlen,
    checkQuantity_of_not_inRange h, encodeRequest_check_error]

/-! ## Packing -/

theorem packRegisters_eq (values : List UInt16) : packRegisters values = values.flatMap toBeBytes := by
  -- behind the values written so far the vector is still zero
  let Inv (i : Nat) (bytes : List UInt8) : Prop :=
    bytes = (values.take i).flatMap toBeBytes ++ List.replicate ((values.length - i) * 2) 0
  have hloop : Inv values.length (packRegisters values) := by
    refine foldl_invariant Inv rfl ?_
    intro i bytes hbytes
    have hi := i.isLt
    have hlen : ((values.take i).flatMap toBeBytes).length = i * 2 := by
      rw [length_flatMap_toBeBytes, List.length_take]
      omega
    have hrest : (values.length - i) * 2 - 2 = (values.length - (i + 1)) * 2 := by omega
    have hbytes : bytes = _ := hbytes
    show writeAt (i * 2) (toBeBytes values[i]) bytes = _
    rw [hbytes, writeAt_append hlen, List.drop_replicate, toBeBytes_length, hrest, List.take_add_one,
      List.getElem?_eq_getElem hi, List.flatMap_append]
    rfl
  have hloop : packRegisters values = _ := hloop
  rw [hloop, List.take_length, Nat.sub_self]
  exact List.append_nil _

theorem length_packCoil (bytes : List UInt8) (i : Nat) (value : Bool) :
    (packCoil bytes i value).length = bytes.length := by
  cases value with
  | true => exact List.length_set
  | false => rfl

theorem bitAt_packCoil {bytes : List UInt8} {i : Nat} (h : i / 8 < bytes.length) (value : Bool)
    (j : Nat) :
    bitAt (packCoil bytes i value) j = (bitAt bytes j || (decide (j = i) && value)) := by
  cases value with
  | true => rw [packCoil, if_pos rfl, bitAt_set_or h, Bool.and_true]
  | false => rw [packCoil, if_neg Bool.false_ne_true, Bool.and_false, Bool.or_false]

theorem carriesBits_packCoils (values : List Bool) :
    (packCoils values ((values.length + 7) / 8)).length = (values.length + 7) / 8 ∧
      CarriesBits values (packCoils values ((values.length + 7) / 8)) := by
  let Inv (i : Nat) (bytes : List UInt8) : Prop := bytes.length = (values.length + 7) / 8 ∧
    ∀ j, bitAt bytes j = (decide (j < i) && values[j]?.getD false)
  have hloop : Inv values.length (packCoils values ((values.length + 7) / 8)) := by
    refine foldl_invariant Inv ⟨List.length_replicate, fun j => ?_⟩ ?_
    · rw [bitAt_replicate_zero, decide_eq_false (Nat.not_lt_zero j), Bool.false_and]
    · intro i bytes ⟨hlen, hbits⟩
      have hi := i.isLt
      refine ⟨(length_packCoil _ _ _).trans hlen, fun j => ?_⟩
      rw [bitAt_packCoil (by omega), hbits]
      by_cases hj : j = i.val
      · have hget : values[j]? = some values[i] := hj ▸ List.getElem?_eq_getElem hi
        rw [decide_eq_true hj, decide_eq_false (by omega), decide_eq_true (by omega), hget]
        rfl
      · have hiff : j < i.val + 1 ↔ j < i.val := by omega
        rw [decide_eq_false hj, Bool.false_and, Bool.or_false, decide_eq_decide.mpr hiff]
  refine ⟨hloop.1, fun j => ?_⟩
  rw [hloop.2]
  by_cases hj : j < values.length
  · rw [decide_eq_true hj, Bool.true_and]
  · rw [decide_eq_false hj, List.getElem?_eq_none (by omega)]
    rfl

/-! ## Responses -/

theorem validateResponseLength_self (fc : UInt8) (n : Nat) :
    validateResponseLength fc n n = .ok () := by
  rw [validateResponseLength, Nat.compare_eq_eq.mpr rfl]

theorem validateResponseLength_eq_ok {fc : UInt8} {expected actual : Nat} {u : Unit} :
    validateResponseLength fc expected actual = .ok u ↔ actual = expected := by
  constructor
  · intro h
    rw [validateResponseLength] at h
    split at h
    next => cases h
    next heq => exact Nat.compare_eq_eq.mp heq
    next => cases h
  · rintro rfl
    exact validateResponseLength_self fc actual

variable {values : List Bool} {data : List UInt8}

/-- Nothing is set behind the last coil, so the padding is zero. -/
theorem padding_eq_zero {q : Nat} (hbits : CarriesBits values data) (hcount : values.length = q)
    (hlen : data.length = (q + 7) / 8) (hrem : q % 8 ≠ 0) :
    data[(q + 7) / 8 - 1]! &&& (0xFF <<< UInt8.ofNat (q % 8)) = 0 := by
  have hlast : (q + 7) / 8 - 1 = q / 8 := by omega
  have hget : data[q / 8]! = data.getD (q / 8) 0 := by
    rw [getElem!_pos data _ (by omega), List.getD_eq_getElem?_getD, List.getElem?_eq_getElem,
      Option.getD_some]
  rw [hlast, hget]
  apply byte_ext
  intro i hi
  rw [bit_and, bit_shiftLeft _ (Nat.mod_lt q (by decide)), bit_zero]
  by_cases hlow : i < q % 8
  · rw [decide_eq_false (by omega), Bool.false_and, Bool.and_false]
  · have hdiv : (q / 8 * 8 + i) / 8 = q / 8 := by omega
    have hmod : (q / 8 * 8 + i) % 8 = i := by omega
    have hbit := hbits (q / 8 * 8 + i)
    rw [List.getElem?_eq_none (by omega), bitAt, hdiv, hmod] at hbit
    rw [hbit]
    rfl

/-- The other way round: with zero padding there is nothing behind the last coil. -/
theorem bitAt_of_padding {q i : Nat} (hlen : data.length = (q + 7) / 8)
    (hpadding : q % 8 ≠ 0 → data[(q + 7) / 8 - 1]! &&& (0xFF <<< UInt8.ofNat (q % 8)) = 0)
    (hi : q ≤ i) : bitAt data i = false := by
  by_cases hin : i / 8 < data.length
  · have hlast : (q + 7) / 8 - 1 = i / 8 := by omega
    have hbit := congrArg (bit · (i % 8)) (hpadding (by omega))
    have hones : bit 0xFF (i % 8 - q % 8) = true := by
      have hall : ∀ j : Fin 8, bit 0xFF j = true := by decide
      exact hall ⟨i % 8 - q % 8, by omega⟩
    rw [bit_and, bit_shiftLeft _ (Nat.mod_lt q (by decide)), bit_zero, hones, Bool.and_true,
      decide_eq_true (by omega), Bool.and_true, hlast, getElem!_pos data _ hin] at hbit
    rw [bitAt, List.getD_eq_getElem?_getD, List.getElem?_eq_getElem hin, Option.getD_some, hbit]
  · rw [bitAt, List.getD_eq_getElem?_getD, List.getElem?_eq_none (Nat.not_lt.mp hin),
      Option.getD_none, bit_zero]

variable {r : CountedData}

theorem CountedData.coil_eq_bitAt {i : Nat} (h : i / 8 < r.data.length) :
    r.coil i = bitAt r.data i := by
  rw [CountedData.coil, shiftRight_and_one_beq _ (Nat.mod_lt i (by decide)), bitAt,
    getElem!_pos r.data _ h, List.getD_eq_getElem?_getD, List.getElem?_eq_getElem h,
    Option.getD_some]

variable {q : UInt16}

/-- The coils of a response that carries exactly them. -/
theorem bitValues_eq (fc : FunctionCode) {n : UInt8} (hcount : values.length = q.toNat)
    (hlen : data.length = (q.toNat + 7) / 8) (hbits : CarriesBits values data) :
    bitValues fc q ⟨n, data⟩ = .ok values := by
  have hpadding : validatePadding fc.code (q.toNat % 8) data[(q.toNat + 7) / 8 - 1]! = .ok () :=
    rejectIf_neg (fun h => h.2 (padding_eq_zero hbits hcount hlen h.1)) _
  have hcoils : (List.range q.toNat).map (CountedData.coil ⟨n, data⟩) = values := by
    apply List.ext_getElem (by rw [List.length_map, List.length_range, hcount])
    intro i hi hi'
    rw [List.getElem_map, List.getElem_range, CountedData.coil_eq_bitAt (by dsimp only; omega),
      hbits, List.getElem?_eq_getElem hi', Option.getD_some]
  rw [bitValues, validateBitResponseShape]
  dsimp only
  rw [hlen, validateResponseLength_self, hpadding, hcoils]
  rfl

/-- No other response is taken for these coils. -/
theorem bitValues_eq_ok :
    bitValues fc q r = .ok values ↔ values.length = q.toNat ∧ r.data = packBits values := by
  constructor
  · intro h
    rw [bitValues, check_bind_eq_ok, validateBitResponseShape, check_bind_eq_ok,
      validateResponseLength_eq_ok, validatePadding, rejectIf_eq_ok, pure_eq_ok] at h
    obtain ⟨⟨hlen, hpadding⟩, rfl⟩ := h
    have hcount : ((List.range q.toNat).map r.coil).length = q.toNat := by
      rw [List.length_map, List.length_range]
    refine ⟨hcount, CarriesBits.eq_packBits (fun i => ?_) (by rw [hcount, hlen])⟩
    by_cases hi : i < q.toNat
    · rw [List.getElem?_map, List.getElem?_range hi, Option.map_some, Option.getD_some,
        CountedData.coil_eq_bitAt (by omega)]
    · rw [List.getElem?_eq_none (by omega), Option.getD_none]
      refine bitAt_of_padding hlen (fun hrem => ?_) (Nat.not_lt.mp hi)
      exact Decidable.not_not.mp fun hne => hpadding ⟨hrem, hne⟩
  · rintro ⟨hcount, hdata⟩
    obtain ⟨n, data⟩ := r
    subst hdata
    exact bitValues_eq fc hcount (by rw [length_packBits, hcount]) (carriesBits_packBits values)

/-- The registers of a response that carries exactly them. -/
theorem registerValues_eq (fc : FunctionCode) {n : UInt8} {values : List UInt16}
    (hcount : values.length = q.toNat) :
    registerValues fc q ⟨n, values.flatMap toBeBytes⟩ = .ok values := by
  have hvalues : CountedData.registers ⟨n, values.flatMap toBeBytes⟩ = values :=
    map_chunksExact_flatMap values
  rw [registerValues, validateRegisterResponseShape, length_flatMap_toBeBytes, hcount,
    validateResponseLength_self, hvalues]
  rfl

/-- No other response is taken for these registers. -/
theorem registerValues_eq_ok {values : List UInt16} :
    registerValues fc q r = .ok values ↔
      values.length = q.toNat ∧ r.data = values.flatMap toBeBytes := by
  constructor
  · intro h
    rw [registerValues, check_bind_eq_ok, validateRegisterResponseShape,
      validateResponseLength_eq_ok, pure_eq_ok] at h
    obtain ⟨hlen, rfl⟩ := h
    exact ⟨(List.length_map _).trans (length_chunksExact Nat.two_pos hlen),
      (flatMap_map_chunksExact hlen).symm⟩
  · rintro ⟨hcount, hdata⟩
    obtain ⟨n, data⟩ := r
    subst hdata
    exact registerValues_eq fc hcount

theorem expectEcho_eq_ok {field : String} {v w : UInt16} {u : Unit} :
    expectEcho field v w = .ok u ↔ v = w := by
  unfold expectEcho
  split <;> simp_all

theorem expectEcho_self (field : String) (v : UInt16) : expectEcho field v v = .ok () :=
  if_pos rfl

end RustyModbus.Client
