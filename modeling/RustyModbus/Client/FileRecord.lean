import RustyModbus.Client.Checks
import RustyModbus.Codec.Grammar

/-!
# File records at the client

The methods for function codes 0x14 and 0x15. A caller hands over the groups as raw bytes; the
method checks their length, leaves the rest to the encoder, and sends. The check of the length is
one for both methods, with the limits of a read request. A write may be up to six bytes longer, so
there are payloads that the codec would encode and the method refuses (`writeFileRecord_agrees_iff`
says which).

The number of groups in a response is counted by their length bytes alone. On what the decoder has
accepted, this is the number of groups.
-/

namespace RustyModbus.Client

open Wire Interaction Encoder

/-! ## The methods -/

/-- The groups of a read response, counted by hopping from one length byte to the next. -/
def readFileRecordSubResponseCount : List UInt8 → Nat
  | [] => 0
  | responseLen :: rest =>
    if responseLen.toNat ≤ rest.length then
      1 + readFileRecordSubResponseCount (rest.drop responseLen.toNat)
    else 0
termination_by data => data.length
decreasing_by
  simp only [List.length_drop, List.length_cons]
  omega

def fileRecordMinByteCount : Nat := 0x07
def fileRecordMaxByteCount : Nat := 0xF5

def checkedFileRecordByteCount (len : Nat) : Except ClientError UInt8 :=
  checkedByteCountValue len fileRecordMinByteCount fileRecordMaxByteCount

def readFileRecord (retry : RetryConfig) (unitId : UnitId) (subRequestData : List UInt8) :
    ClientMethod ReadFileRecordResponse := do
  orReturn (rejectIf (unitId = 0) .broadcastReadNotAllowed)
  let byteCount ← orReturn (checkedFileRecordByteCount subRequestData.length)
  let req : ReadFileRecordRequest := { byteCount, data := subRequestData }
  let pdu ← orReturn (encodeRequest (ReadFileRecordRequest.encodeInto req) 256)
  let expectedSubResponses := subRequestData.length / 7
  exchange retry unitId .readFileRecord pdu .replaySafe fun
    | .readFileRecord r =>
      let actualSubResponses := readFileRecordSubResponseCount r.data
      some (if actualSubResponses = expectedSubResponses then .ok r
        else .error (.unexpectedFileRecordSubResponseCount expectedSubResponses actualSubResponses))
    | _ => none

/-- The response to a write is handed on as it is. -/
def writtenRecords : OwnedResponsePdu → Option (Except ClientError WriteFileRecordResponse)
  | .writeFileRecord r => some (.ok r)
  | _ => none

def writeFileRecord (retry : RetryConfig) (unitId : UnitId) (subRequestData : List UInt8) :
    ClientMethod WriteFileRecordResponse := do
  orReturn (rejectIf (unitId = 0) .broadcastReadNotAllowed)
  let byteCount ← orReturn (checkedFileRecordByteCount subRequestData.length)
  let req : WriteFileRecordRequest := { byteCount, data := subRequestData }
  let pdu ← orReturn (encodeRequest (WriteFileRecordRequest.encodeInto req) 256)
  exchange retry unitId .writeFileRecord pdu .mutating writtenRecords

/-! ## Counting -/

theorem readFileRecordSubResponseCount_groups (gs : List ReadDataGroup) :
    readFileRecordSubResponseCount (gs.flatMap ReadDataGroup.wire) = gs.length := by
  induction gs with
  | nil => rw [List.flatMap_nil, readFileRecordSubResponseCount, List.length_nil]
  | cons g gs ih =>
    have hshort := g.short
    have hcount : (UInt8.ofNat (1 + g.data.length)).toNat = 1 + g.data.length := by
      rw [UInt8.toNat_ofNat']
      omega
    have hrest : (fileRecordReferenceType :: g.data ++ gs.flatMap ReadDataGroup.wire).drop
        (1 + g.data.length) = gs.flatMap ReadDataGroup.wire :=
      List.drop_left' (by rw [List.length_cons, Nat.add_comm])
    rw [List.flatMap_cons, ReadDataGroup.wire, List.cons_append, readFileRecordSubResponseCount,
      hcount, hrest, if_pos (by simp; omega), ih, List.length_cons, Nat.add_comm]

/-- What the codec accepts as file-record messages, and what follows for the client's count. -/
structure FileRecordGrammar : Prop where
  /-- A write, as a request and as the response that repeats it. -/
  writeRequest : ∀ data, (∃ r, WriteFileRecordRequest.decode data = .ok r) ↔
    Grouped 9 251 WriteGroup.wire data
  writeResponse : ∀ data, (∃ r, WriteFileRecordResponse.decode data = .ok r) ↔
    Grouped 9 251 WriteGroup.wire data
  readRequest : ∀ data, (∃ r, ReadFileRecordRequest.decode data = .ok r) ↔
    Grouped 7 245 ReadGroup.wire data
  readResponse : ∀ data, (∃ r, ReadFileRecordResponse.decode data = .ok r) ↔
    Grouped 4 250 ReadDataGroup.wire data
  /-- The check of a payload before it is encoded is the check after it has been received. -/
  readRequestValidators : ∀ payload, validateReadFileSubRequestsEncode payload = .ok () ↔
    validateReadFileSubRequests payload = .ok ()
  writeRequestValidators : ∀ payload, validateWriteFileSubRequestsEncode payload = .ok () ↔
    validateWriteFileSubRequests payload = .ok ()
  readResponseValidators : ∀ payload, validateReadFileResponsePayloadEncode payload = .ok () ↔
    validateReadFileResponsePayload payload = .ok ()
  writeResponseValidators : ∀ payload, validateWriteFilePayloadEncode payload = .ok () ↔
    validateWriteFilePayload payload = .ok ()
  /-- Payloads can be taken apart in one way only. -/
  readGroups : ∀ gs gs' : List ReadGroup,
    gs.flatMap ReadGroup.wire = gs'.flatMap ReadGroup.wire → gs = gs'
  writeGroups : ∀ gs gs' : List WriteGroup,
    gs.flatMap WriteGroup.wire = gs'.flatMap WriteGroup.wire → gs = gs'
  readDataGroups : ∀ gs gs' : List ReadDataGroup,
    gs.flatMap ReadDataGroup.wire = gs'.flatMap ReadDataGroup.wire → gs = gs'
  count : ∀ data r, ReadFileRecordResponse.decode data = .ok r →
    ∃ gs : List ReadDataGroup, r.data = gs.flatMap ReadDataGroup.wire ∧
      readFileRecordSubResponseCount r.data = gs.length

theorem fileRecord_grammar : FileRecordGrammar where
  writeRequest := writeFileRecordRequest_accepts_iff
  writeResponse := writeFileRecordResponse_accepts_iff
  readRequest := readFileRecordRequest_accepts_iff
  readResponse := readFileRecordResponse_accepts_iff
  readRequestValidators _ := validateReadFileSubRequestsEncode_eq_ok
  writeRequestValidators _ := validateWriteFileSubRequestsEncode_eq_ok
  readResponseValidators _ := validateReadFileResponsePayloadEncode_eq_ok
  writeResponseValidators _ := validateWriteFilePayloadEncode_eq_ok
  readGroups _ _ := readGroups_unique
  writeGroups _ _ := writeGroups_unique
  readDataGroups _ _ := readDataGroups_unique
  count data r hr := by
    obtain ⟨-, -, -, hvalid⟩ := CountedData.decode_eq_ok.mp hr
    obtain ⟨gs, hgs⟩ := (walkReadGroups_eq_ok r.data).mp hvalid
    refine ⟨gs, hgs, ?_⟩
    rw [hgs]
    exact readFileRecordSubResponseCount_groups gs

/-! ## What is sent -/

/-- The method sends this PDU as the first thing it does. -/
def SendsWrite (retry : RetryConfig) (unitId : UnitId) (payload pdu : List UInt8) : Prop :=
  ∃ (sendable : SendablePdu) (rest : Except ClientError OwnedResponsePdu →
      Program exchangeInterface (Except ClientError WriteFileRecordResponse)),
    sendable.val = pdu ∧ (writeFileRecord retry unitId payload).run
      = .call (I := exchangeInterface) (.request unitId .writeFileRecord sendable) rest

/-- The codec encodes the payload, with its length as byte count, into any buffer that is large
enough, and this PDU is what it writes. -/
def CodecEncodes (payload pdu : List UInt8) : Prop :=
  ∃ byteCount : UInt8, byteCount.toNat = payload.length ∧
    ∀ buf : List UInt8, 2 + payload.length ≤ buf.length →
      WriteFileRecordRequest.encodeInto { byteCount, data := payload } buf
        = .ok pdu.length (pdu ++ buf.drop pdu.length)

/-- A payload of a write that the codec accepts. -/
def Writable (payload : List UInt8) : Prop :=
  9 ≤ payload.length ∧ payload.length ≤ 251 ∧
    ∃ gs : List WriteGroup, payload = gs.flatMap WriteGroup.wire

section

variable {retry : RetryConfig} {unitId : UnitId} {payload pdu : List UInt8}

/-- The PDU of a write. -/
def writePdu (payload : List UInt8) : List UInt8 :=
  FunctionCode.writeFileRecord.code :: UInt8.ofNat payload.length :: payload

@[simp] theorem length_writePdu : (writePdu payload).length = 2 + payload.length :=
  Nat.add_comm payload.length 2

theorem emits_writeRequest {byteCount : UInt8} (hcount : byteCount.toNat = payload.length) :
    Emits (WriteFileRecordRequest.encodeInto { byteCount, data := payload }) (2 + payload.length)
      (Writable payload) (writePdu payload) := by
  obtain rfl : byteCount = UInt8.ofNat payload.length := by rw [← hcount, UInt8.ofNat_toNat]
  have hvalidate : validateWriteFileSubRequestsEncode payload = .ok () ↔
      ∃ gs : List WriteGroup, payload = gs.flatMap WriteGroup.wire :=
    walkWriteGroups_eq_ok readsHeader_validateEncode payload
  refine Emits.congr (CountedData.encodeFileRecord_emits (fun _ => rfl) hvalidate) ?_
  have hpdu : (FunctionCode.writeFileRecord.code ::
      CountedData.body ⟨UInt8.ofNat payload.length, payload⟩).length = 2 + payload.length :=
    length_writePdu
  rw [hpdu, hcount, maxPduSize]
  constructor
  · rintro ⟨⟨⟨hmin, hmax⟩, -, hgroups⟩, -⟩
    exact ⟨hmin, hmax, hgroups⟩
  · rintro ⟨hmin, hmax, hgroups⟩
    exact ⟨⟨⟨hmin, hmax⟩, rfl, hgroups⟩, by omega⟩

theorem codecEncodes_iff : CodecEncodes payload pdu ↔ Writable payload ∧ pdu = writePdu payload := by
  constructor
  · rintro ⟨byteCount, hcount, hencodes⟩
    have hemits := emits_writeRequest hcount
    have hrun := hencodes (List.replicate (2 + payload.length) 0)
      (Nat.le_of_eq List.length_replicate.symm)
    by_cases hwritable : Writable payload
    · rw [hemits.written _ (Nat.le_of_eq List.length_replicate.symm) hwritable] at hrun
      obtain ⟨hlen, hbuf⟩ := EStateM.Result.ok.inj hrun
      rw [← hlen] at hbuf
      exact ⟨hwritable, (List.append_cancel_right hbuf).symm⟩
    · obtain ⟨e, he⟩ := hemits.refused (List.replicate (2 + payload.length) 0) hwritable
      rw [he] at hrun
      cases hrun
  · rintro ⟨hwritable, rfl⟩
    have hcount : (UInt8.ofNat payload.length).toNat = payload.length := by
      have := hwritable.2.1
      rw [UInt8.toNat_ofNat']
      omega
    refine ⟨UInt8.ofNat payload.length, hcount, fun buf hbuf => ?_⟩
    rw [length_writePdu]
    exact (emits_writeRequest hcount).written buf hbuf hwritable

theorem run_orReturn_ok {α β : Type} {x : Except ClientError α} {a : α} (h : x = .ok a)
    (f : α → ClientMethod β) : (orReturn x >>= f).run = (f a).run := by
  rw [h]
  rfl

theorem run_orReturn_error {α β : Type} {x : Except ClientError α} {e : ClientError}
    (h : x = .error e) (f : α → ClientMethod β) : (orReturn x >>= f).run = .done (.error e) := by
  rw [h]
  rfl

/-- An exchange starts with a request. -/
theorem run_exchange_call {α : Type} (retry : RetryConfig) (unitId : UnitId) (fc : FunctionCode)
    (kind : RequestKind) (check : OwnedResponsePdu → Option (Except ClientError α))
    (hpos : 0 < pdu.length) (hlen : pdu.length ≤ maxPduSize) :
    ∃ rest, (exchange retry unitId fc pdu kind check).run
      = .call (I := exchangeInterface) (.request unitId fc ⟨pdu, hpos, hlen⟩) rest := by
  have hpdu : checkedPduLength pdu = .ok ⟨pdu, hpos, hlen⟩ := by
    rw [checkedPduLength, dif_neg (Nat.pos_iff_ne_zero.mp hpos), dif_neg (Nat.not_lt.mpr hlen)]
  have hsend : (sendWithRetry retry unitId fc pdu kind).run
      = attemptLoop retry unitId fc ⟨pdu, hpos, hlen⟩ kind 0 := by
    rw [sendWithRetry, run_orReturn_ok hpdu]
    rfl
  rw [attemptLoop] at hsend
  obtain ⟨k, hk⟩ : ∃ k, (sendWithRetry retry unitId fc pdu kind).run
      = .call (I := exchangeInterface) (.request unitId fc ⟨pdu, hpos, hlen⟩) k := ⟨_, hsend⟩
  refine ⟨fun r => (k r).bind (ExceptT.bindCont fun response =>
    orReturn (typedResponse check response)), ?_⟩
  show Program.bind (sendWithRetry retry unitId fc pdu kind).run _ = _
  rw [hk]
  rfl

theorem checkedFileRecordByteCount_of_le (hmin : 7 ≤ payload.length) (hmax : payload.length ≤ 245) :
    checkedFileRecordByteCount payload.length = .ok (UInt8.ofNat payload.length) := by
  rw [checkedFileRecordByteCount, checkedByteCountValue, fileRecordMinByteCount,
    fileRecordMaxByteCount, if_neg (by omega), if_pos (by omega)]

/-- The method sends what the codec accepts, as long as it is not longer than a read request may
be. -/
theorem sendsWrite_iff (hunit : unitId ≠ 0) : SendsWrite retry unitId payload pdu ↔
    payload.length ≤ 245 ∧ Writable payload ∧ pdu = writePdu payload := by
  have haddressed : rejectIf (unitId = 0) ClientError.broadcastReadNotAllowed = .ok () :=
    rejectIf_eq_ok.mpr hunit
  unfold SendsWrite writeFileRecord
  rw [run_orReturn_ok haddressed]
  by_cases hrange : 7 ≤ payload.length ∧ payload.length ≤ 245
  · have hcount : (UInt8.ofNat payload.length).toNat = payload.length := by
      rw [UInt8.toNat_ofNat']
      omega
    have hemits := emits_writeRequest hcount
    rw [run_orReturn_ok (checkedFileRecordByteCount_of_le hrange.1 hrange.2)]
    by_cases hwritable : Writable payload
    · have hencode := encodeRequest_sendable hemits hwritable
        (show 2 + payload.length ≤ 256 by omega)
      rw [run_orReturn_ok hencode]
      have hlen : (writePdu payload).length ≤ maxPduSize := by
        rw [length_writePdu, maxPduSize]
        omega
      have hpos : 0 < (writePdu payload).length := Nat.succ_pos _
      obtain ⟨rest, hcall⟩ := run_exchange_call retry unitId .writeFileRecord .mutating
        writtenRecords hpos hlen
      rw [hcall]
      constructor
      · rintro ⟨sendable, rest', rfl, hsame⟩
        injection hsame with hrequest
        injection hrequest with _ _ hsendable
        exact ⟨hrange.2, hwritable, congrArg Subtype.val hsendable.symm⟩
      · rintro ⟨-, -, rfl⟩
        exact ⟨_, rest, rfl, rfl⟩
    · obtain ⟨e, he⟩ := hemits.refused (List.replicate 256 0) hwritable
      have hencode : encodeRequest (WriteFileRecordRequest.encodeInto
          ⟨UInt8.ofNat payload.length, payload⟩) 256 = .error (.encode e) := by
        have hrun : EStateM.run (WriteFileRecordRequest.encodeInto
            ⟨UInt8.ofNat payload.length, payload⟩) (List.replicate 256 0) = _ := he
        rw [encodeRequest, hrun]
      rw [run_orReturn_error hencode]
      constructor
      · rintro ⟨_, _, _, hsame⟩
        cases hsame
      · exact fun h => absurd h.2.1 hwritable
  · have hcount : ∃ e, checkedFileRecordByteCount payload.length = .error e := by
      rw [checkedFileRecordByteCount, checkedByteCountValue, fileRecordMinByteCount,
        fileRecordMaxByteCount, if_pos (by omega)]
      exact ⟨_, rfl⟩
    obtain ⟨e, he⟩ := hcount
    rw [run_orReturn_error he]
    constructor
    · rintro ⟨_, _, _, hsame⟩
      cases hsame
    · rintro ⟨hle, hwritable, -⟩
      have := hwritable.1
      omega

/-- The method and the codec agree on a payload exactly if it is not one that only a write may
have. What is sent is always what the codec writes. -/
theorem writeFileRecord_agrees_iff (retry : RetryConfig) (unitId : UnitId) (hunit : unitId ≠ 0)
    (payload : List UInt8) :
    (∀ pdu, SendsWrite retry unitId payload pdu → CodecEncodes payload pdu) ∧
    (((∃ pdu, SendsWrite retry unitId payload pdu) ↔ ∃ pdu, CodecEncodes payload pdu) ↔
      ¬(246 ≤ payload.length ∧ payload.length ≤ 251 ∧
        ∃ gs : List WriteGroup, payload = gs.flatMap WriteGroup.wire)) := by
  simp only [sendsWrite_iff hunit, codecEncodes_iff]
  refine ⟨fun pdu h => h.2, ?_⟩
  constructor
  · rintro hagree ⟨hlong, hmax, hgroups⟩
    obtain ⟨pdu, hle, -⟩ := hagree.mpr ⟨_, ⟨by omega, hmax, hgroups⟩, rfl⟩
    omega
  · intro hshort
    constructor
    · rintro ⟨pdu, -, h⟩
      exact ⟨pdu, h⟩
    · rintro ⟨pdu, hwritable, hpdu⟩
      refine ⟨pdu, Nat.not_lt.mp fun hlong => hshort ?_, hwritable, hpdu⟩
      exact ⟨hlong, hwritable.2⟩

/-- One group that writes 122 records. -/
def longWrite : WriteGroup where
  fileNumber := 1
  recordNumber := 0
  recordLength := 122
  values := List.replicate 244 0
  inRange := ⟨by decide, by decide, by decide⟩
  values_length := List.length_replicate

/-- The codec encodes it, the method does not send it. -/
theorem writeFileRecord_longWrite :
    (∃ pdu, CodecEncodes longWrite.wire pdu) ∧
      ¬∃ pdu, SendsWrite { maxRetries := 0, retryableExceptions := [] } 1 longWrite.wire pdu := by
  have hlen : longWrite.wire.length = 251 := longWrite.wire_length
  constructor
  · refine ⟨_, codecEncodes_iff.mpr ⟨⟨by omega, by omega, [longWrite], ?_⟩, rfl⟩⟩
    rw [List.flatMap_singleton]
  · rintro ⟨pdu, hsends⟩
    have := ((sendsWrite_iff (by decide)).mp hsends).1
    omega

/-- A payload of one record, on which they agree. -/
theorem writeFileRecord_agrees_oneRecord :
    (∃ pdu, SendsWrite { maxRetries := 0, retryableExceptions := [] } 1
        [6, 0, 1, 0, 0, 0, 1, 0x12, 0x34] pdu) ↔
      ∃ pdu, CodecEncodes [6, 0, 1, 0, 0, 0, 1, 0x12, 0x34] pdu :=
  (writeFileRecord_agrees_iff { maxRetries := 0, retryableExceptions := [] } 1 (by decide)
    [6, 0, 1, 0, 0, 0, 1, 0x12, 0x34]).2.mpr (by simp)

end

end RustyModbus.Client
