import RustyModbus.Codec.Error

/-!
# File-record groups

The payloads of function codes 0x14 and 0x15 are sequences of groups, walked by
hand-written loops: one per direction, once for decoding and once more, with the
other error type, for encoding. The loops are one definition here, parameterised
by the errors they raise; each of the source's validators is an application of it.

What a loop accepts is stated by the groups themselves. A `WriteGroup` or
`ReadDataGroup` carries the bounds of its fields, and a validator passes exactly
on the concatenations of such groups. That the validators of both directions, and
of both error types, accept the same payloads is then immediate.
-/

namespace RustyModbus

open Wire

def fileRecordReferenceType : UInt8 := 0x06
def minFileNumber : UInt16 := 0x0001
def maxRecordNumber : UInt16 := 0x270F
def recordCount : Nat := 0x2710

structure FileSubRequest where
  referenceType : UInt8
  fileNumber : UInt16
  recordNumber : UInt16
  recordLength : UInt16
deriving DecidableEq, Repr

/-! ## The validators -/

section Validators

variable {ε : Type}

/-- `check_file_record_range` and its `_encode` twin. The `checked_add` of the
source cannot fail on two 16-bit values. -/
def checkFileRecordRange (outOfRange : UInt16 → UInt16 → UInt16 → ε)
    (fileNumber recordNumber recordLength : UInt16) : Except ε Unit :=
  let finish := recordNumber.toNat + recordLength.toNat
  rejectIf (fileNumber < minFileNumber ∨ recordLength = 0 ∨ recordNumber > maxRecordNumber ∨
      finish > recordCount)
    (outOfRange fileNumber recordNumber recordLength)

/-- The seven header bytes of a group, once enough bytes are there. -/
def readSubRequest (badReference : UInt8 → ε) (outOfRange : UInt16 → UInt16 → UInt16 → ε)
    (data : List UInt8) : Except ε FileSubRequest := do
  let referenceType := data[0]!
  rejectIf (referenceType ≠ fileRecordReferenceType) (badReference referenceType)
  let fileNumber := wordAt data 1
  let recordNumber := wordAt data 3
  let recordLength := wordAt data 5
  checkFileRecordRange outOfRange fileNumber recordNumber recordLength
  return { referenceType, fileNumber, recordNumber, recordLength }

/-- The loop over the groups of a write: header, then two bytes a record. -/
def walkWriteGroups (parse : List UInt8 → Except ε FileSubRequest) (tooShort : Nat → ε)
    (mismatch : Nat → Nat → ε) (remaining : List UInt8) : Except ε Unit :=
  if h : remaining = [] then .ok ()
  else do
    rejectIf (remaining.length < 7) (tooShort remaining.length)
    let sub ← parse (remaining.take 7)
    let groupLen := 7 + sub.recordLength.toNat * 2
    rejectIf (remaining.length < groupLen) (mismatch groupLen remaining.length)
    walkWriteGroups parse tooShort mismatch (remaining.drop groupLen)
termination_by remaining.length
decreasing_by
  have := List.length_pos_iff.mpr ‹_›
  simp only [List.length_drop]
  omega

/-- The loop over the groups of a read response: length byte, reference type, data. -/
def walkReadGroups (badLength : Nat → ε) (mismatch : Nat → Nat → ε)
    (badReference : UInt8 → ε) (remaining : List UInt8) : Except ε Unit :=
  if _h : remaining = [] then .ok ()
  else do
    let responseLen := remaining[0]!.toNat
    rejectIf (responseLen < 3 ∨ responseLen % 2 = 0) (badLength responseLen)
    let groupLen := 1 + responseLen
    rejectIf (remaining.length < groupLen) (mismatch groupLen remaining.length)
    let referenceType := remaining[1]!
    rejectIf (referenceType ≠ fileRecordReferenceType) (badReference referenceType)
    walkReadGroups badLength mismatch badReference (remaining.drop groupLen)
termination_by remaining.length
decreasing_by
  have := List.length_pos_iff.mpr ‹_›
  simp only [List.length_drop]
  omega

/-- The groups of a read request, seven bytes each. -/
def walkSubRequests (parse : List UInt8 → Except ε FileSubRequest) (badLength : Nat → ε)
    (subRequests : List UInt8) : Except ε Unit := do
  rejectIf (subRequests.length % 7 ≠ 0) (badLength subRequests.length)
  forM (chunksExact 7 subRequests) fun chunk => do
    let _ ← parse chunk
    return ()

end Validators

def FileSubRequest.decode (data : List UInt8) : Except DecodeError FileSubRequest := do
  DecodeError.checkExactLen data 7
  readSubRequest .invalidReferenceType .fileRecordOutOfRange data

def validateFileSubRequestEncode (data : List UInt8) : Except EncodeError FileSubRequest := do
  rejectIf (data.length < 7) (.invalidFileRecordLength data.length)
  readSubRequest .invalidReferenceType .fileRecordOutOfRange data

def validateReadFileSubRequests : List UInt8 → Except DecodeError Unit :=
  walkSubRequests FileSubRequest.decode .invalidFileRecordLength

def validateReadFileSubRequestsEncode : List UInt8 → Except EncodeError Unit :=
  walkSubRequests validateFileSubRequestEncode .invalidFileRecordLength

def validateWriteFileSubRequests : List UInt8 → Except DecodeError Unit :=
  walkWriteGroups FileSubRequest.decode .invalidFileRecordLength .byteCountMismatch

def validateWriteFileSubRequestsEncode : List UInt8 → Except EncodeError Unit :=
  walkWriteGroups validateFileSubRequestEncode .invalidFileRecordLength .byteCountMismatch

/-- The response side reads the same seven bytes in place. -/
def validateWriteFilePayload : List UInt8 → Except DecodeError Unit :=
  walkWriteGroups (readSubRequest .invalidReferenceType .fileRecordOutOfRange)
    .invalidFileRecordLength .byteCountMismatch

def validateWriteFilePayloadEncode : List UInt8 → Except EncodeError Unit :=
  walkWriteGroups (readSubRequest .invalidReferenceType .fileRecordOutOfRange)
    .invalidFileRecordLength .byteCountMismatch

def validateReadFileResponsePayload : List UInt8 → Except DecodeError Unit :=
  walkReadGroups .invalidFileRecordLength .byteCountMismatch .invalidReferenceType

def validateReadFileResponsePayloadEncode : List UInt8 → Except EncodeError Unit :=
  walkReadGroups .invalidFileRecordLength .byteCountMismatch .invalidReferenceType

/-! ## What the validators accept -/

/-- A file number and a run of records inside the file-record model. -/
def FileRange (fileNumber recordNumber recordLength : UInt16) : Prop :=
  0 < fileNumber.toNat ∧ 0 < recordLength.toNat ∧
    recordNumber.toNat + recordLength.toNat ≤ recordCount

variable {ε : Type} {u : Unit}

theorem checkFileRecordRange_eq_ok {e : UInt16 → UInt16 → UInt16 → ε} {file rec len : UInt16} :
    checkFileRecordRange e file rec len = .ok u ↔ FileRange file rec len := by
  have hlen : len = 0 ↔ len.toNat = 0 := by
    rw [← UInt16.toNat_inj]
    rfl
  simp only [checkFileRecordRange, rejectIf_eq_ok, FileRange, minFileNumber, maxRecordNumber,
    recordCount, hlen, UInt16.lt_iff_toNat_lt, gt_iff_lt, UInt16.reduceToNat]
  omega

namespace FileSubRequest

/-- The seven bytes of a group header. -/
def wire (s : FileSubRequest) : List UInt8 :=
  s.referenceType :: (toBeBytes s.fileNumber ++ toBeBytes s.recordNumber ++
    toBeBytes s.recordLength)

def Valid (s : FileSubRequest) : Prop :=
  s.referenceType = fileRecordReferenceType ∧
    FileRange s.fileNumber s.recordNumber s.recordLength

@[simp] theorem wire_length (s : FileSubRequest) : s.wire.length = 7 := rfl

end FileSubRequest

/-- A header parser that reads a valid header from its seven bytes and nothing else. -/
def ReadsHeader {ε : Type} (parse : List UInt8 → Except ε FileSubRequest) : Prop :=
  ∀ data s, data.length = 7 → (parse data = .ok s ↔ data = s.wire ∧ s.Valid)

theorem readsHeader_readSubRequest (e : UInt8 → ε) (e' : UInt16 → UInt16 → UInt16 → ε) :
    ReadsHeader (readSubRequest e e') := by
  intro data s hlen
  simp only [readSubRequest, check_bind_eq_ok, rejectIf_eq_ok, pure_eq_ok,
    checkFileRecordRange_eq_ok, Decidable.not_not]
  constructor
  · rintro ⟨href, hrange, rfl⟩
    refine ⟨?_, href, hrange⟩
    simp only [FileSubRequest.wire, List.append_assoc]
    rw [word_eq_drop hlen, word_append_drop (by omega), word_append_drop (by omega),
      byte_cons_drop (by omega), List.drop_zero]
  · rintro ⟨rfl, href, hrange⟩
    have hfile : wordAt s.wire 1 = s.fileNumber := fromBeBytes_shift _
    have hrec : wordAt s.wire 3 = s.recordNumber := fromBeBytes_shift _
    have hlen : wordAt s.wire 5 = s.recordLength := fromBeBytes_shift _
    rw [hfile, hrec, hlen]
    exact ⟨href, hrange, rfl⟩

theorem readsHeader_decode : ReadsHeader FileSubRequest.decode := by
  intro data s hlen
  rw [FileSubRequest.decode, check_bind_eq_ok, DecodeError.checkExactLen_eq_ok]
  simp only [hlen, true_and]
  exact readsHeader_readSubRequest _ _ data s hlen

theorem readsHeader_validateEncode : ReadsHeader validateFileSubRequestEncode := by
  intro data s hlen
  rw [validateFileSubRequestEncode, check_bind_eq_ok, rejectIf_eq_ok]
  simp only [hlen, Nat.lt_irrefl, not_false_eq_true, true_and]
  exact readsHeader_readSubRequest _ _ data s hlen

/-- One group of a file write: where it goes and the register values, two bytes each. -/
structure WriteGroup where
  fileNumber : UInt16
  recordNumber : UInt16
  recordLength : UInt16
  values : List UInt8
  inRange : FileRange fileNumber recordNumber recordLength
  values_length : values.length = recordLength.toNat * 2

namespace WriteGroup

def header (g : WriteGroup) : FileSubRequest :=
  { referenceType := fileRecordReferenceType, fileNumber := g.fileNumber,
    recordNumber := g.recordNumber, recordLength := g.recordLength }

def wire (g : WriteGroup) : List UInt8 := g.header.wire ++ g.values

theorem header_valid (g : WriteGroup) : g.header.Valid := ⟨rfl, g.inRange⟩

theorem wire_length (g : WriteGroup) : g.wire.length = 7 + g.recordLength.toNat * 2 := by
  simp [wire, g.values_length]

end WriteGroup

/-- One group of a file read response: the registers read. -/
structure ReadDataGroup where
  data : List UInt8
  even : data.length % 2 = 0
  nonempty : 2 ≤ data.length
  short : data.length ≤ 254

namespace ReadDataGroup

def wire (g : ReadDataGroup) : List UInt8 :=
  UInt8.ofNat (1 + g.data.length) :: fileRecordReferenceType :: g.data

theorem wire_length (g : ReadDataGroup) : g.wire.length = 2 + g.data.length := by
  simp [wire]
  omega

end ReadDataGroup

/-- The write loop passes exactly on sequences of write groups, whatever errors it
raises otherwise. -/
theorem walkWriteGroups_eq_ok {parse : List UInt8 → Except ε FileSubRequest} {e₁ : Nat → ε}
    {e₂ : Nat → Nat → ε} (hparse : ReadsHeader parse) (data : List UInt8) :
    walkWriteGroups parse e₁ e₂ data = .ok u ↔
      ∃ gs : List WriteGroup, data = gs.flatMap WriteGroup.wire := by
  constructor
  · fun_induction walkWriteGroups parse e₁ e₂ data with
    | case1 => exact fun _ => ⟨[], rfl⟩
    | case2 data hdata ih =>
      intro h
      simp only [check_bind_eq_ok, rejectIf_eq_ok, Nat.not_lt] at h
      obtain ⟨h7, h⟩ := h
      obtain ⟨sub, hsub, h⟩ := bind_eq_ok.mp h
      rw [check_bind_eq_ok, rejectIf_eq_ok, Nat.not_lt] at h
      obtain ⟨hlen, h⟩ := h
      obtain ⟨gs, hgs⟩ := ih sub h
      obtain ⟨htake, href, hrange⟩ :=
        (hparse _ _ (by rw [List.length_take]; omega)).mp hsub
      let g : WriteGroup :=
        { fileNumber := sub.fileNumber, recordNumber := sub.recordNumber,
          recordLength := sub.recordLength,
          values := (data.drop 7).take (sub.recordLength.toNat * 2), inRange := hrange,
          values_length := by
            rw [List.length_take, List.length_drop]
            omega }
      refine ⟨g :: gs, ?_⟩
      have hheader : g.header.wire = data.take 7 := by
        rw [htake, FileSubRequest.wire, FileSubRequest.wire, href]
        rfl
      rw [List.flatMap_cons, ← hgs, WriteGroup.wire, hheader, List.append_assoc,
        ← List.drop_drop, List.take_append_drop, List.take_append_drop]
  · rintro ⟨gs, rfl⟩
    induction gs with
    | nil => simp [walkWriteGroups]
    | cons g gs ih =>
      have hne : (g :: gs).flatMap WriteGroup.wire ≠ [] := by
        simp [WriteGroup.wire, FileSubRequest.wire]
      have hlen := g.wire_length
      have htake : ((g :: gs).flatMap WriteGroup.wire).take 7 = g.header.wire := by
        rw [List.flatMap_cons, WriteGroup.wire, List.append_assoc,
          List.take_left' g.header.wire_length]
      have hsub := (hparse _ g.header (by rw [htake]; rfl)).mpr ⟨htake, g.header_valid⟩
      have hdrop : ((g :: gs).flatMap WriteGroup.wire).drop (7 + g.recordLength.toNat * 2)
          = gs.flatMap WriteGroup.wire := by
        rw [List.flatMap_cons, List.drop_left' hlen]
      have hlen' : ((g :: gs).flatMap WriteGroup.wire).length
          = 7 + g.recordLength.toNat * 2 + (gs.flatMap WriteGroup.wire).length := by
        rw [List.flatMap_cons, List.length_append, hlen]
      rw [walkWriteGroups, dif_neg hne, check_bind_eq_ok, rejectIf_eq_ok, hsub]
      refine ⟨by omega, check_bind_eq_ok.mpr ⟨rejectIf_eq_ok.mpr ?_, ?_⟩⟩
      · show ¬((g :: gs).flatMap WriteGroup.wire).length < 7 + g.recordLength.toNat * 2
        omega
      · show walkWriteGroups parse e₁ e₂ (((g :: gs).flatMap WriteGroup.wire).drop
          (7 + g.recordLength.toNat * 2)) = _
        rw [hdrop]
        exact ih

/-- The loop over a read response passes exactly on sequences of data groups. -/
theorem walkReadGroups_eq_ok {e₁ : Nat → ε} {e₂ : Nat → Nat → ε} {e₃ : UInt8 → ε}
    (data : List UInt8) :
    walkReadGroups e₁ e₂ e₃ data = .ok u ↔
      ∃ gs : List ReadDataGroup, data = gs.flatMap ReadDataGroup.wire := by
  constructor
  · fun_induction walkReadGroups e₁ e₂ e₃ data with
    | case1 => exact fun _ => ⟨[], rfl⟩
    | case2 data hdata n ih =>
      intro h
      simp only [check_bind_eq_ok, rejectIf_eq_ok, Nat.not_lt, not_or, Decidable.not_not] at h
      obtain ⟨⟨h3, hodd⟩, hlen, href, h⟩ := h
      obtain ⟨gs, hgs⟩ := ih h
      obtain ⟨b, r, rest, rfl⟩ : ∃ b r rest, data = b :: r :: rest := by
        rcases data with _ | ⟨b, _ | ⟨r, rest⟩⟩
        · exact absurd rfl hdata
        · simp only [List.length_singleton] at hlen
          omega
        · exact ⟨b, r, rest, rfl⟩
      have hb : n = b.toNat := rfl
      have hr : r = fileRecordReferenceType := href
      have hlt := b.toNat_lt
      have hrest : b.toNat - 1 ≤ rest.length := by
        simp only [List.length_cons] at hlen
        omega
      have hdlen : (rest.take (b.toNat - 1)).length = b.toNat - 1 := by
        rw [List.length_take]
        omega
      let g : ReadDataGroup :=
        { data := rest.take (b.toNat - 1), even := by omega, nonempty := by omega,
          short := by omega }
      refine ⟨g :: gs, ?_⟩
      have hdrop : (b :: r :: rest).drop (1 + n) = rest.drop (b.toNat - 1) := by
        rw [show 1 + n = b.toNat - 1 + 2 by omega, List.drop_succ_cons, List.drop_succ_cons]
      have hhead : UInt8.ofNat (1 + (rest.take (b.toNat - 1)).length) = b := by
        rw [hdlen, show 1 + (b.toNat - 1) = b.toNat by omega, UInt8.ofNat_toNat]
      have hrest' : g.data ++ rest.drop (b.toNat - 1) = rest := List.take_append_drop _ _
      rw [List.flatMap_cons, ← hgs, hdrop, ReadDataGroup.wire, hhead, hr, List.cons_append,
        List.cons_append, hrest']
  · rintro ⟨gs, rfl⟩
    induction gs with
    | nil => simp [walkReadGroups]
    | cons g gs ih =>
      have hshort := g.short
      have hge := g.nonempty
      have heven := g.even
      have hb : (UInt8.ofNat (1 + g.data.length)).toNat = 1 + g.data.length := by
        rw [UInt8.toNat_ofNat']
        omega
      rw [List.flatMap_cons]
      simp only [ReadDataGroup.wire, List.cons_append]
      rw [walkReadGroups, dif_neg (List.cons_ne_nil _ _)]
      simp only [check_bind_eq_ok, rejectIf_eq_ok, Nat.not_lt, not_or, Decidable.not_not,
        List.getElem!_cons_zero, List.getElem!_cons_succ, hb, List.length_cons,
        List.length_append]
      refine ⟨by omega, by omega, trivial, ?_⟩
      rw [show 1 + (1 + g.data.length) = g.data.length + 1 + 1 by omega,
        List.drop_succ_cons, List.drop_succ_cons, List.drop_left]
      exact ih

/-- The read-request loop passes exactly on sequences of valid headers. -/
theorem walkSubRequests_eq_ok {parse : List UInt8 → Except ε FileSubRequest} {e : Nat → ε}
    (hparse : ReadsHeader parse) (data : List UInt8) :
    walkSubRequests parse e data = .ok u ↔
      data.length % 7 = 0 ∧ ∀ c ∈ chunksExact 7 data, ∃ s : FileSubRequest, c = s.wire ∧ s.Valid := by
  rw [walkSubRequests, check_bind_eq_ok, rejectIf_eq_ok, Decidable.not_not, forM_eq_ok]
  refine and_congr_right fun _ => forall₂_congr fun c hc => ?_
  rw [bind_eq_ok]
  refine exists_congr fun s => ?_
  rw [pure_eq_ok, and_iff_left rfl]
  exact hparse c s (length_of_mem_chunksExact hc)

/-! ## The validators of the two directions and of the two error types agree -/

variable {data : List UInt8}

theorem validateReadFileSubRequestsEncode_eq_ok :
    validateReadFileSubRequestsEncode data = .ok () ↔
      validateReadFileSubRequests data = .ok () :=
  (walkSubRequests_eq_ok readsHeader_validateEncode data).trans
    (walkSubRequests_eq_ok readsHeader_decode data).symm

theorem validateWriteFileSubRequestsEncode_eq_ok :
    validateWriteFileSubRequestsEncode data = .ok () ↔
      validateWriteFileSubRequests data = .ok () :=
  (walkWriteGroups_eq_ok readsHeader_validateEncode data).trans
    (walkWriteGroups_eq_ok readsHeader_decode data).symm

theorem validateWriteFilePayloadEncode_eq_ok :
    validateWriteFilePayloadEncode data = .ok () ↔ validateWriteFilePayload data = .ok () :=
  (walkWriteGroups_eq_ok (readsHeader_readSubRequest _ _) data).trans
    (walkWriteGroups_eq_ok (readsHeader_readSubRequest _ _) data).symm

theorem validateReadFileResponsePayloadEncode_eq_ok :
    validateReadFileResponsePayloadEncode data = .ok () ↔
      validateReadFileResponsePayload data = .ok () :=
  (walkReadGroups_eq_ok data).trans (walkReadGroups_eq_ok data).symm

end RustyModbus
