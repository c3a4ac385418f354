import RustyModbus.Codec.Grammar
import RustyModbus.Server.Broadcast

/-!
# File records in the in-memory store

What a server with the in-memory store answers to a request for file records, and what becomes of
its files when they are written. A request is a string of groups (`ReadGroup`, `WriteGroup`); the
handlers are loops over them.

A read goes group by group and gives up at the first one it cannot answer or has no room for, so
its answer is a statement about all groups (`Files.Serves`) proved along the loop. A write parses
all groups once more before the first one is carried out. That parse never fails on what the
decoder has passed, and the files afterwards are the fold of the group writes (`Files.write`).
-/

namespace RustyModbus.Server

open Wire Interaction Fallible Encoder

/-- The records of each file, by file number. -/
abbrev Files := UInt16 → Option (List UInt16)

variable {config : StoreConfig}

/-! ## Reading -/

namespace Files

/-- The file of the group exists and reaches as far as the group does. -/
def Has (files : Files) (g : ReadGroup) : Prop :=
  ∃ file, files g.val.fileNumber = some file ∧
    g.val.recordNumber.toNat + g.val.recordLength.toNat ≤ file.length

/-- The records a group asks for. -/
def records (files : Files) (g : ReadGroup) : List UInt16 :=
  (((files g.val.fileNumber).getD []).drop g.val.recordNumber.toNat).take g.val.recordLength.toNat

/-- The answer to one group: how long the rest of it is, the reference type, the records. -/
def group (files : Files) (g : ReadGroup) : List UInt8 :=
  UInt8.ofNat (1 + 2 * g.val.recordLength.toNat) :: fileRecordReferenceType ::
    (files.records g).flatMap toBeBytes

/-- How many bytes the answers to the groups take. -/
def replyLength (gs : List ReadGroup) : Nat :=
  gs.foldr (fun g n => 2 + 2 * g.val.recordLength.toNat + n) 0

/-- All groups can be answered, and the answers take at most `room` bytes. -/
structure Serves (files : Files) (room : Nat) (gs : List ReadGroup) : Prop where
  has : ∀ g ∈ gs, files.Has g
  short : ∀ g ∈ gs, g.val.recordLength.toNat ≤ 122
  fits : replyLength gs ≤ room

variable {files : Files} {g : ReadGroup}

theorem length_records (h : files.Has g) : (files.records g).length = g.val.recordLength.toNat := by
  obtain ⟨file, hfile, hlen⟩ := h
  rw [records, hfile, Option.getD_some, List.length_take, List.length_drop]
  omega

theorem length_group (h : files.Has g) :
    (files.group g).length = 2 + 2 * g.val.recordLength.toNat := by
  rw [group, List.length_cons, List.length_cons, length_flatMap_toBeBytes, length_records h]
  omega

variable {gs : List ReadGroup}

theorem serves_cons {room : Nat} :
    files.Serves room (g :: gs) ↔
      (g.val.recordLength.toNat ≤ 122 ∧ files.Has g) ∧
        2 + 2 * g.val.recordLength.toNat ≤ room ∧
        files.Serves (room - (2 + 2 * g.val.recordLength.toNat)) gs := by
  constructor
  · rintro ⟨hhas, hshort, hfits⟩
    have hfits : 2 + 2 * g.val.recordLength.toNat + replyLength gs ≤ room := hfits
    refine ⟨⟨hshort g List.mem_cons_self, hhas g List.mem_cons_self⟩, by omega,
      fun g' hg' => hhas g' (List.mem_cons_of_mem _ hg'),
      fun g' hg' => hshort g' (List.mem_cons_of_mem _ hg'), by omega⟩
  · rintro ⟨⟨hshort, hhas⟩, hroom, hrest⟩
    refine ⟨List.forall_mem_cons.mpr ⟨hhas, hrest.has⟩,
      List.forall_mem_cons.mpr ⟨hshort, hrest.short⟩, ?_⟩
    have hfits := hrest.fits
    show 2 + 2 * g.val.recordLength.toNat + replyLength gs ≤ room
    omega

theorem replyLength_append (gs gs' : List ReadGroup) :
    replyLength (gs ++ gs') = replyLength gs + replyLength gs' := by
  induction gs with
  | nil => exact (Nat.zero_add _).symm
  | cons g gs ih =>
    show 2 + 2 * g.val.recordLength.toNat + replyLength (gs ++ gs') = _
    rw [ih, ← Nat.add_assoc]
    rfl

theorem length_flatMap_group {room : Nat} (h : files.Serves room gs) :
    (gs.flatMap files.group).length = replyLength gs := by
  induction gs generalizing room with
  | nil => rfl
  | cons g gs ih =>
    obtain ⟨⟨-, hhas⟩, -, hrest⟩ := serves_cons.mp h
    rw [List.flatMap_cons, List.length_append, length_group hhas, ih hrest]
    rfl

theorem four_le_replyLength (h : gs ≠ []) : 4 ≤ replyLength gs := by
  cases gs with
  | nil => exact absurd rfl h
  | cons g gs =>
    have hpos : 0 < g.val.recordLength.toNat := g.property.2.2.1
    show 4 ≤ 2 + 2 * g.val.recordLength.toNat + replyLength gs
    omega

/-- The answers are groups of a read response. -/
theorem exists_readDataGroups {room : Nat} (h : files.Serves room gs) :
    ∃ ds : List ReadDataGroup, gs.flatMap files.group = ds.flatMap ReadDataGroup.wire := by
  induction gs generalizing room with
  | nil => exact ⟨[], rfl⟩
  | cons g gs ih =>
    obtain ⟨⟨hshort, hhas⟩, -, hrest⟩ := serves_cons.mp h
    obtain ⟨ds, hds⟩ := ih hrest
    have hlen : ((files.records g).flatMap toBeBytes).length = 2 * g.val.recordLength.toNat := by
      rw [length_flatMap_toBeBytes, length_records hhas, Nat.mul_comm]
    have hpos : 0 < g.val.recordLength.toNat := g.property.2.2.1
    let d : ReadDataGroup :=
      { data := (files.records g).flatMap toBeBytes, even := by omega, nonempty := by omega,
        short := by omega }
    refine ⟨d :: ds, ?_⟩
    have hd : files.group g = d.wire := by
      rw [group, ReadDataGroup.wire, hlen]
    rw [List.flatMap_cons, List.flatMap_cons, hds, hd]

end Files

/-! ### The loop -/

section

variable (s : InMemoryStore config) (g : ReadGroup)

theorem memoryStore_readFileRecordBe_inside (hshort : g.val.recordLength.toNat ≤ maxFileRecordRegisters)
    (h : Files.Has s.files g) :
    ∃ packed, memoryStore config (.readFileRecordBe g.val.fileNumber g.val.recordNumber
        g.val.recordLength (List.replicate (g.val.recordLength.toNat * 2) 0)) s
        = (.ok (g.val.recordLength.toNat, packed), s) ∧
      packed.val = (Files.records s.files g).flatMap toBeBytes := by
  have hlen := Files.length_records h
  obtain ⟨file, hfile, hinside⟩ := h
  have hrecords : (file.drop g.val.recordNumber.toNat).take g.val.recordLength.toNat
      = Files.records s.files g := by
    rw [Files.records, hfile, Option.getD_some]
  have hfits : (Files.records s.files g).length * 2
      = (List.replicate (g.val.recordLength.toNat * 2) (0 : UInt8)).length := by
    rw [hlen, List.length_replicate]
  obtain ⟨packed, hpack, hpacked⟩ := packRegistersBe_fits hfits
  refine ⟨packed, ?_, hpacked⟩
  rw [memoryStore, InMemoryStore.serve, replyOf_look, InMemoryStore.readFileRecordBe]
  dsimp only
  rw [validateRange_eq_ok (u := ()).mpr g.property.2, rejectIf_neg (Nat.not_lt.mpr hshort), hfile]
  show ((do
    rejectIf (g.val.recordNumber.toNat + g.val.recordLength.toNat > file.length)
      ExceptionCode.illegalDataAddress
    let out ← packRegistersBe _ _
    return (g.val.recordLength.toNat, out)), s) = _
  rw [rejectIf_neg (Nat.not_lt.mpr hinside), hrecords, hpack]
  rfl

theorem memoryStore_readFileRecordBe_outside (hshort : g.val.recordLength.toNat ≤ maxFileRecordRegisters)
    (h : ¬Files.Has s.files g) (out : List UInt8) :
    memoryStore config (.readFileRecordBe g.val.fileNumber g.val.recordNumber
      g.val.recordLength out) s = (.error .illegalDataAddress, s) := by
  rw [memoryStore, InMemoryStore.serve, replyOf_look, InMemoryStore.readFileRecordBe]
  dsimp only
  rw [validateRange_eq_ok (u := ()).mpr g.property.2, rejectIf_neg (Nat.not_lt.mpr hshort)]
  cases hfile : s.files g.val.fileNumber with
  | none => rfl
  | some file =>
    have houtside : ¬g.val.recordNumber.toNat + g.val.recordLength.toNat ≤ file.length :=
      fun hle => h ⟨file, hfile, hle⟩
    show ((do
      rejectIf (g.val.recordNumber.toNat + g.val.recordLength.toNat > file.length)
        ExceptionCode.illegalDataAddress
      let out ← packRegistersBe _ _
      return (g.val.recordLength.toNat, out)), s) = _
    rw [rejectIf_pos (Nat.not_le.mp houtside)]
    rfl

/-- The head of a group as the loop reads it. -/
theorem readGroup_header :
    g.wire[0]! = 6 ∧ wordAt g.wire 1 = g.val.fileNumber ∧ wordAt g.wire 3 = g.val.recordNumber ∧
      wordAt g.wire 5 = g.val.recordLength :=
  ⟨g.property.1, fromBeBytes_shift _, fromBeBytes_shift _, fromBeBytes_shift _⟩

/-- Of the checks in front of the store call only that of the size can fail. -/
theorem readFileRecordGroups_cons (chunks : List (List UInt8)) (response : List UInt8) :
    readFileRecordGroups (g.wire :: chunks) response = (do
      orFail (rejectIf (g.val.recordLength.toNat > maxFileRecordRegisters) .illegalDataAddress)
      let (n, values) ← callStore (.readFileRecordBe g.val.fileNumber g.val.recordNumber
        g.val.recordLength (List.replicate (g.val.recordLength.toNat * 2) 0))
      let n ← orFail (validateStoreCount n g.val.recordLength g.val.recordLength.toNat)
      let respLen ← orFail (checkedResponseU8 (1 + 2 * n))
      let response := response ++ respLen :: 0x06 :: values.val
      orFail (rejectIf (response.length > 250) .illegalDataValue)
      readFileRecordGroups chunks response) := by
  obtain ⟨href, hfile, hrec, hlen⟩ := readGroup_header g
  rw [readFileRecordGroups, hfile, hrec, hlen, rejectIf_neg (not_not_intro href)]
  dsimp only
  rw [validateRange_eq_ok (u := ()).mpr g.property.2]
  rfl

theorem run_readFileRecordGroups_refused (chunks : List (List UInt8)) (response : List UInt8)
    (h : ¬(g.val.recordLength.toNat ≤ 122 ∧ Files.Has s.files g)) :
    (readFileRecordGroups (g.wire :: chunks) response).run.run (memoryStore config) s
      = (.error .illegalDataAddress, s) := by
  rw [readFileRecordGroups_cons]
  by_cases hshort : g.val.recordLength.toNat ≤ maxFileRecordRegisters
  · rw [rejectIf_neg (Nat.not_lt.mpr hshort), run_orFail_bind, run_bind, run_callStore,
      memoryStore_readFileRecordBe_outside s g hshort fun hhas => h ⟨hshort, hhas⟩]
  · rw [rejectIf_pos (Nat.not_le.mp hshort)]
    rfl

/-- A group that is read extends the response, if there is room for it. -/
theorem run_readFileRecordGroups_read (chunks : List (List UInt8)) (response : List UInt8)
    (hshort : g.val.recordLength.toNat ≤ 122) (h : Files.Has s.files g) :
    (readFileRecordGroups (g.wire :: chunks) response).run.run (memoryStore config) s
      = if response.length + (2 + 2 * g.val.recordLength.toNat) ≤ 250 then
          (readFileRecordGroups chunks (response ++ Files.group s.files g)).run.run
            (memoryStore config) s
        else (.error .illegalDataValue, s) := by
  obtain ⟨packed, hstore, hpacked⟩ := memoryStore_readFileRecordBe_inside s g hshort h
  have hcount : validateStoreCount g.val.recordLength.toNat g.val.recordLength
      g.val.recordLength.toNat = .ok g.val.recordLength.toNat :=
    validateStoreCount_eq_ok.mpr ⟨rfl, rfl, Nat.le_refl _⟩
  have hlen : checkedResponseU8 (1 + 2 * g.val.recordLength.toNat)
      = .ok (UInt8.ofNat (1 + 2 * g.val.recordLength.toNat)) := if_pos (by omega)
  have hgroup : response ++ UInt8.ofNat (1 + 2 * g.val.recordLength.toNat) :: 0x06 :: packed.val
      = response ++ Files.group s.files g := by
    rw [hpacked]
    rfl
  have hlength : (response ++ Files.group s.files g).length
      = response.length + (2 + 2 * g.val.recordLength.toNat) := by
    rw [List.length_append, Files.length_group h]
  have hsize : ¬g.val.recordLength.toNat > maxFileRecordRegisters := Nat.not_lt.mpr hshort
  rw [readFileRecordGroups_cons, rejectIf_neg hsize, run_orFail_bind, run_bind, run_callStore,
    hstore]
  dsimp only
  rw [hcount, run_orFail_bind]
  dsimp only
  rw [hlen, run_orFail_bind]
  dsimp only
  rw [hgroup, run_orFail_bind, hlength]
  by_cases hroom : response.length + (2 + 2 * g.val.recordLength.toNat) ≤ 250
  · rw [rejectIf_neg (Nat.not_lt.mpr hroom), if_pos hroom]
  · rw [rejectIf_pos (Nat.not_le.mp hroom), if_neg hroom]

end

/-- The loop answers all groups, if it can and has the room, and fails otherwise. -/
theorem run_readFileRecordGroups (s : InMemoryStore config) (gs : List ReadGroup)
    (response : List UInt8) (hroom : response.length ≤ 250) :
    (Files.Serves s.files (250 - response.length) gs →
      (readFileRecordGroups (gs.map ReadGroup.wire) response).run.run (memoryStore config) s
        = (.ok (response ++ gs.flatMap (Files.group s.files)), s)) ∧
    (¬Files.Serves s.files (250 - response.length) gs →
      ∃ e, (readFileRecordGroups (gs.map ReadGroup.wire) response).run.run (memoryStore config) s
        = (.error e, s)) := by
  induction gs generalizing response with
  | nil =>
    refine ⟨fun _ => ?_, fun h => absurd ⟨nofun, nofun, Nat.zero_le _⟩ h⟩
    rw [List.flatMap_nil, List.append_nil]
    rfl
  | cons g gs ih =>
    rw [Files.serves_cons, List.map_cons]
    by_cases hgroup : g.val.recordLength.toNat ≤ 122 ∧ Files.Has s.files g
    · rw [run_readFileRecordGroups_read s g _ _ hgroup.1 hgroup.2]
      have hlength : (response ++ Files.group s.files g).length
          = response.length + (2 + 2 * g.val.recordLength.toNat) := by
        rw [List.length_append, Files.length_group hgroup.2]
      by_cases hfits : response.length + (2 + 2 * g.val.recordLength.toNat) ≤ 250
      · rw [if_pos hfits]
        have ih := ih (response ++ Files.group s.files g) (by omega)
        rw [hlength, Nat.sub_add_eq, List.append_assoc, ← List.flatMap_cons] at ih
        refine ⟨fun h => ih.1 h.2.2, fun h => ih.2 fun hrest => h ⟨hgroup, by omega, hrest⟩⟩
      · rw [if_neg hfits]
        exact ⟨fun h => absurd h.2.1 (by omega), fun _ => ⟨_, rfl⟩⟩
    · rw [run_readFileRecordGroups_refused s g _ _ hgroup]
      exact ⟨fun h => absurd h.1 hgroup, fun _ => ⟨_, rfl⟩⟩

/-! ### The answer -/

theorem isExceptionPdu_encodeException (fc : FunctionCode) (ec : ExceptionCode) :
    IsExceptionPdu (encodeException fc.exceptionCode ec) :=
  ⟨fc.exceptionCode, rfl, (FunctionCode.exception_bits fc.code).1⟩

/-- How the in-memory store with these files answers a read of `gs`. -/
structure AnswersRead (files : Files) (gs : List ReadGroup) (reply : List UInt8) : Prop where
  /-- The answer is a normal one just when every record is there and the answers fit. -/
  normal_iff : ¬IsExceptionPdu reply ↔ files.Serves 250 gs
  /-- It then consists of one group for each of the request, in the same order, behind their
  number of bytes. -/
  normal : ¬IsExceptionPdu reply →
    reply = FunctionCode.readFileRecord.code :: UInt8.ofNat (Files.replyLength gs) ::
      gs.flatMap files.group
  /-- These are the bytes the codec writes for a response with this data. -/
  encoded : ¬IsExceptionPdu reply →
    let r : ReadFileRecordResponse :=
      { byteCount := UInt8.ofNat (Files.replyLength gs), data := gs.flatMap files.group }
    (ReadFileRecordResponse.encodeInto r).run (List.replicate r.encodedLen 0)
      = .ok r.encodedLen reply

variable {gs : List ReadGroup}

/-- What the handler checks of a request as a whole holds of every string of groups of that
length. -/
theorem readGroups_size {data : List UInt8} (hpos : 0 < data.length) (hle : data.length ≤ 0xF5)
    (hdata : data = gs.flatMap ReadGroup.wire) :
    ¬(data = [] ∨ data.length % 7 ≠ 0 ∨ data.length > 0xF5) := by
  rintro (hnil | hmod | hlong)
  · rw [hnil] at hpos
    exact Nat.lt_irrefl 0 hpos
  · rw [hdata, length_readGroups] at hmod
    exact hmod (Nat.mul_mod_left _ _)
  · exact Nat.not_lt.mpr hle hlong

/-- The groups reach the loop, with nothing in front of it that can fail. -/
theorem handleReadFileRecord_groups {req : ReadFileRecordRequest} (hpos : 0 < req.data.length)
    (hle : req.data.length ≤ 0xF5) (hdata : req.data = gs.flatMap ReadGroup.wire) :
    handleReadFileRecord req = answer .readFileRecord do
      let groups ← readFileRecordGroups (gs.map ReadGroup.wire) []
      let byteCount ← orFail (checkedResponseU8 groups.length)
      return FunctionCode.readFileRecord.code :: byteCount :: groups := by
  rw [handleReadFileRecord]
  dsimp only
  rw [rejectIf_neg (readGroups_size hpos hle hdata), hdata, chunksExact_readGroups]
  rfl

theorem encodeInto_readReply {files : Files} (h : files.Serves 250 gs) (hne : gs ≠ []) :
    let r : ReadFileRecordResponse :=
      { byteCount := UInt8.ofNat (Files.replyLength gs), data := gs.flatMap files.group }
    (ReadFileRecordResponse.encodeInto r).run (List.replicate r.encodedLen 0)
      = .ok r.encodedLen (FunctionCode.readFileRecord.code ::
          UInt8.ofNat (Files.replyLength gs) :: gs.flatMap files.group) := by
  intro r
  have hlength := Files.length_flatMap_group h
  have hfits := h.fits
  have hfirst := Files.four_le_replyLength hne
  have hcount : r.byteCount.toNat = Files.replyLength gs := by
    show (UInt8.ofNat (Files.replyLength gs)).toNat = _
    rw [UInt8.toNat_ofNat', Nat.mod_eq_of_lt (by omega)]
  have hdata : r.data.length = r.byteCount.toNat := hlength.trans hcount.symm
  have hemits : Emits (ReadFileRecordResponse.encodeInto r) r.encodedLen _ _ :=
    CountedData.encodeFileRecord_emits (fun hbytes => by rw [CountedData.encodedLen, hbytes])
      (walkReadGroups_eq_ok _)
  have hpdu : (FunctionCode.readFileRecord.code :: r.body).length ≤ maxPduSize := by
    show r.data.length + 1 + 1 ≤ 253
    omega
  have hwritten := hemits.written (List.replicate r.encodedLen 0)
    (Nat.le_of_eq List.length_replicate.symm)
    ⟨⟨⟨by omega, by omega⟩, hdata, Files.exists_readDataGroups h⟩, hpdu⟩
  rw [List.drop_of_length_le (Nat.le_of_eq List.length_replicate), List.append_nil] at hwritten
  exact hwritten

theorem run_handleReadFileRecord (s : InMemoryStore config) {req : ReadFileRecordRequest}
    (hpos : 0 < req.data.length) (hle : req.data.length ≤ 0xF5)
    (hdata : req.data = gs.flatMap ReadGroup.wire) :
    ∃ reply, (handleReadFileRecord req).run (memoryStore config) s = (reply, s) ∧
      AnswersRead s.files gs reply := by
  have hne : gs ≠ [] := by
    rintro rfl
    rw [hdata] at hpos
    exact Nat.lt_irrefl 0 hpos
  rw [handleReadFileRecord_groups hpos hle hdata, run_answer, run_bind]
  have hloop := run_readFileRecordGroups s gs [] (Nat.zero_le _)
  by_cases hserves : Files.Serves s.files 250 gs
  · have hfits := hserves.fits
    have hcount : checkedResponseU8 (gs.flatMap (Files.group s.files)).length
        = .ok (UInt8.ofNat (Files.replyLength gs)) := by
      rw [Files.length_flatMap_group hserves]
      exact if_pos (by omega)
    rw [hloop.1 hserves]
    dsimp only
    rw [List.nil_append, hcount]
    have hnormal : ¬IsExceptionPdu (FunctionCode.readFileRecord.code ::
        UInt8.ofNat (Files.replyLength gs) :: gs.flatMap (Files.group s.files)) :=
      @not_isExceptionPdu .readFileRecord _ rfl
    exact ⟨_, rfl, iff_of_true hnormal hserves, fun _ => rfl,
      fun _ => encodeInto_readReply hserves hne⟩
  · obtain ⟨e, he⟩ := hloop.2 hserves
    rw [he]
    have hexc := isExceptionPdu_encodeException .readFileRecord e
    exact ⟨_, rfl, iff_of_false (not_not_intro hexc) hserves, fun h => absurd hexc h,
      fun h => absurd hexc h⟩

theorem readRequest_groups {req : ReadFileRecordRequest}
    (hv : (RequestPdu.readFileRecord req).Valid) :
    0 < req.data.length ∧ req.data.length ≤ 0xF5 ∧
      ∃ gs : List ReadGroup, req.data = gs.flatMap ReadGroup.wire := by
  have hmin : 7 ≤ req.byteCount.toNat := hv.1.1
  have hmax : req.byteCount.toNat ≤ 245 := hv.1.2
  have hcount : req.data.length = req.byteCount.toNat := hv.2.1
  exact ⟨by omega, by omega, validateReadFileSubRequests_eq_ok.mp hv.2.2⟩

/-- A read of file records that the decoder passes is a string of groups. It is answered with the
records of all of them, or with an exception if one of them does not exist, is longer than 122
records, or if the answers would take more than 250 bytes. Nothing is changed. -/
theorem readFileRecord_answered (s : InMemoryStore config) {pdu : List UInt8}
    {req : ReadFileRecordRequest} (h : decodeRequest pdu = .ok (.readFileRecord req))
    {unitId : UnitId} (hunit : unitId ≠ 0) (deviceId : DeviceIdentification) :
    ∃ (gs : List ReadGroup) (reply : List UInt8),
      pdu = FunctionCode.readFileRecord.code :: req.byteCount :: gs.flatMap ReadGroup.wire ∧
      (processRequest pdu unitId deviceId).run (memoryStore config) s = (some reply, s) ∧
      AnswersRead s.files gs reply := by
  obtain ⟨rfl, hv, hlen⟩ := decodeRequest_eq_ok.mp h
  obtain ⟨hpos, hle, gs, hdata⟩ := readRequest_groups hv
  obtain ⟨reply, hrun, hanswer⟩ := run_handleReadFileRecord s hpos hle hdata
  refine ⟨gs, reply, ?_, ?_, hanswer⟩
  · rw [← hdata]
    rfl
  · rw [run_processRequest_wire _ _ deviceId hv hlen hunit, dispatchRequest, run_ask, hrun]

/-- A small store with one file of one record. -/
def oneFileStore : InMemoryStore oneOfEach :=
  { oneOfEachStore with files := fun n => if n = 1 then some [0x1234] else none }

/-- The header of the first record of file 1. -/
def firstRecord : ReadGroup :=
  ⟨{ referenceType := 6, fileNumber := 1, recordNumber := 0, recordLength := 1 },
    rfl, by decide, by decide, by decide⟩

theorem readFileRecord_answered_firstRecord :
    ∃ (gs : List ReadGroup) (reply : List UInt8),
      [0x14, 7, 6, 0, 1, 0, 0, 0, 1]
        = FunctionCode.readFileRecord.code :: 7 :: gs.flatMap ReadGroup.wire ∧
      (processRequest [0x14, 7, 6, 0, 1, 0, 0, 0, 1] 1 unnamedDevice).run (memoryStore oneOfEach)
        oneFileStore = (some reply, oneFileStore) ∧
      AnswersRead oneFileStore.files gs reply :=
  have hdecode : decodeRequest [0x14, 7, 6, 0, 1, 0, 0, 0, 1]
      = .ok (.readFileRecord ⟨7, [6, 0, 1, 0, 0, 0, 1]⟩) :=
    decodeRequest_eq_ok.mpr ⟨rfl,
      ⟨by decide, rfl, validateReadFileSubRequests_eq_ok.mpr ⟨[firstRecord], rfl⟩⟩, by decide⟩
  have hunit : (1 : UnitId) ≠ 0 := by decide
  readFileRecord_answered oneFileStore hdecode hunit unnamedDevice

/-! ## Writing -/

namespace Files

/-- A file after `values` have been written to its records from `start` on: it reaches at least as
far as the write, and records it did not have before are zero. -/
def writtenFile (file : List UInt16) (start : Nat) (values : List UInt16) : List UInt16 :=
  (List.range (max file.length (start + values.length))).map fun i =>
    if start ≤ i ∧ i < start + values.length then values.getD (i - start) 0 else file.getD i 0

/-- The files after a group has been written. The file is created if it does not exist. -/
def write (files : Files) (g : WriteGroup) : Files := fun n =>
  if n = g.fileNumber then
    some (writtenFile ((files n).getD []) g.recordNumber.toNat (registersOf g.values))
  else files n

end Files

/-- Filling up with zeros shows in no record that was not there. -/
theorem getElem?_append_zeros (file : List UInt16) (n i : Nat) :
    (file ++ List.replicate n 0)[i]? = if i < file.length + n then some (file.getD i 0) else none := by
  rw [List.getElem?_append, List.getElem?_replicate, List.getD_eq_getElem?_getD]
  by_cases hi : i < file.length
  · rw [if_pos hi, if_pos (by omega), List.getElem?_eq_getElem hi, Option.getD_some]
  · rw [if_neg hi, List.getElem?_eq_none (Nat.not_lt.mp hi), Option.getD_none]
    by_cases hn : i < file.length + n
    · rw [if_pos hn, if_pos (by omega)]
    · rw [if_neg hn, if_neg (by omega)]

theorem writeRecords_eq (file : List UInt16) (start : Nat) (values : List UInt16) :
    InMemoryStore.writeRecords file start values.length values
      = Files.writtenFile file start values := by
  have hfile : (if start + values.length > file.length then
      file ++ List.replicate (start + values.length - file.length) 0 else file)
      = file ++ List.replicate (start + values.length - file.length) 0 := by
    split
    · rfl
    · rw [Nat.sub_eq_zero_of_le (by omega), List.replicate_zero, List.append_nil]
  have hlong : start + values.length
      ≤ (file ++ List.replicate (start + values.length - file.length) 0).length := by
    rw [List.length_append, List.length_replicate]
    omega
  rw [InMemoryStore.writeRecords, List.take_length]
  rw [hfile]
  refine List.ext_getElem? fun i => ?_
  rw [getElem?_writeAt hlong, getElem?_append_zeros, Files.writtenFile, List.getElem?_map]
  by_cases hi : i < max file.length (start + values.length)
  · rw [List.getElem?_range hi, Option.map_some, if_pos (c := i < _) (by omega)]
    by_cases hmid : start ≤ i ∧ i < start + values.length
    · have hin : i - start < values.length := by omega
      rw [if_pos hmid, if_pos hmid, List.getElem?_eq_getElem hin, List.getD_eq_getElem?_getD,
        List.getElem?_eq_getElem hin, Option.getD_some]
    · rw [if_neg hmid, if_neg hmid]
  · have hbeyond : (List.range (max file.length (start + values.length)))[i]? = none :=
      List.getElem?_eq_none (by rw [List.length_range]; omega)
    rw [if_neg (c := start ≤ i ∧ i < _) (by omega), if_neg (c := i < _) (by omega), hbeyond,
      Option.map_none]

/-- The group as the second parse puts it into its array. -/
def parsedGroup (g : WriteGroup) : WriteFileRecordGroup :=
  { file := g.fileNumber, record := g.recordNumber, length := g.recordLength,
    valueBytes := g.values }

theorem parsedGroup_checked (g : WriteGroup) : (parsedGroup g).Checked :=
  ⟨g.inRange, g.values_length⟩

theorem written_parsedGroup (g : WriteGroup) (s : InMemoryStore config) :
    (parsedGroup g).written s = { s with files := Files.write s.files g } := by
  have hlen : (registersOf g.values).length = g.recordLength.toNat := by
    rw [registersOf, List.length_map, length_chunksExact (by decide) g.values_length]
  have hfiles : ((parsedGroup g).written s).files = Files.write s.files g := by
    funext n
    show (if n = g.fileNumber then some (InMemoryStore.writeRecords ((s.files g.fileNumber).getD [])
      g.recordNumber.toNat g.recordLength.toNat (registersOf g.values)) else s.files n) = _
    rw [Files.write, ← hlen, writeRecords_eq]
    split
    next h => rw [h]
    next => rfl
  rw [← hfiles]
  rfl

theorem foldl_written (gs : List WriteGroup) (s : InMemoryStore config) :
    (gs.map parsedGroup).foldl (fun s g => g.written s) s
      = { s with files := gs.foldl Files.write s.files } := by
  induction gs generalizing s with
  | nil => rfl
  | cons g gs ih =>
    rw [List.map_cons, List.foldl_cons, written_parsedGroup, ih]
    rfl

/-- The second parse takes what the decoder took, as long as its array has room. -/
theorem parseWriteGroups_wire (gs : List WriteGroup) (n : Nat)
    (h : n + gs.length ≤ maxWriteFileRecordGroups) :
    parseWriteGroups (gs.flatMap WriteGroup.wire) n = .ok (gs.map parsedGroup) := by
  induction gs generalizing n with
  | nil => simp [parseWriteGroups]
  | cons g gs ih =>
    have hlen := g.wire_length
    have hdata : (g :: gs).flatMap WriteGroup.wire
        = g.header.wire ++ (g.values ++ gs.flatMap WriteGroup.wire) := by
      rw [List.flatMap_cons, WriteGroup.wire, List.append_assoc]
    have hne : (g :: gs).flatMap WriteGroup.wire ≠ [] := by
      rw [hdata]
      exact List.cons_ne_nil _ _
    have href : ((g :: gs).flatMap WriteGroup.wire)[0]! = 6 := by
      rw [hdata]
      rfl
    have hfile : wordAt ((g :: gs).flatMap WriteGroup.wire) 1 = g.fileNumber := by
      rw [hdata]
      exact fromBeBytes_shift _
    have hrec : wordAt ((g :: gs).flatMap WriteGroup.wire) 3 = g.recordNumber := by
      rw [hdata]
      exact fromBeBytes_shift _
    have hcount : wordAt ((g :: gs).flatMap WriteGroup.wire) 5 = g.recordLength := by
      rw [hdata]
      exact fromBeBytes_shift _
    have hend : g.wire.length = 7 + 2 * g.recordLength.toNat := by omega
    have hlength : ((g :: gs).flatMap WriteGroup.wire).length
        = 7 + 2 * g.recordLength.toNat + (gs.flatMap WriteGroup.wire).length := by
      rw [List.flatMap_cons, List.length_append, hend]
    have hvalues : (((g :: gs).flatMap WriteGroup.wire).take
        (7 + 2 * g.recordLength.toNat)).drop 7 = g.values := by
      rw [List.flatMap_cons, List.take_left' hend, WriteGroup.wire,
        List.drop_left' g.header.wire_length]
    have hrest : ((g :: gs).flatMap WriteGroup.wire).drop (7 + 2 * g.recordLength.toNat)
        = gs.flatMap WriteGroup.wire := by
      rw [List.flatMap_cons, List.drop_left' hend]
    have hroom : n ≠ maxWriteFileRecordGroups := by
      rw [List.length_cons] at h
      omega
    rw [parseWriteGroups, dif_neg hne, rejectIf_neg (by omega),
      rejectIf_neg (not_not_intro href), hfile, hrec, hcount]
    dsimp only
    rw [rejectIf_neg (by omega), validateRange_eq_ok (u := ()).mpr g.inRange,
      rejectIf_neg hroom, hvalues, hrest,
      ih (n + 1) (by rw [List.length_cons] at h; omega)]
    rfl

/-- The array has room: a group takes at least nine bytes. -/
theorem length_le_of_wire {gs : List WriteGroup}
    (h : (gs.flatMap WriteGroup.wire).length ≤ maxWriteFileRecordRequestBytes) :
    gs.length ≤ maxWriteFileRecordGroups := by
  have hnine : 9 * gs.length ≤ (gs.flatMap WriteGroup.wire).length := by
    clear h
    induction gs with
    | nil => exact Nat.le_refl 0
    | cons g gs ih =>
      have hpos : 0 < g.recordLength.toNat := g.inRange.2.1
      rw [List.flatMap_cons, List.length_append, g.wire_length, List.length_cons]
      omega
  have hle : 9 * gs.length ≤ 251 := Nat.le_trans hnine h
  show gs.length ≤ 27
  omega

variable {req : WriteFileRecordRequest}

theorem writeRequest_groups (hv : (RequestPdu.writeFileRecord req).Valid) :
    ∃ gs : List WriteGroup, req.data = gs.flatMap WriteGroup.wire ∧
      gs.length ≤ maxWriteFileRecordGroups ∧
      parseWriteGroups req.data 0 = .ok (gs.map parsedGroup) := by
  obtain ⟨gs, hdata⟩ := (walkWriteGroups_eq_ok readsHeader_decode _).mp hv.2.2
  have hmax : req.byteCount.toNat ≤ maxWriteFileRecordRequestBytes := hv.1.2
  have hcount : req.data.length = req.byteCount.toNat := hv.2.1
  have hroom : gs.length ≤ maxWriteFileRecordGroups := by
    refine length_le_of_wire ?_
    rw [← hdata, hcount]
    exact hmax
  refine ⟨gs, hdata, hroom, ?_⟩
  rw [hdata]
  exact parseWriteGroups_wire gs 0 (by omega)

/-- The handler's check of the byte count is that of the decoder. -/
theorem writeRequest_byteCount (hv : (RequestPdu.writeFileRecord req).Valid) :
    0x09 ≤ req.byteCount ∧ req.byteCount ≤ 0xFB :=
  ⟨UInt8.le_iff_toNat_le.mpr hv.1.1, UInt8.le_iff_toNat_le.mpr hv.1.2⟩

/-- Only the store calls of a write are left. -/
theorem applyWriteFileRecord_groups {gs : List WriteGroup}
    (hv : (RequestPdu.writeFileRecord req).Valid)
    (hparse : parseWriteGroups req.data 0 = .ok (gs.map parsedGroup)) :
    applyWriteFileRecord req = writeGroups (gs.map parsedGroup) := by
  rw [applyWriteFileRecord, rejectIf_neg (not_not_intro (writeRequest_byteCount hv)), hparse]
  rfl

theorem run_applyWriteFileRecord (s : InMemoryStore config) {gs : List WriteGroup}
    (hv : (RequestPdu.writeFileRecord req).Valid)
    (hparse : parseWriteGroups req.data 0 = .ok (gs.map parsedGroup)) :
    (applyWriteFileRecord req).run.run (memoryStore config) s
      = (.ok (), { s with files := gs.foldl Files.write s.files }) := by
  rw [applyWriteFileRecord_groups hv hparse, run_writeGroups (fun g hg => ?_), foldl_written]
  obtain ⟨g, -, rfl⟩ := List.mem_map.mp hg
  exact parsedGroup_checked g

/-- A write of file records that the decoder passes is a string of groups, at most 27 of them, and
the second parse finds just these. The groups are written one after the other and the request is
sent back. -/
theorem writeFileRecord_carriedOut (s : InMemoryStore config) {pdu : List UInt8}
    {req : WriteFileRecordRequest} (h : decodeRequest pdu = .ok (.writeFileRecord req))
    {unitId : UnitId} (hunit : unitId ≠ 0) (deviceId : DeviceIdentification) :
    ∃ gs : List WriteGroup,
      pdu = FunctionCode.writeFileRecord.code :: req.byteCount :: gs.flatMap WriteGroup.wire ∧
      (processRequest pdu unitId deviceId).run (memoryStore config) s
        = (some pdu, { s with files := gs.foldl Files.write s.files }) ∧
      gs.length ≤ maxWriteFileRecordGroups ∧
      parseWriteGroups req.data 0 = .ok (gs.map parsedGroup) := by
  obtain ⟨rfl, hv, hlen⟩ := decodeRequest_eq_ok.mp h
  obtain ⟨gs, hdata, hroom, hparse⟩ := writeRequest_groups hv
  refine ⟨gs, ?_, ?_, hroom, hparse⟩
  · rw [← hdata]
    rfl
  · rw [run_processRequest_wire _ _ deviceId hv hlen hunit, dispatchRequest, run_command,
      run_applyWriteFileRecord s hv hparse, encodeResponse_writeFileRecord hv hlen]

/-- The header of the second record of file 1, with a value for it. -/
def secondRecord : WriteGroup where
  fileNumber := 1
  recordNumber := 1
  recordLength := 1
  values := [0xAB, 0xCD]
  inRange := ⟨by decide, by decide, by decide⟩
  values_length := rfl

theorem writeFileRecord_carriedOut_secondRecord :
    ∃ gs : List WriteGroup,
      [0x15, 9, 6, 0, 1, 0, 1, 0, 1, 0xAB, 0xCD]
        = FunctionCode.writeFileRecord.code :: 9 :: gs.flatMap WriteGroup.wire ∧
      (processRequest [0x15, 9, 6, 0, 1, 0, 1, 0, 1, 0xAB, 0xCD] 1 unnamedDevice).run
          (memoryStore oneOfEach) oneFileStore
        = (some [0x15, 9, 6, 0, 1, 0, 1, 0, 1, 0xAB, 0xCD],
            { oneFileStore with files := gs.foldl Files.write oneFileStore.files }) ∧
      gs.length ≤ maxWriteFileRecordGroups ∧
      parseWriteGroups [6, 0, 1, 0, 1, 0, 1, 0xAB, 0xCD] 0 = .ok (gs.map parsedGroup) :=
  have hdecode : decodeRequest [0x15, 9, 6, 0, 1, 0, 1, 0, 1, 0xAB, 0xCD]
      = .ok (.writeFileRecord ⟨9, [6, 0, 1, 0, 1, 0, 1, 0xAB, 0xCD]⟩) :=
    decodeRequest_eq_ok.mpr ⟨rfl, ⟨by decide, rfl,
      (walkWriteGroups_eq_ok readsHeader_decode _).mpr ⟨[secondRecord], rfl⟩⟩, by decide⟩
  have hunit : (1 : UnitId) ≠ 0 := by decide
  writeFileRecord_carriedOut oneFileStore hdecode hunit unnamedDevice

end RustyModbus.Server
