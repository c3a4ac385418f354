import RustyModbus.Server.Memory
import RustyModbus.Server.WellFormed

/-!
# An exception means nothing has changed

Against the in-memory store, a request that is answered with an exception has left the
store as it was. Most handlers make one store call that can change anything, as the last
thing that can fail; they are atomic because that call is. Write File Record makes one call
per group. There the reason is another one: the groups were all checked before the first
call, and a call with a checked group does not fail (`run_writeGroups`).
-/

namespace RustyModbus.Server

open Wire Interaction Fallible InMemoryStore

/-- The exception flag is set in the first byte. -/
def IsExceptionPdu (pdu : List UInt8) : Prop := ∃ b, pdu.head? = some b ∧ b &&& 0x80 ≠ 0

variable {fc : FunctionCode}

theorem not_isExceptionPdu {data : List UInt8} (h : FunctionCode.fromRaw fc.code = some fc) :
    ¬IsExceptionPdu (fc.code :: data) := by
  intro ⟨b, hb, hflag⟩
  obtain rfl := Option.some.inj hb
  exact hflag (FunctionCode.fromRaw_eq_some.mp h).2.1

variable {config : StoreConfig}

/-- If the program answers with an exception, the store is as it was. -/
def ExceptionSafe (config : StoreConfig) (p : StoreProgram (Option (List UInt8))) : Prop :=
  ∀ s reply s', p.run (memoryStore config) s = (some reply, s') → IsExceptionPdu reply → s' = s

/-! ## Store calls -/

theorem readOnly_callStore {op : StoreOp} (hop : ¬op.Writes) :
    ReadOnly (memoryStore config) (callStore op) :=
  fun s => memoryStore_unchanged hop s

theorem atomic_callStore (op : StoreOp) : Atomic (memoryStore config) (callStore op) :=
  fun _ _ _ h => memoryStore_error h

theorem readOnly_orFail {α : Type} (x : Except ExceptionCode α) :
    ReadOnly (memoryStore config) (orFail x) := ReadOnly.ofExcept x

theorem readOnly_check {α β : Type} {x : Except ExceptionCode α} {f : α → Handler β}
    (hf : ∀ a, ReadOnly (memoryStore config) (f a)) :
    ReadOnly (memoryStore config) (orFail x >>= f) := .bind (readOnly_orFail x) hf

/-- A check, then an atomic call. -/
theorem atomic_check_bind {α : Type} {x : Except ExceptionCode Unit} {h : Handler α}
    (hh : Atomic (memoryStore config) h) : Atomic (memoryStore config) (do orFail x; h) :=
  Atomic.bind (readOnly_orFail x) (Returns.trivial _) fun _ _ => hh

/-! ## Programs -/

theorem ExceptionSafe.of_readOnly {p : StoreProgram (Option (List UInt8))}
    (h : ∀ s, (p.run (memoryStore config) s).2 = s) : ExceptionSafe config p := by
  intro s reply s' hrun _
  have := h s
  rwa [hrun] at this

variable {isBroadcast : Bool}

theorem run_ask_snd {p : StoreProgram (List UInt8)} (h : ∀ s, (p.run (memoryStore config) s).2 = s)
    (s : InMemoryStore config) :
    ((ask isBroadcast p).run (memoryStore config) s).2 = s := by
  cases isBroadcast with
  | true => rfl
  | false =>
    show ((p >>= fun r => pure (some r)).run (memoryStore config) s).2 = s
    rw [Program.run_bind]
    exact h s

variable {h : Handler (List UInt8)}

theorem run_answer_snd (hh : ReadOnly (memoryStore config) h) (s : InMemoryStore config) :
    ((answer fc h).run (memoryStore config) s).2 = s := by
  rw [answer, Program.run_bind]
  have hs := hh s
  cases hrun : h.run.run (memoryStore config) s with
  | mk r t =>
    rw [hrun] at hs
    cases r <;> exact hs

/-- A question: nothing changes, whatever the answer. -/
theorem ExceptionSafe.ask (hh : ReadOnly (memoryStore config) h) :
    ExceptionSafe config (ask isBroadcast (answer fc h)) :=
  of_readOnly (run_ask_snd (run_answer_snd hh))

/-- A command: an atomic change, confirmed with a response that is not an exception. -/
theorem ExceptionSafe.command {apply : Handler Unit} {response : List UInt8}
    (happly : Atomic (memoryStore config) apply) (hresponse : ¬IsExceptionPdu response) :
    ExceptionSafe config (command isBroadcast fc apply response) := by
  intro s reply s' hrun hexc
  rw [Server.command, Program.run_bind] at hrun
  have hfail := happly s
  cases hrun' : apply.run.run (memoryStore config) s with
  | mk r t =>
    rw [hrun'] at hrun hfail
    cases isBroadcast with
    | true => cases hrun
    | false =>
      cases r with
      | ok u =>
        cases hrun
        exact absurd hexc hresponse
      | error e =>
        cases hrun
        exact hfail e _ rfl

/-- A compound call, whose answer is not an exception. -/
theorem ExceptionSafe.ask_atomic (hh : Atomic (memoryStore config) h)
    (hresponse : Returns (fun r => ¬IsExceptionPdu r) h) :
    ExceptionSafe config (Server.ask isBroadcast (answer fc h)) := by
  intro s reply s' hrun hexc
  cases isBroadcast with
  | true => cases hrun
  | false =>
    have hrun : ((answer fc h >>= fun r => pure (some r)).run (memoryStore config) s)
        = (some reply, s') := hrun
    rw [Program.run_bind, answer, Program.run_bind] at hrun
    have hfail := hh s
    have hok := hresponse.run (memoryStore config) s
    cases hrun' : h.run.run (memoryStore config) s with
    | mk r t =>
      rw [hrun'] at hrun hfail hok
      cases r with
      | ok response =>
        cases hrun
        exact absurd hexc (hok response rfl)
      | error e =>
        cases hrun
        exact hfail e _ rfl

/-! ## Write File Record -/

/-- A group as the first pass leaves it. -/
def WriteFileRecordGroup.Checked (g : WriteFileRecordGroup) : Prop :=
  FileRange g.file g.record g.length ∧ g.valueBytes.length = g.length.toNat * 2

theorem parseWriteGroups_checked {subs : List UInt8} {n : Nat}
    {groups : List WriteFileRecordGroup} (h : parseWriteGroups subs n = .ok groups) :
    ∀ g ∈ groups, g.Checked := by
  fun_induction parseWriteGroups subs n generalizing groups with
  | case1 n =>
    cases h
    exact nofun
  | case2 subs n hne ih =>
    obtain ⟨-, h⟩ := check_bind_eq_ok.mp h
    obtain ⟨-, h⟩ := check_bind_eq_ok.mp h
    obtain ⟨hroom, h⟩ := check_bind_eq_ok.mp h
    obtain ⟨hrange, h⟩ := check_bind_eq_ok.mp h
    obtain ⟨-, h⟩ := check_bind_eq_ok.mp h
    obtain ⟨rest, hrest, h⟩ := bind_eq_ok.mp h
    obtain rfl := pure_eq_ok.mp h
    rw [rejectIf_eq_ok, Nat.not_lt] at hroom
    intro g hg
    rcases List.mem_cons.mp hg with rfl | hg
    · refine ⟨validateRange_eq_ok.mp hrange, ?_⟩
      show ((subs.take (7 + 2 * (wordAt subs 5).toNat)).drop 7).length = _
      rw [List.length_drop, List.length_take]
      show min (7 + 2 * (wordAt subs 5).toNat) subs.length - 7 = (wordAt subs 5).toNat * 2
      omega
    · exact ih hrest g hg

/-- The store after a group has been written. -/
def WriteFileRecordGroup.written (g : WriteFileRecordGroup) (s : InMemoryStore config) :
    InMemoryStore config :=
  { s with
    files := fun n => if n = g.file then
        some (writeRecords ((s.files g.file).getD []) g.record.toNat g.length.toNat
          (registersOf g.valueBytes))
      else s.files n }

theorem memoryStore_writeFileRecordBe {g : WriteFileRecordGroup} (hg : g.Checked)
    (s : InMemoryStore config) :
    memoryStore config (.writeFileRecordBe g.file g.record g.length g.valueBytes) s
      = (.ok (), g.written s) := by
  have hlen : (rejectIf (g.valueBytes.length ≠ g.length.toNat * 2) .illegalDataValue
      : Except ExceptionCode Unit) = .ok () := rejectIf_eq_ok.mpr (not_not_intro hg.2)
  have hrange := validateRange_eq_ok (u := ()).mpr hg.1
  rw [memoryStore, serve, writeFileRecordBe, run_check_bind, hlen]
  dsimp only
  rw [run_check_bind, hrange]
  rfl

/-- The second pass does not fail, and writes group after group. -/
theorem run_writeGroups {groups : List WriteFileRecordGroup} (h : ∀ g ∈ groups, g.Checked)
    (s : InMemoryStore config) :
    (writeGroups groups).run.run (memoryStore config) s
      = (.ok (), groups.foldl (fun s g => g.written s) s) := by
  induction groups generalizing s with
  | nil => rfl
  | cons g groups ih =>
    rw [writeGroups, run_bind, run_callStore,
      memoryStore_writeFileRecordBe (h g List.mem_cons_self) s]
    exact ih (fun g' hg' => h g' (List.mem_cons_of_mem _ hg')) _

theorem atomic_applyWriteFileRecord (req : WriteFileRecordRequest) :
    Atomic (memoryStore config) (applyWriteFileRecord req) := by
  refine atomic_check_bind <| Atomic.bind (readOnly_orFail _)
    (returns_orFail fun _ => parseWriteGroups_checked) fun groups hgroups => ?_
  intro s e s' hrun
  rw [run_writeGroups hgroups s] at hrun
  cases hrun

/-! ## Read/Write Multiple Registers -/

/-- A read/write call that succeeds was in range and read as much as it was asked for. -/
theorem memoryStore_atomicReadWrite_ok {ra rq wa wq : UInt16} {values out : List UInt8}
    {s s' : InMemoryStore config} {a : Nat × Slice out}
    (h : memoryStore config (.atomicReadWriteRegistersBe ra rq wa wq values out) s = (.ok a, s')) :
    a.1 = rq.toNat ∧ ra.toNat + rq.toNat ≤ config.holdingRegisterCount := by
  rw [memoryStore, serve, atomicReadWriteRegistersBe, run_check_bind] at h
  cases hbuffers : validateAtomicReadWriteBuffers rq wq values out with
  | error e =>
    rw [hbuffers] at h
    cases h
  | ok counts =>
    have hcounts : (rq.toNat, wq.toNat) = counts :=
      pure_eq_ok.mp (check_bind_eq_ok.mp (check_bind_eq_ok.mp hbuffers).2).2
    subst hcounts
    rw [hbuffers] at h
    dsimp only at h
    rw [run_get_bind, run_check_bind] at h
    cases hwrite : checkRange wa wq.toNat config.holdingRegisterCount with
    | error e =>
      rw [hwrite] at h
      cases h
    | ok _ =>
      rw [hwrite] at h
      dsimp only at h
      rw [run_check_bind] at h
      cases hread : checkRange ra rq.toNat config.holdingRegisterCount with
      | error e =>
        rw [hread] at h
        cases h
      | ok hrange =>
        rw [hread] at h
        dsimp only at h
        rw [run_set_bind, run_check_bind] at h
        split at h
        next =>
          cases h
          exact ⟨rfl, hrange.down⟩
        next => cases h

theorem atomic_handleReadWriteMultiple (req : ReadWriteMultipleRegistersRequest) :
    ∃ h, handleReadWriteMultiple req = answer .readWriteMultipleRegisters h ∧
      Atomic (memoryStore config) h ∧ Returns (fun r => ¬IsExceptionPdu r) h := by
  refine ⟨_, rfl, ?_, ?_⟩
  · refine atomic_check_bind <| Atomic.bind (readOnly_orFail _) (Returns.trivial _) fun byteCount _ =>
      ?_
    intro s e s' hrun
    rw [run_bind, run_callStore] at hrun
    cases hstore : memoryStore config (.atomicReadWriteRegistersBe req.readAddress req.readQuantity
        req.writeAddress req.writeQuantity req.writeRegisterValues
        (List.replicate byteCount.toNat 0)) s with
    | mk r t =>
      rw [hstore] at hrun
      cases r with
      | error e' =>
        cases hrun
        exact memoryStore_error hstore
      | ok a =>
        -- the count is the requested one, so the check of it passes
        have hcount : validateStoreCount a.1 req.readQuantity req.readQuantity.toNat
            = .ok a.1 := by
          have := (memoryStore_atomicReadWrite_ok hstore).1
          exact validateStoreCount_eq_ok.mpr ⟨rfl, this, Nat.le_of_eq this⟩
        dsimp only at hrun
        rw [hcount] at hrun
        cases hrun
  · refine .skip fun _ => .skip fun _ => .skip fun _ => .skip fun _ => .pure ?_
    exact not_isExceptionPdu (FunctionCode.fromRaw_code nofun)

/-! ## Dispatch -/

theorem readOnly_readFileRecordGroups (chunks : List (List UInt8)) (response : List UInt8) :
    ReadOnly (memoryStore config) (readFileRecordGroups chunks response) := by
  induction chunks generalizing response with
  | nil => exact .pure _
  | cons chunk chunks ih =>
    refine readOnly_check fun _ => readOnly_check fun _ =>
      readOnly_check fun _ => .bind (readOnly_callStore id) fun _ =>
      readOnly_check fun _ => readOnly_check fun _ => readOnly_check fun _ => ih _

theorem readOnly_readRegistersOf (isHolding : Bool) (address quantity : UInt16)
    (out : List UInt8) :
    ReadOnly (memoryStore config) (readRegistersOf isHolding address quantity out) := by
  cases isHolding <;> exact readOnly_callStore id

theorem readOnly_readBitsOf (isCoils : Bool) (address quantity : UInt16) (out : List UInt8) :
    ReadOnly (memoryStore config) (readBitsOf isCoils address quantity out) := by
  cases isCoils <;> exact readOnly_callStore id

theorem run_handleDiagnostics_snd (sub : DiagnosticSubFunction) (data : List UInt8)
    (s : InMemoryStore config) :
    ((handleDiagnostics sub data).run (memoryStore config) s).2 = s := by
  have hs : ((callStore (.appendDiagnosticResponse sub data)).run.run (memoryStore config) s).2 = s :=
    readOnly_callStore id s
  rw [handleDiagnostics, Program.run_bind]
  cases hrun : (callStore (.appendDiagnosticResponse sub data)).run.run (memoryStore config) s with
  | mk r t =>
    rw [hrun] at hs
    cases r with
    | error ec => exact hs
    | ok result =>
      obtain ⟨count, appended⟩ := result
      cases count with
      | none => exact hs
      | some count =>
        dsimp only
        split <;> exact hs

/-- An encoded response to a valid request is not the fallback exception. -/
theorem not_isExceptionPdu_encodeResponse {len : Nat} {m : Encoder EncodeError Nat} {P : Prop}
    {body : List UInt8} (hm : Encoder.Emits m len P (fc.code :: body)) (hP : P)
    (hfc : ∀ b, fc ≠ .custom b) :
    ¬IsExceptionPdu (encodeResponse fc len m) := by
  rw [encodeResponse_sendable hm hP]
  exact not_isExceptionPdu (FunctionCode.fromRaw_code hfc)

/-- The confirmation of a write of file records is the request. -/
theorem encodeResponse_writeFileRecord {req : WriteFileRecordRequest}
    (hv : (RequestPdu.writeFileRecord req).Valid)
    (hlen : (RequestPdu.writeFileRecord req).wire.length ≤ maxPduSize) :
    encodeResponse .writeFileRecord (CountedData.encodedLen ⟨req.byteCount, req.data⟩)
        (WriteFileRecordResponse.encodeInto ⟨req.byteCount, req.data⟩)
      = (RequestPdu.writeFileRecord req).wire := by
  refine encodeResponse_sendable (CountedData.encodeFileRecord_emits (fun hcount => ?_)
    validateWriteFilePayloadEncode_eq_ok) ⟨⟨hv.1, hv.2.1, ?_⟩, hlen⟩
  · rw [CountedData.encodedLen, hcount]
  · exact (walkWriteGroups_eq_ok (readsHeader_readSubRequest _ _) _).mpr
      ((walkWriteGroups_eq_ok readsHeader_decode _).mp hv.2.2)

theorem exceptionSafe_dispatchRequest {request : RequestPdu} {pdu : List UInt8} (unitId : UnitId)
    (isBroadcast : Bool) (deviceId : DeviceIdentification) (hv : request.Valid)
    (hlen : request.wire.length ≤ maxPduSize) :
    ExceptionSafe config (dispatchRequest request pdu unitId isBroadcast deviceId) := by
  cases request with
  | readHoldingRegisters req | readInputRegisters req =>
    exact .ask <| readOnly_check fun _ => readOnly_check fun _ =>
      .bind (readOnly_readRegistersOf _ _ _ _) fun _ => readOnly_check fun _ => .pure _
  | readCoils req | readDiscreteInputs req =>
    exact .ask <| readOnly_check fun _ => readOnly_check fun _ =>
      .bind (readOnly_readBitsOf _ _ _ _) fun _ => readOnly_check fun _ => .pure _
  | writeSingleRegister req =>
    exact .command (atomic_callStore _) (not_isExceptionPdu_encodeResponse
      (WriteSingleRegister.encodeInto_emits _) trivial nofun)
  | writeMultipleRegisters req | writeMultipleCoils req =>
    exact .command (atomic_check_bind (atomic_callStore _)) (not_isExceptionPdu_encodeResponse
      (AddressRange.encodeInto_emits _ _ _) hv.1 nofun)
  | writeSingleCoil req =>
    exact .command (atomic_callStore _) (not_isExceptionPdu_encodeResponse
      (WriteSingleCoil.encodeInto_emits _) trivial nofun)
  | maskWriteRegister req =>
    exact .command (atomic_check_bind (atomic_callStore _)) (not_isExceptionPdu_encodeResponse
      (MaskWriteRegister.encodeInto_emits _) trivial nofun)
  | readWriteMultipleRegisters req =>
    obtain ⟨h, hh, hatomic, hresponse⟩ := @atomic_handleReadWriteMultiple config req
    rw [dispatchRequest, hh]
    exact .ask_atomic hatomic hresponse
  | readFileRecord req =>
    exact .ask <| readOnly_check fun _ => .bind (readOnly_readFileRecordGroups _ _) fun _ =>
      readOnly_check fun _ => .pure _
  | writeFileRecord req =>
    refine .command (atomic_applyWriteFileRecord req) ?_
    rw [encodeResponse_writeFileRecord hv hlen]
    exact not_isExceptionPdu (FunctionCode.fromRaw_code nofun)
  | readFifoQueue req =>
    exact .ask <| .bind (readOnly_callStore id) fun _ =>
      readOnly_check fun _ => readOnly_check fun _ => readOnly_check fun _ => .pure _
  | readExceptionStatus | getCommEventCounter =>
    exact .ask <| .bind (readOnly_callStore id) fun _ => .pure _
  | diagnostics req =>
    refine .of_readOnly fun s => ?_
    have hs := run_handleDiagnostics_snd req.subFunction req.data s
    rw [dispatchRequest, Program.run_bind]
    cases isBroadcast <;> exact hs
  | getCommEventLog | reportServerId =>
    exact .ask <| .bind (readOnly_callStore id) fun _ =>
      readOnly_check fun _ => readOnly_check fun _ => .pure _
  | encapsulatedInterface req =>
    refine .of_readOnly (run_ask_snd fun s => ?_)
    split <;> rfl
  | custom fc data =>
    exact .ask <| .bind (readOnly_callStore id) fun _ => readOnly_check fun _ => .pure _

/-- A request that is not decoded does not reach the store. -/
theorem run_processRequest_error {pdu : List UInt8} {e : DecodeError} (unitId : UnitId)
    (deviceId : DeviceIdentification) (h : decodeRequest pdu = .error e)
    (s : InMemoryStore config) :
    ((processRequest pdu unitId deviceId).run (memoryStore config) s).2 = s := by
  rw [processRequest, h]
  dsimp only
  split <;> rfl

theorem run_handleReadWriteMultiple_outOfRange {req : ReadWriteMultipleRegistersRequest}
    (hread : config.holdingRegisterCount < req.readAddress.toNat + req.readQuantity.toNat)
    (s : InMemoryStore config) :
    ((handleReadWriteMultiple req).run (memoryStore config) s).2 = s := by
  refine run_answer_snd (readOnly_check fun _ => readOnly_check fun byteCount => ?_) s
  intro s
  rw [run_bind, run_callStore]
  cases hstore : memoryStore config (.atomicReadWriteRegistersBe req.readAddress req.readQuantity
      req.writeAddress req.writeQuantity req.writeRegisterValues
      (List.replicate byteCount.toNat 0)) s with
  | mk r t =>
    cases r with
    | error e => exact memoryStore_error hstore
    | ok a => exact absurd (memoryStore_atomicReadWrite_ok hstore).2 (Nat.not_le.mpr hread)

/-- What the decoder takes as a file write is a sequence of groups. -/
theorem exists_groups_of_decodeRequest {pdu data : List UInt8} {byteCount : UInt8}
    {request : RequestPdu} (h : decodeRequest pdu = .ok request)
    (hpdu : pdu = 0x15 :: byteCount :: data) :
    ∃ groups : List WriteGroup, data = groups.flatMap WriteGroup.wire := by
  obtain ⟨hwire, hv, -⟩ := decodeRequest_eq_ok.mp h
  rw [hpdu, RequestPdu.wire] at hwire
  obtain ⟨hcode, hbody⟩ := List.cons.inj hwire
  have hfc : FunctionCode.writeFileRecord = request.functionCode := by
    have hraw := RequestPdu.fromRaw_code hv
    rw [← hcode] at hraw
    exact Option.some.inj hraw
  cases request with
  | writeFileRecord req =>
    obtain ⟨-, hdata⟩ := List.cons.inj hbody
    rw [hdata]
    exact (walkWriteGroups_eq_ok readsHeader_decode _).mp hv.2.2
  | _ => cases hfc

/-- An exception reply means that the store is exactly as it was. In particular nothing of a
file write is carried out if its payload is not a sequence of proper groups, and nothing of
a read/write request whose read range is not inside the table. -/
theorem exception_unchanged (s : InMemoryStore config) (pdu : List UInt8) (unitId : UnitId)
    (deviceId : DeviceIdentification) :
    let result := (processRequest pdu unitId deviceId).run (memoryStore config) s
    (∀ reply, result.1 = some reply → IsExceptionPdu reply → result.2 = s) ∧
    (∀ byteCount data, pdu = 0x15 :: byteCount :: data →
      (¬∃ groups : List WriteGroup, data = groups.flatMap WriteGroup.wire) → result.2 = s) ∧
    (∀ req, decodeRequest pdu = .ok (.readWriteMultipleRegisters req) →
      config.holdingRegisterCount < req.readAddress.toNat + req.readQuantity.toNat →
        result.2 = s) := by
  intro result
  cases hdecode : decodeRequest pdu with
  | error e =>
    have hs : result.2 = s := run_processRequest_error unitId deviceId hdecode s
    exact ⟨fun _ _ _ => hs, fun _ _ _ _ => hs, fun _ _ _ => hs⟩
  | ok request =>
    obtain ⟨hpdu, hv, hlen⟩ := decodeRequest_eq_ok.mp hdecode
    have hresult : result = (dispatchRequest request pdu unitId (isBroadcast unitId)
        deviceId).run (memoryStore config) s := by
      show (processRequest pdu unitId deviceId).run (memoryStore config) s = _
      rw [processRequest, hdecode]
    refine ⟨?_, ?_, ?_⟩
    · intro reply hreply hexc
      have hrun : (dispatchRequest request pdu unitId (isBroadcast unitId) deviceId).run
          (memoryStore config) s = (some reply, result.2) := by rw [← hresult, ← hreply]
      exact exceptionSafe_dispatchRequest unitId _ deviceId hv (hpdu ▸ hlen) s reply _ hrun hexc
    · intro byteCount data hbytes hbad
      exact absurd (exists_groups_of_decodeRequest hdecode hbytes) hbad
    · intro req hreq hread
      obtain rfl := Except.ok.inj hreq
      rw [hresult]
      exact run_ask_snd (run_handleReadWriteMultiple_outOfRange hread) s

end RustyModbus.Server
