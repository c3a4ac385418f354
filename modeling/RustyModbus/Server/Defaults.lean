import RustyModbus.Server.Memory

/-!
# The default methods of the store trait

The methods that speak the wire format have default implementations over the basic methods,
which speak booleans and registers: read into a scratch array and pack it, unpack and write.
The in-memory store overrides them with direct accesses to its tables.

The defaults are programs over the basic methods (`BasicOp`). Run over the basic methods of
the in-memory store they give what the overriding methods give, result, error code, bytes
and final store (`memoryStore_eq_default`). The one override that is not a shortcut of its
default is the compound read and write, whose default refuses
(`atomicReadWriteRegistersBe_default`).
-/

namespace RustyModbus.Server

open Wire Interaction InMemoryStore

/-! ## Packing and unpacking -/

def packCoils (bits : List Bool) (out : List UInt8) : Except ExceptionCode (Slice out) :=
  let byteCount := (bits.length + 7) / 8
  if h : out.length < byteCount then .error .illegalDataValue
  else
    let packed := List.ofFn fun i : Fin byteCount => packByte ((bits.drop (i * 8)).take 8)
    .ok ⟨writeAt 0 packed out, writeAt_length (by
      rw [List.length_ofFn]
      omega)⟩

def unpackPackedCoils (quantity : UInt16) (packedValues : List UInt8) (out : List Bool) :
    Except ExceptionCode (Nat × List Bool) := do
  let ⟨quantity, _⟩ ← validatePackedCoils quantity packedValues
  rejectIf (out.length < quantity) .illegalDataValue
  return (quantity, Fin.foldl packedValues.length (fun out byteIndex =>
    let start := byteIndex.val * 8
    let bitCount := min (quantity - start) 8
    unpackByte (packedValues.get byteIndex) start bitCount out) out)

def unpackRegisterValuesBe (quantity : UInt16) (valueBytes : List UInt8) (out : List UInt16) :
    Except ExceptionCode (Nat × List UInt16) := do
  let quantity ← validateRegisterValuesBe quantity valueBytes
  rejectIf (out.length < quantity) .illegalDataValue
  return (quantity, writeAt 0 ((registersOf valueBytes).take quantity) out)

theorem packCoils_noRoom {bits : List Bool} {out : List UInt8}
    (h : out.length < (bits.length + 7) / 8) : packCoils bits out = .error .illegalDataValue :=
  dif_pos h

theorem packCoils_fills {bits : List Bool} {out : List UInt8}
    (h : (bits.length + 7) / 8 ≤ out.length) :
    ∃ packed : Slice out, packCoils bits out = .ok packed ∧
      packed.val = writeAt 0 (packBits bits) out := by
  refine ⟨_, dif_neg (Nat.not_lt.mpr h), congrArg (writeAt 0 · out) ?_⟩
  refine CarriesBits.eq_packBits (fun i => ?_) List.length_ofFn
  have hmod : i % 8 < 8 := Nat.mod_lt i (by decide)
  have hsplit : i / 8 * 8 + i % 8 = i := Nat.div_add_mod' i 8
  rw [bitAt, List.getD_eq_getElem?_getD, List.getElem?_ofFn]
  split
  next hi =>
    rw [Option.getD_some, bit_packByte (by rw [List.length_take]; omega),
      List.getElem?_take_of_lt hmod, List.getElem?_drop, hsplit]
  next hi => rw [Option.getD_none, bit_zero, List.getElem?_eq_none (by omega), Option.getD_none]

/-! ## The basic methods -/

/-- The methods the defaults call. -/
inductive BasicOp
  | readCoils (address quantity : UInt16) (buf : List Bool)
  | writeCoils (address : UInt16) (values : List Bool)
  | readDiscreteInputs (address quantity : UInt16) (buf : List Bool)
  | readHoldingRegisters (address quantity : UInt16) (buf : List UInt16)
  | writeRegisters (address : UInt16) (values : List UInt16)
  | readInputRegisters (address quantity : UInt16) (buf : List UInt16)
  | readFileRecord (fileNumber recordNumber recordLength : UInt16) (buf : List UInt16)
  | writeFileRecord (fileNumber recordNumber : UInt16) (values : List UInt16)
  | readFifoQueue (address : UInt16)
  | reportServerId
  | diagnostic (subFunction : DiagnosticSubFunction) (data : List UInt8)
deriving DecidableEq, Repr

/-- What a method gives back: a count and its buffer, nothing, or owned data. -/
@[reducible] def BasicOp.Answer : BasicOp → Type
  | readCoils _ _ _ | readDiscreteInputs _ _ _ => Nat × List Bool
  | readHoldingRegisters _ _ _ | readInputRegisters _ _ _ | readFileRecord _ _ _ _ =>
    Nat × List UInt16
  | writeCoils _ _ | writeRegisters _ _ | writeFileRecord _ _ _ => Unit
  | readFifoQueue _ => List UInt16
  | reportServerId => List UInt8
  | diagnostic _ _ => Option (List UInt8)

/-- A method can also panic: the copy into a buffer that is too small. -/
abbrev basicInterface : Interface where
  Call := BasicOp
  Reply op := Except (Fault ExceptionCode) op.Answer

abbrev DefaultMethod := Fallible basicInterface (Fault ExceptionCode)

/-- An exception code as a fault. -/
def faulty {α : Type} (x : Except ExceptionCode α) : Except (Fault ExceptionCode) α :=
  x.mapError .error

def callBasic (op : BasicOp) : DefaultMethod op.Answer :=
  ExceptT.mk (Program.perform (I := basicInterface) op)

def orFault {α : Type} (x : Except ExceptionCode α) : DefaultMethod α :=
  Fallible.ofExcept (faulty x)

/-! ## The defaults -/

namespace Default

/-- Read into a scratch array of `capacity` bits and pack it. -/
def readPacked (read : List Bool → DefaultMethod (Nat × List Bool)) (capacity : Nat)
    (quantity : UInt16) (out : List UInt8) : DefaultMethod (Nat × Slice out) := do
  let (count, values) ← read (List.replicate capacity false)
  orFault (rejectIf (count > capacity ∨ count > quantity.toNat) .serverDeviceFailure)
  let out ← orFault (packCoils (values.take count) out)
  return (count, out)

def readCoilsPacked (address quantity : UInt16) (out : List UInt8) :
    DefaultMethod (Nat × Slice out) :=
  readPacked (fun buf => callBasic (.readCoils address quantity buf)) maxReadCoils.toNat quantity out

def readDiscreteInputsPacked (address quantity : UInt16) (out : List UInt8) :
    DefaultMethod (Nat × Slice out) :=
  readPacked (fun buf => callBasic (.readDiscreteInputs address quantity buf))
    maxReadDiscreteInputs.toNat quantity out

/-- Read into a scratch array of `capacity` registers and pack it. -/
def readBe (read : List UInt16 → DefaultMethod (Nat × List UInt16)) (capacity : Nat)
    (quantity : UInt16) (out : List UInt8) : DefaultMethod (Nat × Slice out) := do
  let (count, values) ← read (List.replicate capacity 0)
  orFault (rejectIf (count > capacity ∨ count > quantity.toNat) .serverDeviceFailure)
  let out ← orFault (packRegistersBe (values.take count) out)
  return (count, out)

def readHoldingRegistersBe (address quantity : UInt16) (out : List UInt8) :
    DefaultMethod (Nat × Slice out) :=
  readBe (fun buf => callBasic (.readHoldingRegisters address quantity buf))
    maxReadRegisters.toNat quantity out

def readInputRegistersBe (address quantity : UInt16) (out : List UInt8) :
    DefaultMethod (Nat × Slice out) :=
  readBe (fun buf => callBasic (.readInputRegisters address quantity buf))
    maxReadRegisters.toNat quantity out

def readFileRecordBe (fileNumber recordNumber recordLength : UInt16) (out : List UInt8) :
    DefaultMethod (Nat × Slice out) :=
  readBe (fun buf => callBasic (.readFileRecord fileNumber recordNumber recordLength buf))
    maxFileRecordRegisters recordLength out

def writeCoilsPacked (address quantity : UInt16) (packedValues : List UInt8) :
    DefaultMethod Unit := do
  let values := List.replicate maxWriteCoils.toNat false
  let (quantity, values) ← orFault (unpackPackedCoils quantity packedValues values)
  callBasic (.writeCoils address (values.take quantity))

def writeRegistersBe (address quantity : UInt16) (valueBytes : List UInt8) :
    DefaultMethod Unit := do
  let values := List.replicate maxWriteRegisters.toNat 0
  let (quantity, values) ← orFault (unpackRegisterValuesBe quantity valueBytes values)
  callBasic (.writeRegisters address (values.take quantity))

def writeFileRecordBe (fileNumber recordNumber recordLength : UInt16) (valueBytes : List UInt8) :
    DefaultMethod Unit := do
  let expected := recordLength.toNat * 2
  orFault (rejectIf (valueBytes.length ≠ expected) .illegalDataValue)
  callBasic (.writeFileRecord fileNumber recordNumber (registersOf valueBytes))

def readFifoQueueBe (address : UInt16) (out : List UInt8) : DefaultMethod (Nat × Slice out) := do
  let values ← callBasic (.readFifoQueue address)
  orFault (rejectIf (values.length > maxFifoValues.toNat) .illegalDataValue)
  let out ← orFault (packRegistersBe values out)
  return (values.length, out)

def appendServerId : DefaultMethod (Appended Nat) := do
  let data ← callBasic .reportServerId
  orFault (rejectIf (data.length > maxServerIdBytes) .serverDeviceFailure)
  return { result := data.length, bytes := data }

def appendDiagnosticResponse (subFunction : DiagnosticSubFunction) (data : List UInt8) :
    DefaultMethod (Appended (Option Nat)) := do
  match ← callBasic (.diagnostic subFunction data) with
  | none => return { result := none, bytes := [] }
  | some data =>
    orFault (rejectIf (data.length > maxDiagnosticResponseDataLen) .serverDeviceFailure)
    return { result := some data.length, bytes := data }

/-- The default of the compound read and write calls nothing. -/
def atomicReadWriteRegistersBe (out : List UInt8) : DefaultMethod (Nat × Slice out) :=
  orFault (.error .illegalFunction)

end Default

/-- The default of each method that the in-memory store overrides and that fills, reads or
appends wire bytes. -/
def StoreOp.default? : (op : StoreOp) → Option (DefaultMethod op.Answer)
  | readCoilsPacked address quantity out => some (Default.readCoilsPacked address quantity out)
  | readDiscreteInputsPacked address quantity out =>
    some (Default.readDiscreteInputsPacked address quantity out)
  | readHoldingRegistersBe address quantity out =>
    some (Default.readHoldingRegistersBe address quantity out)
  | readInputRegistersBe address quantity out =>
    some (Default.readInputRegistersBe address quantity out)
  | writeCoilsPacked address quantity packedValues =>
    some (Default.writeCoilsPacked address quantity packedValues)
  | writeRegistersBe address quantity valueBytes =>
    some (Default.writeRegistersBe address quantity valueBytes)
  | atomicReadWriteRegistersBe _ _ _ _ _ out => some (Default.atomicReadWriteRegistersBe out)
  | readFileRecordBe fileNumber recordNumber recordLength out =>
    some (Default.readFileRecordBe fileNumber recordNumber recordLength out)
  | writeFileRecordBe fileNumber recordNumber recordLength valueBytes =>
    some (Default.writeFileRecordBe fileNumber recordNumber recordLength valueBytes)
  | readFifoQueueBe address out => some (Default.readFifoQueueBe address out)
  | appendServerId => some Default.appendServerId
  | appendDiagnosticResponse subFunction data =>
    some (Default.appendDiagnosticResponse subFunction data)
  | _ => none

/-! ## The basic methods of the in-memory store -/

/-- `read_holding_registers` and `read_input_registers`. The copy panics if the buffer is too
small. -/
def readRegisters {n : Nat} (registers : Vector UInt16 n) (address quantity : UInt16)
    (buf : List UInt16) : Except (Fault ExceptionCode) (Nat × List UInt16) := do
  let _ ← faulty (checkRange address quantity.toNat n)
  rejectIf (buf.length < quantity.toNat) .panic
  return (quantity.toNat, writeAt 0 (registersAt registers address.toNat quantity.toNat) buf)

namespace InMemoryStore

variable {config : StoreConfig}

abbrev BasicM (config : StoreConfig) := EStateM (Fault ExceptionCode) (InMemoryStore config)

def attempt {α : Type} : Except (Fault ExceptionCode) α → BasicM config α
  | .ok a => pure a
  | .error e => throw e

def inspect {α : Type} (f : InMemoryStore config → Except (Fault ExceptionCode) α) :
    BasicM config α := do
  let s ← get
  attempt (f s)

def writeCoils (address : UInt16) (values : List Bool) : BasicM config Unit := do
  let s ← get
  let coils ← attempt (faulty (s.coils.writeBits address values))
  set { s with coils }

def writeRegisters (address : UInt16) (values : List UInt16) : BasicM config Unit := do
  let s ← get
  let _ ← attempt (faulty (checkRange address values.length config.holdingRegisterCount))
  set { s with holdingRegisters := overwrite s.holdingRegisters address.toNat values }

def readFileRecord (fileNumber recordNumber recordLength : UInt16) (buf : List UInt16)
    (s : InMemoryStore config) : Except ExceptionCode (Nat × List UInt16) := do
  validateRange fileNumber recordNumber recordLength.toNat
  let file ← okOr (s.files fileNumber) .illegalDataAddress
  let start := recordNumber.toNat
  let len := recordLength.toNat
  let finish := start + len
  rejectIf (finish > file.length ∨ len > buf.length) .illegalDataAddress
  return (len, writeAt 0 ((file.drop start).take len) buf)

def writeFileRecord (fileNumber recordNumber : UInt16) (values : List UInt16) :
    BasicM config Unit := do
  attempt (faulty (validateRange fileNumber recordNumber values.length))
  let s ← get
  let file := (s.files fileNumber).getD []
  let file := writeRecords file recordNumber.toNat values.length values
  set { s with files := fun n => if n = fileNumber then some file else s.files n }

/-- The default of the trait, which the store does not override. -/
def diagnostic (subFunction : DiagnosticSubFunction) (data : List UInt8) :
    Except ExceptionCode (Option (List UInt8)) :=
  match subFunction with
  | .returnQueryData => .ok (some data)
  | _ => .error .illegalFunction

def serveBasic : (op : BasicOp) → BasicM config op.Answer
  | .readCoils address quantity buf => inspect fun s => faulty (s.coils.readBits address quantity buf)
  | .writeCoils address values => writeCoils address values
  | .readDiscreteInputs address quantity buf =>
    inspect fun s => faulty (s.discreteInputs.readBits address quantity buf)
  | .readHoldingRegisters address quantity buf =>
    inspect fun s => readRegisters s.holdingRegisters address quantity buf
  | .writeRegisters address values => writeRegisters address values
  | .readInputRegisters address quantity buf =>
    inspect fun s => readRegisters s.inputRegisters address quantity buf
  | .readFileRecord fileNumber recordNumber recordLength buf =>
    inspect fun s => faulty (readFileRecord fileNumber recordNumber recordLength buf s)
  | .writeFileRecord fileNumber recordNumber values =>
    writeFileRecord fileNumber recordNumber values
  | .readFifoQueue address =>
    inspect fun s => faulty (okOr (s.fifoQueues address) .illegalDataAddress)
  | .reportServerId => inspect fun s => .ok s.serverId
  | .diagnostic subFunction data => inspect fun _ => faulty (diagnostic subFunction data)

end InMemoryStore

/-- How a basic method has ended, and the state it left. -/
def outcomeOf {σ α : Type} :
    EStateM.Result (Fault ExceptionCode) σ α → Except (Fault ExceptionCode) α × σ
  | .ok a s => (.ok a, s)
  | .error e s => (.error e, s)

/-- The basic methods as the component the defaults call. -/
def basicStore (config : StoreConfig) : Component basicInterface (InMemoryStore config) :=
  fun op s => outcomeOf ((serveBasic op).run s)

/-! ## How a default runs -/

section Run

variable {config : StoreConfig} {α β : Type} (s : InMemoryStore config)

theorem run_callBasic (op : BasicOp) :
    (callBasic op).run.run (basicStore config) s = basicStore config op s := rfl

/-- A method that looks at the store. -/
theorem run_callBasic_inspect (op : BasicOp)
    (f : InMemoryStore config → Except (Fault ExceptionCode) op.Answer)
    (h : serveBasic op = inspect f) :
    (callBasic op).run.run (basicStore config) s = (f s, s) := by
  rw [run_callBasic, basicStore, h]
  show outcomeOf ((attempt (f s)).run s) = _
  cases f s <;> rfl

theorem run_orFault_bind (x : Except ExceptionCode α) (f : α → DefaultMethod β) :
    (orFault x >>= f).run.run (basicStore config) s = match x with
      | .ok a => (f a).run.run (basicStore config) s
      | .error e => (.error (.error e), s) := by
  cases x <;> rfl

theorem take_writeAt (bs buf : List α) : (writeAt 0 bs buf).take bs.length = bs := by
  rw [writeAt, List.take_zero, List.nil_append, List.take_left]

/-- Unpacked and packed again: the default of a packed read. -/
theorem run_readPacked {read : List Bool → DefaultMethod (Nat × List Bool)} {len capacity : Nat}
    (t : BitTable len) {a q : UInt16} (hq : q.toNat ≤ capacity)
    (hread : ∀ buf, (read buf).run.run (basicStore config) s = (faulty (t.readBits a q buf), s))
    (out : List UInt8) :
    (Default.readPacked read capacity q out).run.run (basicStore config) s
      = (faulty (t.readPacked a q out), s) := by
  rw [Default.readPacked, Fallible.run_bind, hread]
  by_cases hrange : a.toNat + q.toNat ≤ len
  · have hroom : q.toNat ≤ (List.replicate capacity false).length := by rwa [List.length_replicate]
    have htake := take_writeAt (t.bitsAt a.toNat q.toNat) (List.replicate capacity false)
    rw [BitTable.length_bitsAt] at htake
    rw [t.readBits_inRange hrange hroom]
    show (orFault (rejectIf (q.toNat > capacity ∨ q.toNat > q.toNat) _) >>= _).run.run _ s = _
    rw [rejectIf_neg (by omega)]
    show (orFault (packCoils ((writeAt 0 _ _).take q.toNat) out) >>= _).run.run _ s = _
    rw [htake, run_orFault_bind]
    by_cases hout : out.length < (q.toNat + 7) / 8
    · rw [packCoils_noRoom (by rwa [BitTable.length_bitsAt]), t.readPacked_noRoom hrange hout]
      rfl
    · obtain ⟨packed, hpack, hval⟩ := @packCoils_fills (t.bitsAt a.toNat q.toNat) out
        (by rw [BitTable.length_bitsAt]; omega)
      obtain ⟨packed', hread', hval'⟩ := t.readPacked_fills hrange (Nat.not_lt.mp hout)
      rw [hpack, hread', show packed' = packed from Subtype.ext (hval'.trans hval.symm)]
      rfl
  · rw [t.readBits_outOfRange hrange, t.readPacked_outOfRange (Nat.not_le.mp hrange)]
    rfl

variable {read : List UInt16 → DefaultMethod (Nat × List UInt16)} {q : UInt16}

/-- The same for registers. -/
theorem run_readBe {capacity : Nat} (hq : q.toNat ≤ capacity) {values : List UInt16}
    (hvalues : values.length = q.toNat)
    (hread : (read (List.replicate capacity 0)).run.run (basicStore config) s
      = (.ok (q.toNat, writeAt 0 values (List.replicate capacity 0)), s)) (out : List UInt8) :
    (Default.readBe read capacity q out).run.run (basicStore config) s
      = (faulty ((packRegistersBe values out).map fun out => (q.toNat, out)), s) := by
  have htake := take_writeAt values (List.replicate capacity 0)
  rw [Default.readBe, Fallible.run_bind, hread]
  show (orFault (rejectIf (q.toNat > capacity ∨ q.toNat > q.toNat) _) >>= _).run.run _ s = _
  rw [rejectIf_neg (by omega)]
  show (orFault (packRegistersBe ((writeAt 0 _ _).take q.toNat) out) >>= _).run.run _ s = _
  rw [← hvalues, htake, run_orFault_bind]
  cases packRegistersBe values out <;> rfl

/-- A read that fails before anything is packed. -/
theorem run_readBe_error {capacity : Nat} {e : ExceptionCode}
    (hread : (read (List.replicate capacity 0)).run.run (basicStore config) s = (.error (.error e), s))
    (out : List UInt8) :
    (Default.readBe read capacity q out).run.run (basicStore config) s = (.error (.error e), s) := by
  rw [Default.readBe, Fallible.run_bind, hread]

theorem run_readRegistersBe {n capacity : Nat} (registers : Vector UInt16 n) {a q : UInt16}
    (hq : q.toNat ≤ capacity)
    (hread : ∀ buf, (read buf).run.run (basicStore config) s = (readRegisters registers a q buf, s))
    (out : List UInt8) :
    (Default.readBe read capacity q out).run.run (basicStore config) s
      = (faulty (readRegistersBe registers a q out), s) := by
  by_cases hrange : a.toNat + q.toNat ≤ n
  · have hlen : (registersAt registers a.toNat q.toNat).length = q.toNat := by
      rw [registersAt, List.length_take, List.length_drop, Vector.length_toList]
      omega
    rw [run_readBe s hq hlen, readRegistersBe, checkRange_inside hrange]
    · cases packRegistersBe (registersAt registers a.toNat q.toNat) out <;> rfl
    · rw [hread, readRegisters, checkRange_inside hrange]
      show ((rejectIf ((List.replicate capacity 0).length < q.toNat) Fault.panic >>= _), s) = _
      rw [rejectIf_neg (by rw [List.length_replicate]; omega)]
      rfl
  · rw [readRegistersBe, checkRange_outside hrange]
    refine run_readBe_error s ?_ out
    rw [hread, readRegisters, checkRange_outside hrange]
    rfl

/-! ## File records -/

/-- The records both ways of reading a file come to, or the code they fail with. -/
def recordsAt (file rec len : UInt16) : Except ExceptionCode (List UInt16) := do
  validateRange file rec len.toNat
  rejectIf (len.toNat > maxFileRecordRegisters) .illegalDataAddress
  let records ← okOr (s.files file) .illegalDataAddress
  rejectIf (rec.toNat + len.toNat > records.length) .illegalDataAddress
  return (records.drop rec.toNat).take len.toNat

theorem length_recordsAt {file rec len : UInt16} {values : List UInt16}
    (h : recordsAt s file rec len = .ok values) :
    len.toNat ≤ maxFileRecordRegisters ∧ values.length = len.toNat := by
  simp only [recordsAt, check_bind_eq_ok, okOr_bind_eq_ok, rejectIf_eq_ok, pure_eq_ok, Nat.not_lt] at h
  obtain ⟨-, hlen, records, -, hend, rfl⟩ := h
  rw [List.length_take, List.length_drop]
  omega

theorem readFileRecordBe_eq (file rec len : UInt16) (out : List UInt8) :
    readFileRecordBe file rec len out s = (do
      let values ← recordsAt s file rec len
      let out ← packRegistersBe values out
      return (len.toNat, out)) := by
  simp only [readFileRecordBe, recordsAt, bind_assoc, pure_bind]

/-- The basic method makes its checks in another order, but they all fail with one code. -/
theorem readFileRecord_eq (file rec len : UInt16) {buf : List UInt16}
    (hbuf : buf.length = maxFileRecordRegisters) :
    readFileRecord file rec len buf s
      = (recordsAt s file rec len).map fun values => (len.toNat, writeAt 0 values buf) := by
  rw [readFileRecord, recordsAt]
  cases validateRange file rec len.toNat with
  | error e => rfl
  | ok u =>
    show (okOr _ _ >>= _) = Except.map _ (rejectIf _ _ >>= _)
    cases s.files file with
    | none => by_cases hlen : len.toNat > maxFileRecordRegisters <;>
      simp only [rejectIf_pos, rejectIf_neg, hlen, not_false_eq_true] <;> rfl
    | some records =>
      by_cases hlen : len.toNat > maxFileRecordRegisters
      · simp only [okOr_some, rejectIf_pos hlen]
        show (rejectIf _ _ >>= _) = _
        rw [rejectIf_pos (.inr (by omega))]
        rfl
      · simp only [rejectIf_neg hlen]
        show (rejectIf _ _ >>= _) = Except.map _ (rejectIf _ _ >>= _)
        by_cases hend : rec.toNat + len.toNat > records.length
        · rw [rejectIf_pos (.inl hend), rejectIf_pos hend]
          rfl
        · rw [rejectIf_neg (by omega), rejectIf_neg hend]
          rfl

theorem run_readFileRecordBe (file rec len : UInt16) (out : List UInt8) :
    (Default.readFileRecordBe file rec len out).run.run (basicStore config) s
      = (faulty (readFileRecordBe file rec len out s), s) := by
  have hread (buf : List UInt16) := run_callBasic_inspect s (.readFileRecord file rec len buf)
    (fun s => faulty (readFileRecord file rec len buf s)) rfl
  rw [readFileRecordBe_eq, Default.readFileRecordBe]
  cases hrecords : recordsAt s file rec len with
  | error e =>
    refine run_readBe_error s ?_ out
    rw [hread, readFileRecord_eq s file rec len List.length_replicate, hrecords]
    rfl
  | ok values =>
    obtain ⟨hlen, hcount⟩ := length_recordsAt s hrecords
    rw [run_readBe s hlen hcount]
    · show _ = (faulty (packRegistersBe values out >>= _), s)
      cases packRegistersBe values out <;> rfl
    · rw [hread, readFileRecord_eq s file rec len List.length_replicate, hrecords]
      rfl

variable {bytes : List UInt8}

theorem length_registersOf {n : Nat} (h : bytes.length = n * 2) :
    (registersOf bytes).length = n := by
  rw [registersOf, List.length_map, length_chunksExact (by decide) h]

theorem run_writeFileRecordBe (file rec len : UInt16) (bytes : List UInt8) :
    (Default.writeFileRecordBe file rec len bytes).run.run (basicStore config) s
      = (faulty (memoryStore config (.writeFileRecordBe file rec len bytes) s).1,
        (memoryStore config (.writeFileRecordBe file rec len bytes) s).2) := by
  rw [Default.writeFileRecordBe, run_orFault_bind, memoryStore, serve,
    writeFileRecordBe, run_check_bind]
  by_cases hlen : bytes.length = len.toNat * 2
  · rw [rejectIf_neg (not_not_intro hlen)]
    dsimp only
    rw [run_check_bind, run_callBasic, basicStore, serveBasic,
      writeFileRecord, length_registersOf hlen]
    cases validateRange file rec len.toNat <;> rfl
  · rw [rejectIf_pos hlen]
    rfl

/-! ## Owned data -/

theorem run_readFifoQueueBe (a : UInt16) (out : List UInt8) :
    (Default.readFifoQueueBe a out).run.run (basicStore config) s
      = (faulty (readFifoQueueBe a out s), s) := by
  have hread := run_callBasic_inspect s (.readFifoQueue a)
    (fun s => faulty (okOr (s.fifoQueues a) .illegalDataAddress)) rfl
  rw [Default.readFifoQueueBe, Fallible.run_bind, hread, readFifoQueueBe]
  cases s.fifoQueues a with
  | none => rfl
  | some values =>
    show (orFault (rejectIf (values.length > _) _) >>= _).run.run _ s
      = (faulty (rejectIf (values.length > _) _ >>= _), s)
    rw [run_orFault_bind]
    cases rejectIf (values.length > maxFifoValues.toNat) ExceptionCode.illegalDataValue with
    | error e => rfl
    | ok u =>
      show (orFault (packRegistersBe values out) >>= _).run.run _ s
        = (faulty (packRegistersBe values out >>= _), s)
      rw [run_orFault_bind]
      cases packRegistersBe values out <;> rfl

theorem run_appendServerId :
    Default.appendServerId.run.run (basicStore config) s
      = (faulty (appendServerId s), s) := by
  have hread := run_callBasic_inspect s .reportServerId (fun s => .ok s.serverId) rfl
  rw [Default.appendServerId, Fallible.run_bind, hread, appendServerId]
  dsimp only
  rw [run_orFault_bind]
  cases rejectIf (s.serverId.length > maxServerIdBytes) ExceptionCode.serverDeviceFailure <;> rfl

theorem run_appendDiagnosticResponse (sub : DiagnosticSubFunction) (data : List UInt8) :
    (Default.appendDiagnosticResponse sub data).run.run (basicStore config) s
      = (faulty (appendDiagnosticResponse sub data), s) := by
  have hread := run_callBasic_inspect s (.diagnostic sub data)
    (fun _ => faulty (diagnostic sub data)) rfl
  rw [Default.appendDiagnosticResponse, Fallible.run_bind, hread]
  cases sub with
  | returnQueryData =>
    show (orFault (rejectIf (data.length > _) _) >>= _).run.run _ s
      = (faulty (rejectIf (data.length > _) _ >>= _), s)
    rw [run_orFault_bind]
    cases rejectIf (data.length > maxDiagnosticResponseDataLen)
      ExceptionCode.serverDeviceFailure <;> rfl
  | _ => rfl

/-! ## Writes of the tables -/

theorem validatePackedCoils_count {packed : List UInt8}
    {c : { count : Nat // packed.length = (count + 7) / 8 }}
    (h : validatePackedCoils q packed = .ok c) : c.val ≤ maxWriteCoils.toNat := by
  rw [validatePackedCoils] at h
  split at h
  next => cases h
  next hq =>
    split at h
    next => cases h
    next =>
      cases h
      have hle : ¬q > maxWriteCoils := fun hgt => hq (.inr hgt)
      exact Nat.not_lt.mp fun hlt => hle (UInt16.lt_iff_toNat_lt.mpr hlt)

theorem unpackPackedCoils_of_valid {packed : List UInt8} {n : Nat}
    {hlen : packed.length = (n + 7) / 8} (hvalid : validatePackedCoils q packed = .ok ⟨n, hlen⟩)
    {out : List Bool} (hout : n ≤ out.length) :
    unpackPackedCoils q packed out = .ok (n, writeAt 0 (unpackBits n packed) out) := by
  have hloop := foldl_unpackByte (bitAt packed) hout (fun k => packed.get (k.cast hlen.symm)) (by
    intro k j hj
    have hk : k.val < packed.length := by omega
    rw [bitAt, show (k.val * 8 + j) / 8 = k.val by omega, show (k.val * 8 + j) % 8 = j by omega,
      List.getD_eq_getElem?_getD, List.getElem?_eq_getElem hk]
    rfl)
  have hcount : ∀ {m : Nat} (h : packed.length = m) (f : List Bool → Fin packed.length → List Bool),
      Fin.foldl packed.length f out = Fin.foldl m (fun l k => f l (k.cast h.symm)) out := by
    rintro _ rfl f
    rfl
  rw [unpackPackedCoils, hvalid]
  show (rejectIf (out.length < n) _ >>= _) = _
  rw [rejectIf_neg (Nat.not_lt.mpr hout)]
  exact congrArg (fun l => Except.ok (n, l)) ((hcount hlen _).trans hloop)

theorem basicStore_writeCoils (a : UInt16) (values : List Bool) :
    basicStore config (.writeCoils a values) s = match s.coils.writeBits a values with
      | .ok coils => (.ok (), { s with coils })
      | .error e => (.error (.error e), s) := by
  show outcomeOf ((attempt (faulty (s.coils.writeBits a values)) >>= _).run s) = _
  cases s.coils.writeBits a values <;> rfl

theorem basicStore_writeRegisters (a : UInt16) (values : List UInt16) :
    basicStore config (.writeRegisters a values) s =
      if a.toNat + values.length ≤ config.holdingRegisterCount then
        (.ok (), { s with holdingRegisters := overwrite s.holdingRegisters a.toNat values })
      else (.error (.error .illegalDataAddress), s) := by
  show outcomeOf ((attempt (faulty (checkRange a values.length _)) >>= _).run s) = _
  by_cases hrange : a.toNat + values.length ≤ config.holdingRegisterCount
  · rw [checkRange_inside hrange, if_pos hrange]
    rfl
  · rw [checkRange_outside hrange, if_neg hrange]
    rfl

theorem validateRegisterValuesBe_count {n : Nat} (h : validateRegisterValuesBe q bytes = .ok n) :
    n ≤ maxWriteRegisters.toNat ∧ bytes.length = n * 2 := by
  simp only [validateRegisterValuesBe, check_bind_eq_ok, rejectIf_eq_ok, pure_eq_ok, not_or,
    Decidable.not_not] at h
  obtain ⟨⟨-, hle⟩, hlen, rfl⟩ := h
  exact ⟨Nat.not_lt.mp fun hlt => hle (UInt16.lt_iff_toNat_lt.mpr hlt), hlen⟩

theorem run_writeCoilsPacked (a q : UInt16) (packed : List UInt8) :
    (Default.writeCoilsPacked a q packed).run.run (basicStore config) s
      = (faulty (memoryStore config (.writeCoilsPacked a q packed) s).1,
        (memoryStore config (.writeCoilsPacked a q packed) s).2) := by
  rw [Default.writeCoilsPacked, run_orFault_bind, memoryStore, serve,
    writeCoilsPacked, run_check_bind]
  cases hvalid : validatePackedCoils q packed with
  | error e =>
    rw [unpackPackedCoils, hvalid]
    rfl
  | ok c =>
    obtain ⟨n, hlen⟩ := c
    have hn : n ≤ maxWriteCoils.toNat := validatePackedCoils_count hvalid
    have htake := take_writeAt (unpackBits n packed) (List.replicate maxWriteCoils.toNat false)
    rw [length_unpackBits] at htake
    rw [unpackPackedCoils_of_valid hvalid (by rwa [List.length_replicate])]
    dsimp only
    rw [htake, run_callBasic, basicStore_writeCoils, s.coils.writeBits_unpackBits a hlen,
      run_get_bind, run_check_bind]
    cases s.coils.writePacked a n packed hlen <;> rfl

theorem unpackRegisterValuesBe_of_valid {n : Nat}
    (hvalid : validateRegisterValuesBe q bytes = .ok n) {out : List UInt16} (hout : n ≤ out.length)
    :
    unpackRegisterValuesBe q bytes out = .ok (n, writeAt 0 ((registersOf bytes).take n) out) := by
  rw [unpackRegisterValuesBe, hvalid]
  show (rejectIf (out.length < n) _ >>= _) = _
  rw [rejectIf_neg (Nat.not_lt.mpr hout)]
  rfl

theorem run_writeRegistersBe (a q : UInt16) (bytes : List UInt8) :
    (Default.writeRegistersBe a q bytes).run.run (basicStore config) s
      = (faulty (memoryStore config (.writeRegistersBe a q bytes) s).1,
        (memoryStore config (.writeRegistersBe a q bytes) s).2) := by
  rw [Default.writeRegistersBe, run_orFault_bind, memoryStore, serve,
    writeRegistersBe, run_check_bind]
  cases hvalid : validateRegisterValuesBe q bytes with
  | error e =>
    rw [unpackRegisterValuesBe, hvalid]
    rfl
  | ok n =>
    obtain ⟨hn, hlen⟩ := validateRegisterValuesBe_count hvalid
    have hcount : ((registersOf bytes).take n).length = n := by
      rw [List.length_take, length_registersOf hlen, Nat.min_self]
    have htake := take_writeAt ((registersOf bytes).take n)
      (List.replicate maxWriteRegisters.toNat 0)
    rw [hcount] at htake
    rw [unpackRegisterValuesBe_of_valid hvalid (by rwa [List.length_replicate])]
    dsimp only
    rw [htake, run_callBasic, basicStore_writeRegisters, hcount, run_get_bind, run_check_bind]
    by_cases hrange : a.toNat + n ≤ config.holdingRegisterCount
    · rw [if_pos hrange, checkRange_inside hrange]
      rfl
    · rw [if_neg hrange, checkRange_outside hrange]
      rfl

end Run

/-! ## The overriding methods -/

/-- The shortcuts of the in-memory store, with quantities the protocol allows or zero. A
default reads into an array of that size; beyond it the basic method fails or panics. -/
def StoreOp.FastPath : StoreOp → Prop
  | readCoilsPacked _ quantity _ => quantity ≤ maxReadCoils
  | readDiscreteInputsPacked _ quantity _ => quantity ≤ maxReadDiscreteInputs
  | readHoldingRegistersBe _ quantity _ | readInputRegistersBe _ quantity _ =>
    quantity ≤ maxReadRegisters
  | writeCoilsPacked _ _ _ | writeRegistersBe _ _ _ | readFileRecordBe _ _ _ _
  | writeFileRecordBe _ _ _ _ | readFifoQueueBe _ _ | appendServerId
  | appendDiagnosticResponse _ _ => True
  | _ => False

variable {config : StoreConfig}

/-- The method of the in-memory store is its default over the basic methods. -/
def EqualsDefault (config : StoreConfig) (op : StoreOp) : Prop :=
  ∃ m, op.default? = some m ∧ ∀ s : InMemoryStore config,
    m.run.run (basicStore config) s
      = (faulty (memoryStore config op s).1, (memoryStore config op s).2)

theorem EqualsDefault.of_look {op : StoreOp} {m : DefaultMethod op.Answer}
    {f : InMemoryStore config → Except ExceptionCode op.Answer} (hdefault : op.default? = some m)
    (hserve : serve op = look f)
    (hm : ∀ s, m.run.run (basicStore config) s = (faulty (f s), s)) : EqualsDefault config op := by
  refine ⟨m, hdefault, fun s => ?_⟩
  rw [hm, memoryStore, hserve, replyOf_look]

theorem memoryStore_eq_default {op : StoreOp} (h : op.FastPath) : EqualsDefault config op := by
  cases op with
  | readCoilsPacked a q out =>
    exact .of_look rfl rfl fun s => run_readPacked s s.coils (UInt16.le_iff_toNat_le.mp h)
      (fun buf => run_callBasic_inspect s (.readCoils a q buf) _ rfl) out
  | readDiscreteInputsPacked a q out =>
    exact .of_look rfl rfl fun s => run_readPacked s s.discreteInputs (UInt16.le_iff_toNat_le.mp h)
      (fun buf => run_callBasic_inspect s (.readDiscreteInputs a q buf) _ rfl) out
  | readHoldingRegistersBe a q out =>
    exact .of_look rfl rfl fun s =>
      run_readRegistersBe s s.holdingRegisters (UInt16.le_iff_toNat_le.mp h)
        (fun buf => run_callBasic_inspect s (.readHoldingRegisters a q buf) _ rfl) out
  | readInputRegistersBe a q out =>
    exact .of_look rfl rfl fun s =>
      run_readRegistersBe s s.inputRegisters (UInt16.le_iff_toNat_le.mp h)
        (fun buf => run_callBasic_inspect s (.readInputRegisters a q buf) _ rfl) out
  | writeCoilsPacked a q packed => exact ⟨_, rfl, fun s => run_writeCoilsPacked s a q packed⟩
  | writeRegistersBe a q bytes => exact ⟨_, rfl, fun s => run_writeRegistersBe s a q bytes⟩
  | readFileRecordBe file rec len out =>
    exact .of_look rfl rfl fun s => run_readFileRecordBe s file rec len out
  | writeFileRecordBe file rec len bytes =>
    exact ⟨_, rfl, fun s => run_writeFileRecordBe s file rec len bytes⟩
  | readFifoQueueBe a out => exact .of_look rfl rfl fun s => run_readFifoQueueBe s a out
  | appendServerId => exact .of_look rfl rfl run_appendServerId
  | appendDiagnosticResponse sub data =>
    exact .of_look rfl rfl fun s => run_appendDiagnosticResponse s sub data
  | writeCoil | writeRegister | atomicMaskWriteRegister | atomicReadWriteRegistersBe
  | readExceptionStatus | getCommEventCounter | appendCommEventLog | handleCustomFunction => cases h

theorem memoryStore_eq_default_oneOfEach :
    EqualsDefault oneOfEach (.readCoilsPacked 0 1 [0xFF]) ∧
      EqualsDefault oneOfEach (.readCoilsPacked 1 0 []) ∧
      EqualsDefault oneOfEach (.readHoldingRegistersBe 0 2 [0, 0, 0, 0]) :=
  ⟨memoryStore_eq_default (show (1 : UInt16) ≤ maxReadCoils by decide),
    memoryStore_eq_default (show (0 : UInt16) ≤ maxReadCoils by decide),
    memoryStore_eq_default (show (2 : UInt16) ≤ maxReadRegisters by decide)⟩

/-- The compound read and write is no shortcut: its default refuses what the store does. -/
theorem atomicReadWriteRegistersBe_default :
    ¬EqualsDefault oneOfEach (.atomicReadWriteRegistersBe 0 1 0 1 [0x12, 0x34] [0, 0]) := by
  rintro ⟨m, hm, h⟩
  obtain rfl := Option.some.inj hm
  have hok := congrArg (fun r => r.1.isOk) (h oneOfEachStore)
  exact absurd hok (by decide)

end RustyModbus.Server
