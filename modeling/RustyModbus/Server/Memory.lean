import RustyModbus.Server.BitTable

/-!
# The in-memory store

The store that comes with the server: four tables of fixed size, files and FIFO queues. The
sizes are those of a `StoreConfig` that passed its check and never change, so they are part
of the type; what a store holds is otherwise arbitrary.

A method runs on the state and may fail in the middle, keeping what it has changed so far
(`StoreM`). That no method of this store does so is a result, `memoryStore_error`, and not
part of the model.
-/

namespace RustyModbus.Server

open Wire Interaction

def maxTableSize : Nat := 65536

inductive StoreError
  | tableTooLarge (table : String) (count max : Nat)
  | addressOutOfRange (table : String) (address : UInt16) (len : Nat)
deriving DecidableEq, Repr

structure StoreConfig where
  coilCount : Nat
  discreteInputCount : Nat
  holdingRegisterCount : Nat
  inputRegisterCount : Nat
deriving DecidableEq, Repr

/-- The default size of every table is the whole address space. -/
def StoreConfig.default : StoreConfig where
  coilCount := 65536
  discreteInputCount := 65536
  holdingRegisterCount := 65536
  inputRegisterCount := 65536

def validateTableSize (table : String) (count : Nat) : Except StoreError Unit :=
  rejectIf (count > maxTableSize) (.tableTooLarge table count maxTableSize)

def StoreConfig.validate (config : StoreConfig) : Except StoreError Unit := do
  validateTableSize "coils" config.coilCount
  validateTableSize "discrete_inputs" config.discreteInputCount
  validateTableSize "holding_registers" config.holdingRegisterCount
  validateTableSize "input_registers" config.inputRegisterCount

structure InMemoryStore (config : StoreConfig) where
  coils : BitTable config.coilCount
  discreteInputs : BitTable config.discreteInputCount
  holdingRegisters : Vector UInt16 config.holdingRegisterCount
  inputRegisters : Vector UInt16 config.inputRegisterCount
  files : UInt16 → Option (List UInt16)
  fifoQueues : UInt16 → Option (List UInt16)
  exceptionStatus : UInt8
  serverId : List UInt8
  valid : config.validate = .ok ()

/-- `registers[start..start + count]`. -/
def registersAt {n : Nat} (registers : Vector UInt16 n) (start count : Nat) : List UInt16 :=
  (registers.toList.drop start).take count

/-- Copy `values` over the registers from `start` on. -/
def overwrite {n : Nat} (registers : Vector UInt16 n) (start : Nat) (values : List UInt16) :
    Vector UInt16 n :=
  registers.mapIdx fun i old => if start ≤ i then values.getD (i - start) old else old

/-- `read_holding_registers_be` and `read_input_registers_be`. -/
def readRegistersBe {n : Nat} (registers : Vector UInt16 n) (address quantity : UInt16)
    (out : List UInt8) : Except ExceptionCode (Nat × Slice out) := do
  let _ ← checkRange address quantity.toNat n
  let out ← packRegistersBe (registersAt registers address.toNat quantity.toNat) out
  return (quantity.toNat, out)

def validateAtomicReadWriteBuffers (readQuantity writeQuantity : UInt16)
    (writeValues out : List UInt8) : Except ExceptionCode (Nat × Nat) := do
  rejectIf (readQuantity = 0 ∨ readQuantity > maxRwRead ∨ writeQuantity = 0 ∨
      writeQuantity > maxRwWrite)
    .illegalDataValue
  let readCount := readQuantity.toNat
  let writeCount := writeQuantity.toNat
  rejectIf (writeValues.length ≠ writeCount * 2 ∨ out.length < readCount * 2) .illegalDataValue
  return (readCount, writeCount)

namespace InMemoryStore

variable {config : StoreConfig}

/-- A new store: every table zero, no files, no queues. -/
def tryNew (config : StoreConfig) : Except StoreError (InMemoryStore config) :=
  match h : config.validate with
  | .error e => .error e
  | .ok () => .ok
    { coils := BitTable.new _, discreteInputs := BitTable.new _,
      holdingRegisters := Vector.replicate _ 0, inputRegisters := Vector.replicate _ 0,
      files := fun _ => none, fifoQueues := fun _ => none, exceptionStatus := 0,
      -- the text "rusty-modbus" and the run indicator
      serverId := "rusty-modbus".toUTF8.toList ++ [0xFF], valid := h }

/-! ## Setup -/

def checkSetupAddress (table : String) (address : UInt16) (len : Nat) :
    Except StoreError (PLift (address.toNat < len)) :=
  if h : address.toNat < len then .ok ⟨h⟩ else .error (.addressOutOfRange table address len)

def setInputRegister (address value : UInt16) (s : InMemoryStore config) :
    Except StoreError (InMemoryStore config) := do
  let ⟨h⟩ ← checkSetupAddress "input_registers" address config.inputRegisterCount
  return { s with inputRegisters := s.inputRegisters.set address.toNat value h }

def setDiscreteInput (address : UInt16) (value : Bool) (s : InMemoryStore config) :
    Except StoreError (InMemoryStore config) := do
  let ⟨h⟩ ← checkSetupAddress "discrete_inputs" address config.discreteInputCount
  return { s with discreteInputs := s.discreteInputs.set address.toNat h value }

def setHoldingRegister (address value : UInt16) (s : InMemoryStore config) :
    Except StoreError (InMemoryStore config) := do
  let ⟨h⟩ ← checkSetupAddress "holding_registers" address config.holdingRegisterCount
  return { s with holdingRegisters := s.holdingRegisters.set address.toNat value h }

def setCoil (address : UInt16) (value : Bool) (s : InMemoryStore config) :
    Except StoreError (InMemoryStore config) := do
  let ⟨h⟩ ← checkSetupAddress "coils" address config.coilCount
  return { s with coils := s.coils.set address.toNat h value }

/-! ## Methods -/

/-- A method: it can fail at any point and keeps what it has changed until then. -/
abbrev StoreM (config : StoreConfig) := EStateM ExceptionCode (InMemoryStore config)

def check {α : Type} (x : Except ExceptionCode α) : StoreM config α :=
  match x with
  | .ok a => pure a
  | .error e => throw e

/-- A method that only looks at the state. -/
def look {α : Type} (f : InMemoryStore config → Except ExceptionCode α) : StoreM config α := do
  let s ← get
  check (f s)

def writeCoil (address : UInt16) (value : Bool) : StoreM config Unit := do
  let s ← get
  let ⟨h⟩ ← check (checkRange address 1 config.coilCount)
  set { s with coils := s.coils.set address.toNat h value }

def writeCoilsPacked (address quantity : UInt16) (packedValues : List UInt8) :
    StoreM config Unit := do
  let ⟨quantity, hlen⟩ ← check (validatePackedCoils quantity packedValues)
  let s ← get
  let coils ← check (s.coils.writePacked address quantity packedValues hlen)
  set { s with coils }

def writeRegister (address value : UInt16) : StoreM config Unit := do
  let s ← get
  let ⟨h⟩ ← check (checkRange address 1 config.holdingRegisterCount)
  set { s with holdingRegisters := s.holdingRegisters.set address.toNat value }

def writeRegistersBe (address quantity : UInt16) (valueBytes : List UInt8) :
    StoreM config Unit := do
  let quantity ← check (validateRegisterValuesBe quantity valueBytes)
  let s ← get
  let _ ← check (checkRange address quantity config.holdingRegisterCount)
  set { s with
    holdingRegisters :=
      overwrite s.holdingRegisters address.toNat ((registersOf valueBytes).take quantity) }

def atomicMaskWriteRegister (address andMask orMask : UInt16) : StoreM config Unit := do
  let s ← get
  let ⟨h⟩ ← check (checkRange address 1 config.holdingRegisterCount)
  let current := s.holdingRegisters[address.toNat]
  set { s with
    holdingRegisters :=
      s.holdingRegisters.set address.toNat ((current &&& andMask) ||| (orMask &&& ~~~andMask)) }

def atomicReadWriteRegistersBe (readAddress readQuantity writeAddress writeQuantity : UInt16)
    (writeValues out : List UInt8) : StoreM config (Nat × Slice out) := do
  let (readCount, writeCount) ←
    check (validateAtomicReadWriteBuffers readQuantity writeQuantity writeValues out)
  let s ← get
  let _ ← check (checkRange writeAddress writeCount config.holdingRegisterCount)
  let _ ← check (checkRange readAddress readCount config.holdingRegisterCount)
  let registers :=
    overwrite s.holdingRegisters writeAddress.toNat ((registersOf writeValues).take writeCount)
  set { s with holdingRegisters := registers }
  let out ← check (packRegistersBe (registersAt registers readAddress.toNat readCount) out)
  return (readCount, out)

def readFileRecordBe (fileNumber recordNumber recordLength : UInt16) (out : List UInt8)
    (s : InMemoryStore config) : Except ExceptionCode (Nat × Slice out) := do
  let len := recordLength.toNat
  validateRange fileNumber recordNumber len
  rejectIf (len > maxFileRecordRegisters) .illegalDataAddress
  let file ← okOr (s.files fileNumber) .illegalDataAddress
  let start := recordNumber.toNat
  rejectIf (start + len > file.length) .illegalDataAddress
  let out ← packRegistersBe ((file.drop start).take len) out
  return (len, out)

/-- A file after `values` have been written to its records from `start` on; it grows as
far as the write reaches. -/
def writeRecords (file : List UInt16) (start len : Nat) (values : List UInt16) : List UInt16 :=
  let finish := start + len
  let file := if finish > file.length then file ++ List.replicate (finish - file.length) 0 else file
  writeAt start (values.take len) file

def writeFileRecordBe (fileNumber recordNumber recordLength : UInt16) (valueBytes : List UInt8) :
    StoreM config Unit := do
  let len := recordLength.toNat
  check (rejectIf (valueBytes.length ≠ len * 2) .illegalDataValue)
  check (validateRange fileNumber recordNumber len)
  let s ← get
  let file := (s.files fileNumber).getD []
  let file := writeRecords file recordNumber.toNat len (registersOf valueBytes)
  set { s with files := fun n => if n = fileNumber then some file else s.files n }

def readFifoQueueBe (address : UInt16) (out : List UInt8) (s : InMemoryStore config) :
    Except ExceptionCode (Nat × Slice out) := do
  let values ← okOr (s.fifoQueues address) .illegalDataAddress
  rejectIf (values.length > maxFifoValues.toNat) .illegalDataValue
  let out ← packRegistersBe values out
  return (values.length, out)

def appendServerId (s : InMemoryStore config) : Except ExceptionCode (Appended Nat) := do
  rejectIf (s.serverId.length > maxServerIdBytes) .serverDeviceFailure
  return { result := s.serverId.length, bytes := s.serverId }

def appendDiagnosticResponse (subFunction : DiagnosticSubFunction) (data : List UInt8) :
    Except ExceptionCode (Appended (Option Nat)) :=
  match subFunction with
  | .returnQueryData => do
    rejectIf (data.length > maxDiagnosticResponseDataLen) .serverDeviceFailure
    return { result := some data.length, bytes := data }
  | _ => .error .illegalFunction

/-- The methods. The last three are the defaults of the trait, which the store does not
override. -/
def serve : (op : StoreOp) → StoreM config op.Answer
  | .readCoilsPacked address quantity out => look fun s => s.coils.readPacked address quantity out
  | .readDiscreteInputsPacked address quantity out =>
    look fun s => s.discreteInputs.readPacked address quantity out
  | .readHoldingRegistersBe address quantity out =>
    look fun s => readRegistersBe s.holdingRegisters address quantity out
  | .readInputRegistersBe address quantity out =>
    look fun s => readRegistersBe s.inputRegisters address quantity out
  | .writeCoil address value => writeCoil address value
  | .writeCoilsPacked address quantity packedValues =>
    writeCoilsPacked address quantity packedValues
  | .writeRegister address value => writeRegister address value
  | .writeRegistersBe address quantity valueBytes => writeRegistersBe address quantity valueBytes
  | .atomicMaskWriteRegister address andMask orMask =>
    atomicMaskWriteRegister address andMask orMask
  | .atomicReadWriteRegistersBe readAddress readQuantity writeAddress writeQuantity writeValues
    out =>
    atomicReadWriteRegistersBe readAddress readQuantity writeAddress writeQuantity writeValues out
  | .readFileRecordBe fileNumber recordNumber recordLength out =>
    look (readFileRecordBe fileNumber recordNumber recordLength out)
  | .writeFileRecordBe fileNumber recordNumber recordLength valueBytes =>
    writeFileRecordBe fileNumber recordNumber recordLength valueBytes
  | .readFifoQueueBe address out => look (readFifoQueueBe address out)
  | .readExceptionStatus => look fun s => .ok s.exceptionStatus
  | .appendDiagnosticResponse subFunction data => look fun _ => appendDiagnosticResponse subFunction data
  | .appendServerId => look appendServerId
  | .getCommEventCounter => look fun _ => .error .illegalFunction
  | .appendCommEventLog => look fun _ => .error .illegalFunction
  | .handleCustomFunction _ _ _ _ => look fun _ => .error .illegalFunction

end InMemoryStore

/-- The reply of a method that has run, and the state it left. -/
def replyOf {σ α : Type} : EStateM.Result ExceptionCode σ α → Except ExceptionCode α × σ
  | .ok a s => (.ok a, s)
  | .error e s => (.error e, s)

/-- The in-memory store as the component the handlers call. -/
def memoryStore (config : StoreConfig) : DataStore (InMemoryStore config) := fun op s =>
  replyOf ((InMemoryStore.serve op).run s)

/-! ## A method that fails has changed nothing -/

namespace InMemoryStore

variable {config : StoreConfig} {α β : Type}

/-- The method, run on `s`, leaves it as it is if it fails. -/
def KeepsOnError (m : StoreM config α) (s : InMemoryStore config) : Prop :=
  ∀ e s', m.run s = .error e s' → s' = s

theorem run_check (x : Except ExceptionCode α) (s : InMemoryStore config) :
    (check x).run s = match x with
      | .ok a => .ok a s
      | .error e => .error e s := by
  cases x <;> rfl

theorem run_check_bind (x : Except ExceptionCode α) (f : α → StoreM config β)
    (s : InMemoryStore config) :
    (check x >>= f).run s = match x with
      | .ok a => (f a).run s
      | .error e => .error e s := by
  cases x <;> rfl

theorem run_get_bind (f : InMemoryStore config → StoreM config β) (s : InMemoryStore config) :
    (get >>= f).run s = (f s).run s := rfl

theorem run_set_bind (s' : InMemoryStore config) (f : PUnit → StoreM config β)
    (s : InMemoryStore config) : (set s' >>= f).run s = (f ⟨⟩).run s' := rfl

theorem run_look (f : InMemoryStore config → Except ExceptionCode α) (s : InMemoryStore config) :
    (look f).run s = match f s with
      | .ok a => .ok a s
      | .error e => .error e s :=
  run_check (f s) s

theorem KeepsOnError.check_bind {x : Except ExceptionCode α} {f : α → StoreM config β}
    {s : InMemoryStore config} (h : ∀ a, x = .ok a → KeepsOnError (f a) s) :
    KeepsOnError (check x >>= f) s := by
  intro e s' hrun
  rw [run_check_bind] at hrun
  cases x with
  | ok a => exact h a rfl e s' hrun
  | error e' =>
    cases hrun
    rfl

theorem KeepsOnError.get_bind {f : InMemoryStore config → StoreM config β}
    {s : InMemoryStore config} (h : KeepsOnError (f s) s) : KeepsOnError (get >>= f) s := h

theorem KeepsOnError.set (s s' : InMemoryStore config) :
    KeepsOnError (MonadStateOf.set s' : StoreM config PUnit) s := nofun

theorem KeepsOnError.look (f : InMemoryStore config → Except ExceptionCode α)
    (s : InMemoryStore config) : KeepsOnError (look f) s := by
  intro e s' hrun
  rw [run_look] at hrun
  cases hf : f s with
  | ok a =>
    rw [hf] at hrun
    cases hrun
  | error e' =>
    rw [hf] at hrun
    cases hrun
    rfl

theorem registersAt_length_le {n : Nat} (registers : Vector UInt16 n) (start count : Nat) :
    (registersAt registers start count).length ≤ count := by
  rw [registersAt, List.length_take]
  exact Nat.min_le_left _ _

/-- The read of a read/write call cannot fail behind its write: the room for the answer was
checked before. -/
theorem keepsOnError_atomicReadWriteRegistersBe (ra rq wa wq : UInt16) (values out : List UInt8)
    (s : InMemoryStore config) :
    KeepsOnError (atomicReadWriteRegistersBe ra rq wa wq values out) s := by
  refine .check_bind fun counts hcounts => .get_bind <|
    .check_bind fun _ _ => .check_bind fun _ _ => ?_
  obtain ⟨-, h⟩ := check_bind_eq_ok.mp hcounts
  obtain ⟨hroom, h⟩ := check_bind_eq_ok.mp h
  obtain rfl := pure_eq_ok.mp h
  rw [rejectIf_eq_ok, not_or, Nat.not_lt] at hroom
  have hle := registersAt_length_le
    (overwrite s.holdingRegisters wa.toNat ((registersOf values).take wq.toNat)) ra.toNat rq.toNat
  obtain ⟨packed, hpacked, -⟩ := packRegistersBe_eq_ok (Nat.le_trans (Nat.mul_le_mul_right 2 hle)
    hroom.2)
  intro e s' hrun
  dsimp only at hrun
  rw [run_set_bind, hpacked] at hrun
  cases hrun

theorem keepsOnError_serve (op : StoreOp) (s : InMemoryStore config) :
    KeepsOnError (serve op) s := by
  cases op with
  | writeCoil a v | writeRegister a v | atomicMaskWriteRegister a am om =>
    exact .get_bind <| .check_bind fun _ _ => .set _ _
  | writeCoilsPacked a q values | writeRegistersBe a q values =>
    exact .check_bind fun _ _ => .get_bind <| .check_bind fun _ _ => .set _ _
  | atomicReadWriteRegistersBe ra rq wa wq values out =>
    exact keepsOnError_atomicReadWriteRegistersBe ra rq wa wq values out s
  | writeFileRecordBe file rec len values =>
    exact .check_bind fun _ _ => .check_bind fun _ _ => .get_bind <| .set _ _
  | _ => exact .look _ s

end InMemoryStore

/-- The calls that can change a store's tables or files. -/
def StoreOp.Writes : StoreOp → Prop
  | writeCoil _ _ | writeCoilsPacked _ _ _ | writeRegister _ _ | writeRegistersBe _ _ _
  | atomicMaskWriteRegister _ _ _ | atomicReadWriteRegistersBe _ _ _ _ _ _
  | writeFileRecordBe _ _ _ _ => True
  | _ => False

section

variable {config : StoreConfig}

theorem memoryStore_error {op : StoreOp} {s s' : InMemoryStore config} {e : ExceptionCode}
    (h : memoryStore config op s = (.error e, s')) : s' = s := by
  have hkeeps := InMemoryStore.keepsOnError_serve op s
  rw [memoryStore] at h
  cases hrun : (InMemoryStore.serve op).run s with
  | ok a t =>
    rw [hrun] at h
    cases h
  | error e' t =>
    rw [hrun] at h
    cases h
    exact hkeeps _ _ hrun

theorem replyOf_look {α : Type} (f : InMemoryStore config → Except ExceptionCode α)
    (s : InMemoryStore config) : replyOf ((InMemoryStore.look f).run s) = (f s, s) := by
  rw [InMemoryStore.run_look]
  cases f s <;> rfl

/-- A call that is not a write leaves the store as it is. -/
theorem memoryStore_unchanged {op : StoreOp} (hop : ¬op.Writes) (s : InMemoryStore config) :
    (memoryStore config op s).2 = s := by
  cases op with
  | writeCoil | writeCoilsPacked | writeRegister | writeRegistersBe | atomicMaskWriteRegister
  | atomicReadWriteRegistersBe | writeFileRecordBe => exact absurd trivial hop
  | _ => exact congrArg Prod.snd (replyOf_look _ s)

end

/-! ## A small store -/

/-- A store of one coil and one register of each kind. -/
def oneOfEach : StoreConfig where
  coilCount := 1
  discreteInputCount := 1
  holdingRegisterCount := 1
  inputRegisterCount := 1

def oneOfEachStore : InMemoryStore oneOfEach where
  coils := BitTable.new _
  discreteInputs := BitTable.new _
  holdingRegisters := Vector.replicate _ 0
  inputRegisters := Vector.replicate _ 0
  files := fun _ => none
  fifoQueues := fun _ => none
  exceptionStatus := 0
  serverId := []
  valid := rfl

end RustyModbus.Server
