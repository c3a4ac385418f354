import RustyModbus.Lib.Bitmap
import RustyModbus.Server.Memory

/-!
# The configuration of the simulator

A simulator is a server whose store is filled from a configuration: for each table a list of blocks
of addresses with initial values. The configuration is checked as a whole before the store is made.
Afterwards the builder takes it for granted that every value has a place, with an `expect` at each
one; an `expect` that fails is a fault here, and so is the one inside the check.
-/

namespace RustyModbus.Sim

open Wire Server

inductive UpdateMode
  | static
  | random
  | increment
deriving DecidableEq, Repr

structure RegisterBlock where
  address : UInt16
  count : UInt16
  initial : List UInt16
  mode : UpdateMode
  min : UInt16
  max : UInt16
deriving DecidableEq, Repr

structure CoilBlock where
  address : UInt16
  count : UInt16
  initial : List Bool
deriving DecidableEq, Repr

structure RegisterConfig where
  holding : List RegisterBlock
  input : List RegisterBlock
  coils : List CoilBlock
  discreteInputs : List CoilBlock
deriving DecidableEq, Repr

inductive SimError
  | config (message : String)
  | store (e : StoreError)
deriving DecidableEq, Repr

/-- `result.expect(..)`. -/
def expectOk {ε α : Type} (x : Except ε α) : Except (Fault SimError) α := x.mapError fun _ => .panic

/-! ## The check -/

section Check

variable {β : Type} (table : String) (fields : β → UInt16 × UInt16 × Nat)

/-- The block among the previous ones that an address belongs to: its index, its first and its last
address. -/
def findPrevious (previous : List β) (overlap : Nat) : Option (Nat × UInt16 × Nat) :=
  previous.zipIdx.findSome? fun (block, previousIndex) =>
    let (previousStart, previousCount, _) := fields block
    let previousEnd := previousStart.toNat + previousCount.toNat - 1
    if previousStart.toNat ≤ overlap ∧ overlap ≤ previousEnd then
      some (previousIndex, previousStart, previousEnd)
    else none

/-- The checks of a block on its own. -/
def validateBlock (index : Nat) (address count : UInt16) (initialLen : Nat) :
    Except SimError Unit := do
  rejectIf (count = 0) (.config s!"registers.{table}[{index}].count must be nonzero")
  rejectIf (¬address.toNat + (count - 1).toNat < 65536)
    (.config (s!"registers.{table}[{index}] block at address {address} with count {count} " ++
      "exceeds Modbus address space"))
  rejectIf (initialLen > count.toNat)
    (.config s!"registers.{table}[{index}].initial has {initialLen} values but count is {count}")

/-- The loop of the layout check: `previous` are the blocks that have passed, and `occupied` the
addresses they take. -/
def validateBlocks (previous : List β) (occupied : Bitmap 1024) :
    List β → Except (Fault SimError) Unit
  | [] => .ok ()
  | block :: rest => do
    let index := previous.length
    let (address, count, initialLen) := fields block
    Fault.lift (validateBlock table index address count initialLen)
    let finish := address.toNat + count.toNat - 1
    let items := List.range' address.toNat (finish + 1 - address.toNat)
    match ← occupied.find items with
    | some overlap =>
      let (previousIndex, previousStart, previousEnd) ←
        okOr (findPrevious fields previous overlap) .panic
      .error (.error (.config
        (s!"registers.{table}[{previousIndex}] range {previousStart}..={previousEnd} " ++
          s!"overlaps registers.{table}[{index}] range {address}..={finish}")))
    | none =>
      let occupied ← occupied.markAll items
      validateBlocks (previous ++ [block]) occupied rest

def validateBlockLayout (blocks : List β) : Except (Fault SimError) Unit :=
  validateBlocks table fields [] (Bitmap.empty 1024) blocks

end Check

def RegisterBlock.fields (block : RegisterBlock) : UInt16 × UInt16 × Nat :=
  (block.address, block.count, block.initial.length)

def CoilBlock.fields (block : CoilBlock) : UInt16 × UInt16 × Nat :=
  (block.address, block.count, block.initial.length)

def validateRegisterBehavior (table : String) (blocks : List RegisterBlock) :
    Except SimError Unit :=
  forM blocks.zipIdx fun (block, index) => do
    rejectIf (block.mode ≠ .static)
      (.config s!"registers.{table}[{index}].mode is unsupported; only static is supported")
    rejectIf (block.min ≠ 0 ∨ block.max ≠ 65535)
      (.config (s!"registers.{table}[{index}] static min/max must be 0/65535, " ++
        s!"got {block.min}/{block.max}"))

def validateRegisterConfig (config : RegisterConfig) : Except (Fault SimError) Unit := do
  validateBlockLayout "holding" RegisterBlock.fields config.holding
  Fault.lift (validateRegisterBehavior "holding" config.holding)
  validateBlockLayout "input" RegisterBlock.fields config.input
  Fault.lift (validateRegisterBehavior "input" config.input)
  validateBlockLayout "coils" CoilBlock.fields config.coils
  validateBlockLayout "discrete_inputs" CoilBlock.fields config.discreteInputs

/-! ## The builder -/

def offsetAddress (address : UInt16) (offset : Nat) : Option UInt16 :=
  if offset < 65536 then
    let offset := UInt16.ofNat offset
    if address.toNat + offset.toNat < 65536 then some (address + offset) else none
  else none

section Apply

variable {α σ : Type} (set : UInt16 → α → σ → Except (Fault SimError) σ)

/-- The values of one block, in front of which `set` decides what happens to a value. -/
def applyBlock (address count : UInt16) (initial : List α) (s : σ) : Except (Fault SimError) σ :=
  initial.zipIdx.foldlM (fun s (val, i) =>
    if i < count.toNat then
      match offsetAddress address i with
      | some address => set address val s
      | none => .ok s
    else .ok s) s

end Apply

section

variable {σ : Type}

def applyRegisterBlocks (blocks : List RegisterBlock)
    (set : UInt16 → UInt16 → σ → Except (Fault SimError) σ) (s : σ) : Except (Fault SimError) σ :=
  blocks.foldlM (fun s block => applyBlock set block.address block.count block.initial s) s

def applyCoilBlocks (blocks : List CoilBlock)
    (set : UInt16 → Bool → σ → Except (Fault SimError) σ) (s : σ) : Except (Fault SimError) σ :=
  blocks.foldlM (fun s block => applyBlock set block.address block.count block.initial s) s

end

/-- The store of a simulator. -/
abbrev Store := InMemoryStore StoreConfig.default

def applyHolding (blocks : List RegisterBlock) : Store → Except (Fault SimError) Store :=
  applyRegisterBlocks blocks fun address value s => expectOk (s.setHoldingRegister address value)

def applyInput (blocks : List RegisterBlock) : Store → Except (Fault SimError) Store :=
  applyRegisterBlocks blocks fun address value s => expectOk (s.setInputRegister address value)

def applyCoils (blocks : List CoilBlock) : Store → Except (Fault SimError) Store :=
  applyCoilBlocks blocks fun address value s => expectOk (s.setCoil address value)

def applyDiscreteInputs (blocks : List CoilBlock) : Store → Except (Fault SimError) Store :=
  applyCoilBlocks blocks fun address value s => expectOk (s.setDiscreteInput address value)

def applyRegisterConfig (config : RegisterConfig) (s : Store) : Except (Fault SimError) Store := do
  let s ← applyHolding config.holding s
  let s ← applyInput config.input s
  let s ← applyCoils config.coils s
  applyDiscreteInputs config.discreteInputs s

/-- The part of `from_config` that is about the tables. -/
def fromRegisters (config : RegisterConfig) : Except (Fault SimError) Store := do
  validateRegisterConfig config
  let s ← Fault.lift ((InMemoryStore.tryNew StoreConfig.default).mapError .store)
  applyRegisterConfig config s

end RustyModbus.Sim
