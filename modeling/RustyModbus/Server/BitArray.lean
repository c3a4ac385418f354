import RustyModbus.Server.BitTable

/-!
# A bit table is an array of booleans

The table once more, this time as the source stores it: a length and a vector of bytes that
nothing ties together, indexed with indices that nothing has checked. An index out of
bounds, a subtraction below zero and a failed `debug_assert` panic. A method that changes
the table runs on it and keeps what it has done when it fails.

Three levels are connected here. Each method on the raw bytes is the method of `BitTable`,
whose accesses are in bounds by construction, so it does not panic (`raw_readBits` and its
siblings). Each
method of `BitTable` is the read or write of an array (`exists_simulated`). So a run of
any operations is a run on an array (`BitTable.refines_bools`). The one thing a caller has
to see to is the index of `set`, which makes no range check of its own
(`BitTable.set_outOfRange`).
-/

namespace RustyModbus.Server

open Wire Interaction

/-! ## The bytes -/

structure RawBitTable where
  len : Nat
  bytes : List UInt8
deriving DecidableEq, Repr

namespace RawBitTable

/-- A method that reads the table. -/
abbrev Read := Except (Fault ExceptionCode)

/-- A method that changes the table. -/
abbrev Change := EStateM (Fault ExceptionCode) RawBitTable

def new (len : Nat) : RawBitTable := { len, bytes := List.replicate ((len + 7) / 8) 0 }

/-- An assertion; also the check in front of a subtraction. -/
def assert {ε : Type} (c : Prop) [Decidable c] : Except (Fault ε) Unit := rejectIf (¬c) .panic

def rangeCheck (address : UInt16) (quantity max : Nat) : Read Unit :=
  rejectIf (address.toNat + quantity > max) (.error .illegalDataAddress)

/-- `list[i] = a`. -/
def update {α ε : Type} (l : List α) (i : Nat) (a : α) : Except (Fault ε) (List α) := do
  assert (i < l.length)
  return l.set i a

/-- A part of a changing method that can fail and changes nothing itself. -/
def attempt {α : Type} : Read α → Change α
  | .ok a => pure a
  | .error e => throw e

def byteAt (i : Nat) : Change UInt8 := do
  let t ← get
  attempt (index t.bytes i)

def setByte (i : Nat) (byte : UInt8) : Change Unit := do
  let t ← get
  let bytes ← attempt (update t.bytes i byte)
  MonadStateOf.set { t with bytes }

def set (index : Nat) (value : Bool) : Change Unit := do
  let mask : UInt8 := 1 <<< UInt8.ofNat (index % 8)
  let byte ← byteAt (index / 8)
  setByte (index / 8) (if value then byte ||| mask else byte &&& ~~~mask)

def readByteBits (t : RawBitTable) (start bitCount : Nat) : Read UInt8 := do
  assert (1 ≤ bitCount ∧ bitCount ≤ 8)
  let byteIndex := start / 8
  let shift := start % 8
  let byte ← index t.bytes byteIndex
  let byte := byte >>> UInt8.ofNat shift
  if shift ≠ 0 ∧ byteIndex + 1 < t.bytes.length then
    let next ← index t.bytes (byteIndex + 1)
    return (byte ||| next <<< UInt8.ofNat (8 - shift)) &&& lowBitMask bitCount
  else return byte &&& lowBitMask bitCount

def writeByteBits (start : Nat) (value : UInt8) (bitCount : Nat) : Change Unit := do
  attempt (assert (1 ≤ bitCount ∧ bitCount ≤ 8))
  let byteIndex := start / 8
  let shift := start % 8
  let mask := lowBitMask bitCount
  let value := value &&& mask
  if shift + bitCount ≤ 8 then
    let shiftedMask := mask <<< UInt8.ofNat shift
    let byte ← byteAt byteIndex
    setByte byteIndex ((byte &&& ~~~shiftedMask) ||| value <<< UInt8.ofNat shift)
  else
    let lowBits := 8 - shift
    let lowMask := lowBitMask lowBits <<< UInt8.ofNat shift
    let byte ← byteAt byteIndex
    setByte byteIndex ((byte &&& ~~~lowMask) ||| (value <<< UInt8.ofNat shift &&& lowMask))
    let highBits := bitCount - lowBits
    let highMask := lowBitMask highBits
    let byte ← byteAt (byteIndex + 1)
    setByte (byteIndex + 1)
      ((byte &&& ~~~highMask) ||| (value >>> UInt8.ofNat lowBits &&& highMask))

/-- One turn of the loop of `read_bits`. -/
def readBitsByte (t : RawBitTable) (start quantity : Nat) (out : List Bool) (byteIndex : Nat) :
    Read (List Bool) := do
  let outStart := byteIndex * 8
  assert (outStart ≤ quantity)
  let bitCount := min (quantity - outStart) 8
  let byte ← t.readByteBits (start + outStart) bitCount
  (List.range bitCount).foldlM
    (fun out bit => update out (outStart + bit) ((byte >>> UInt8.ofNat bit) &&& 1 == 1)) out

def readBits (t : RawBitTable) (address quantity : UInt16) (out : List Bool) :
    Read (Nat × List Bool) := do
  let start := address.toNat
  let quantity := quantity.toNat
  rangeCheck address quantity t.len
  rejectIf (out.length < quantity) (.error .illegalDataValue)
  let out ← (List.range ((quantity + 7) / 8)).foldlM (t.readBitsByte start quantity) out
  return (quantity, out)

/-- One turn of the loop of `write_bits`, for the chunk of `values` at `byteIndex`. -/
def writeBitsByte (start : Nat) (values : List Bool) (byteIndex : Nat) : Change Unit :=
  let chunk := (values.drop (byteIndex * 8)).take 8
  writeByteBits (start + byteIndex * 8) (packByte chunk) chunk.length

def writeBits (address : UInt16) (values : List Bool) : Change Unit := do
  let t ← get
  attempt (rangeCheck address values.length t.len)
  forM (List.range ((values.length + 7) / 8)) (writeBitsByte address.toNat values)

/-- One turn of the loop of `read_packed`. -/
def readPackedByte (t : RawBitTable) (start quantity : Nat) (out : List UInt8) (byteIndex : Nat) :
    Read (List UInt8) := do
  let sourceBit := start + byteIndex * 8
  assert (byteIndex * 8 ≤ quantity)
  let bitCount := min (quantity - byteIndex * 8) 8
  let byte ← t.readByteBits sourceBit bitCount
  update out byteIndex byte

def readPacked (t : RawBitTable) (address quantity : UInt16) (out : List UInt8) :
    Read (Nat × List UInt8) := do
  let start := address.toNat
  let quantity := quantity.toNat
  rangeCheck address quantity t.len
  let byteCount := (quantity + 7) / 8
  rejectIf (out.length < byteCount) (.error .illegalDataValue)
  let out ← (List.range byteCount).foldlM (t.readPackedByte start quantity) out
  return (quantity, out)

/-- One turn of the loop of `write_packed`. -/
def writePackedByte (start quantity : Nat) (packedValues : List UInt8) (byteIndex : Nat) :
    Change Unit := do
  let byte ← attempt (index packedValues byteIndex)
  let offset := byteIndex * 8
  attempt (assert (offset ≤ quantity))
  let bitCount := min (quantity - offset) 8
  writeByteBits (start + offset) byte bitCount

def writePacked (address : UInt16) (quantity : Nat) (packedValues : List UInt8) : Change Unit := do
  let t ← get
  attempt (rangeCheck address quantity t.len)
  forM (List.range packedValues.length) (writePackedByte address.toNat quantity packedValues)

end RawBitTable

/-! ## Operations -/

/-- A call of a table's method. -/
inductive BitOp
  | set (index : Nat) (value : Bool)
  | readBits (address quantity : UInt16) (out : List Bool)
  | writeBits (address : UInt16) (values : List Bool)
  | readPacked (address quantity : UInt16) (out : List UInt8)
  | writePacked (address : UInt16) (quantity : Nat) (packedValues : List UInt8)
deriving DecidableEq, Repr

/-- What a call returns, with the slice it was given as it is afterwards. -/
inductive BitReply
  | done
  | bits (count : Nat) (out : List Bool)
  | bytes (count : Nat) (out : List UInt8)
deriving DecidableEq, Repr

namespace BitOp

/-- What the callers see to: an index of `set` exists, and packed values are as many as they
have to be. Addresses, quantities and output slices are arbitrary. -/
def Allowed (len : Nat) : BitOp → Prop
  | set index _ => index < len
  | writePacked _ quantity packedValues => packedValues.length = (quantity + 7) / 8
  | _ => True

/-- The places an operation writes to. -/
def Addresses (j : Nat) : BitOp → Prop
  | set index _ => j = index
  | writeBits address values => address.toNat ≤ j ∧ j < address.toNat + values.length
  | writePacked address quantity _ => address.toNat ≤ j ∧ j < address.toNat + quantity
  | readBits _ _ _ | readPacked _ _ _ => False

/-- The call on the bytes. -/
def call : BitOp → RawBitTable.Change BitReply
  | set index value => do
    RawBitTable.set index value
    return .done
  | readBits address quantity out => do
    let t ← get
    let (count, out) ← RawBitTable.attempt (t.readBits address quantity out)
    return .bits count out
  | writeBits address values => do
    RawBitTable.writeBits address values
    return .done
  | readPacked address quantity out => do
    let t ← get
    let (count, out) ← RawBitTable.attempt (t.readPacked address quantity out)
    return .bytes count out
  | writePacked address quantity packedValues => do
    RawBitTable.writePacked address quantity packedValues
    return .done

/-- What is seen of a call that has ended; nothing is left to see of one that panicked. -/
def observe : EStateM.Result (Fault ExceptionCode) RawBitTable BitReply →
    Option (Except ExceptionCode BitReply × RawBitTable)
  | .ok reply t => some (.ok reply, t)
  | .error (.error e) t => some (.error e, t)
  | .error .panic _ => none

def onBytes (op : BitOp) (t : RawBitTable) : Option (Except ExceptionCode BitReply × RawBitTable) :=
  observe (op.call.run t)

/-- What the call means: the array is read or written at the places it names, if they exist
and the slice has room. -/
def onBools (op : BitOp) (bits : List Bool) : Except ExceptionCode BitReply × List Bool :=
  match op with
  | set index value => (.ok .done, bits.set index value)
  | readBits address quantity out =>
    let (address, quantity) := (address.toNat, quantity.toNat)
    if address + quantity > bits.length then (.error .illegalDataAddress, bits)
    else if out.length < quantity then (.error .illegalDataValue, bits)
    else (.ok (.bits quantity ((bits.drop address).take quantity ++ out.drop quantity)), bits)
  | writeBits address values =>
    let address := address.toNat
    if address + values.length > bits.length then (.error .illegalDataAddress, bits)
    else (.ok .done, writeAt address values bits)
  | readPacked address quantity out =>
    let (address, quantity) := (address.toNat, quantity.toNat)
    let packed := packBits ((bits.drop address).take quantity)
    if address + quantity > bits.length then (.error .illegalDataAddress, bits)
    else if out.length < packed.length then (.error .illegalDataValue, bits)
    else (.ok (.bytes quantity (packed ++ out.drop packed.length)), bits)
  | writePacked address quantity packedValues =>
    let address := address.toNat
    if address + quantity > bits.length then (.error .illegalDataAddress, bits)
    else (.ok .done, writeAt address (unpackBits quantity packedValues) bits)

/-- The calls one after the other, until one panics. -/
def execute : List BitOp → RawBitTable → Option (List (Except ExceptionCode BitReply) × RawBitTable)
  | [], t => some ([], t)
  | op :: ops, t => do
    let (reply, t) ← op.onBytes t
    let (replies, t) ← execute ops t
    return (reply :: replies, t)

end BitOp

/-! ## The bytes do not panic -/

namespace BitTable

open RawBitTable (assert attempt byteAt setByte update rangeCheck)

variable {len : Nat}

/-- A table with its invariant forgotten. -/
def raw (t : BitTable len) : RawBitTable := { len, bytes := t.bytes.toList }

theorem raw_len (t : BitTable len) : t.raw.len = len := rfl

theorem raw_new (len : Nat) : RawBitTable.new len = (BitTable.new len).raw := by
  rw [raw, BitTable.new, Vector.toList_replicate]
  rfl

theorem index_toList {n i : Nat} (v : Vector UInt8 n) (h : i < n) :
    (index v.toList i : RawBitTable.Read UInt8) = .ok v[i] := by
  rw [index, Vector.getElem?_toList, Vector.getElem?_eq_getElem h]
  rfl

theorem assert_pos {ε : Type} {c : Prop} [Decidable c] (h : c) :
    (assert c : Except (Fault ε) Unit) = .ok () := rejectIf_neg (not_not_intro h) _

theorem rangeCheck_inside {address : UInt16} {n max : Nat} (h : address.toNat + n ≤ max) :
    rangeCheck address n max = .ok () := rejectIf_neg (Nat.not_lt.mpr h) _

theorem rangeCheck_outside {address : UInt16} {n max : Nat} (h : ¬address.toNat + n ≤ max) :
    rangeCheck address n max = .error (.error .illegalDataAddress) :=
  rejectIf_pos (Nat.not_le.mp h) _

theorem update_eq {α ε : Type} {l : List α} {i : Nat} (h : i < l.length) (a : α) :
    (update l i a : Except (Fault ε) (List α)) = .ok (l.set i a) := by
  rw [update, assert_pos h]
  rfl

section Run

variable {α : Type} (t : BitTable len)

theorem run_attempt_bind {x : RawBitTable.Read α} {β : Type} {a : α} (h : x = .ok a)
    (f : α → RawBitTable.Change β) (t : RawBitTable) :
    (attempt x >>= f).run t = (f a).run t := by
  rw [h]
  rfl

theorem run_byteAt_bind {i : Nat} (h : i < (len + 7) / 8) (f : UInt8 → RawBitTable.Change α) :
    (byteAt i >>= f).run t.raw = (f t.bytes[i]).run t.raw :=
  run_attempt_bind (index_toList t.bytes h) f t.raw

theorem run_setByte {i : Nat} (h : i < (len + 7) / 8) (byte : UInt8) :
    (setByte i byte).run t.raw = .ok () (⟨t.bytes.set i byte⟩ : BitTable len).raw := by
  refine (run_attempt_bind (update_eq (by rwa [raw, Vector.length_toList]) byte) _ t.raw).trans ?_
  rw [raw, raw, Vector.toList_set]
  rfl

theorem run_setByte_bind {i : Nat} (h : i < (len + 7) / 8) (byte : UInt8)
    (f : Unit → RawBitTable.Change α) :
    (setByte i byte >>= f).run t.raw
      = (f ()).run (⟨t.bytes.set i byte⟩ : BitTable len).raw := by
  rw [EStateM.run_bind, run_setByte t h byte]

theorem raw_set {i : Nat} (h : i < len) (v : Bool) :
    (RawBitTable.set i v).run t.raw = .ok () (t.set i h v).raw := by
  rw [RawBitTable.set, run_byteAt_bind t (by omega), run_setByte t (by omega)]
  rfl

theorem raw_readByteBits {start n : Nat} (h : start < len) (hpos : 1 ≤ n) (hn : n ≤ 8) :
    t.raw.readByteBits start n = .ok (t.readByteBits start n h) := by
  rw [RawBitTable.readByteBits, assert_pos ⟨hpos, hn⟩, readByteBits]
  show (index t.bytes.toList (start / 8) >>= _) = _
  rw [index_toList t.bytes (by omega)]
  show (if start % 8 ≠ 0 ∧ start / 8 + 1 < t.bytes.toList.length then
    index t.bytes.toList (start / 8 + 1) >>= _ else _) = _
  rw [Vector.length_toList]
  by_cases hnext : start % 8 ≠ 0 ∧ start / 8 + 1 < (len + 7) / 8
  · rw [if_pos hnext, index_toList t.bytes hnext.2, dif_pos hnext]
    rfl
  · rw [if_neg hnext, dif_neg hnext]
    rfl

theorem raw_writeByteBits {start n : Nat} (value : UInt8) (hpos : 0 < n) (hn : n ≤ 8)
    (h : start + n ≤ len) :
    (RawBitTable.writeByteBits start value n).run t.raw
      = .ok () (t.writeByteBits start value n hpos h).raw := by
  rw [RawBitTable.writeByteBits, run_attempt_bind (assert_pos ⟨hpos, hn⟩), writeByteBits]
  by_cases hfit : start % 8 + n ≤ 8
  · rw [if_pos hfit, dif_pos hfit, run_byteAt_bind t (by omega), run_setByte t (by omega)]
  · rw [if_neg hfit, dif_neg hfit, run_byteAt_bind t (by omega), run_setByte_bind t (by omega),
      run_byteAt_bind _ (by omega), run_setByte _ (by omega)]

theorem raw_readBitsByte {start quantity : Nat} (hrange : start + quantity ≤ len)
    {out l : List Bool} (hout : quantity ≤ out.length) (hl : l.length = out.length)
    (k : Fin ((quantity + 7) / 8)) :
    t.raw.readBitsByte start quantity l k = .ok (t.readBitsByte start quantity hrange l k) := by
  have hk := k.isLt
  rw [RawBitTable.readBitsByte, assert_pos (by omega)]
  show (t.raw.readByteBits _ _ >>= _) = _
  rw [raw_readByteBits t (by omega) (by omega) (by omega), readBitsByte, unpackByte]
  -- the slice keeps its length, so every place the loop writes to exists
  refine foldlM_range (fun l : List Bool => l.length = out.length) ?_ ?_ hl
  · intro l j hl
    exact List.length_set.trans hl
  · intro l j hl
    have hj := j.isLt
    exact update_eq (by omega) _

theorem raw_readBits (address quantity : UInt16) (out : List Bool) :
    t.raw.readBits address quantity out = (t.readBits address quantity out).mapError .error := by
  rw [RawBitTable.readBits, raw_len]
  by_cases hrange : address.toNat + quantity.toNat ≤ len
  · rw [rangeCheck_inside hrange]
    show (rejectIf _ _ >>= _) = _
    by_cases hout : out.length < quantity.toNat
    · rw [rejectIf_pos hout, readBits_noRoom t hrange hout]
      rfl
    · have hroom := Nat.not_lt.mp hout
      have hloop := foldlM_range (fun l : List Bool => l.length = out.length)
        (fun l k hl => (length_unpackByte _ _ _ l).trans hl)
        (fun l k hl => t.raw_readBitsByte hrange hroom hl k) rfl
      rw [rejectIf_neg hout, readBits_inRange t hrange hroom, ← foldl_readBitsByte t hrange hroom]
      exact congrArg (· >>= fun out => pure (quantity.toNat, out)) hloop
  · rw [rangeCheck_outside hrange, readBits_outOfRange t hrange]
    rfl

theorem raw_readPackedByte {start quantity : Nat}
    {l : List UInt8} (hl : (quantity + 7) / 8 ≤ l.length) (k : Fin ((quantity + 7) / 8))
    (hstart : start + k * 8 < len) :
    t.raw.readPackedByte start quantity l k
      = .ok (l.set k (t.readByteBits (start + k * 8) (min (quantity - k * 8) 8) hstart)) := by
  have hk := k.isLt
  rw [RawBitTable.readPackedByte, assert_pos (by omega)]
  show (t.raw.readByteBits _ _ >>= _) = _
  rw [raw_readByteBits t (by omega) (by omega) (by omega)]
  exact update_eq (by omega) _

theorem raw_readPacked (address quantity : UInt16) (out : List UInt8) :
    t.raw.readPacked address quantity out
      = ((t.readPacked address quantity out).map fun r => (r.1, r.2.val)).mapError .error := by
  rw [RawBitTable.readPacked, raw_len]
  by_cases hrange : address.toNat + quantity.toNat ≤ len
  · rw [rangeCheck_inside hrange]
    show (rejectIf _ _ >>= _) = _
    by_cases hout : out.length < (quantity.toNat + 7) / 8
    · rw [rejectIf_pos hout, readPacked_noRoom t hrange hout]
      rfl
    · have hstart (k : Fin ((quantity.toNat + 7) / 8)) : address.toNat + k * 8 < len := by omega
      have hloop := foldlM_range (fun l : List UInt8 => l.length = out.length)
        (fun l k hl => List.length_set.trans hl)
        (fun l k hl => t.raw_readPackedByte (l := l) (by omega) k (hstart k)) rfl
      rw [foldl_set _ (Nat.not_lt.mp hout)] at hloop
      rw [rejectIf_neg hout, readPacked, checkRange_inside hrange]
      refine Eq.trans ?_ (congrArg (fun x => (Except.map _ x).mapError _) (dif_neg hout).symm)
      exact congrArg (· >>= fun out => pure (quantity.toNat, out)) hloop
  · rw [rangeCheck_outside hrange, readPacked_outOfRange t (Nat.not_le.mp hrange)]
    rfl

/-- How a changing method ends on the bytes, told how it ends on the table. -/
def rawResult (t : BitTable len) : Except ExceptionCode (BitTable len) →
    EStateM.Result (Fault ExceptionCode) RawBitTable Unit
  | .ok t' => .ok () t'.raw
  | .error e => .error (.error e) t.raw

theorem raw_writeBits (address : UInt16) (values : List Bool) :
    (RawBitTable.writeBits address values).run t.raw
      = t.rawResult (t.writeBits address values) := by
  rw [RawBitTable.writeBits, writeBits]
  by_cases hrange : address.toNat + values.length ≤ len
  · rw [checkRange_inside hrange]
    refine (run_attempt_bind (rangeCheck_inside hrange) _ t.raw).trans ?_
    refine run_forM_range raw (fun t k => ?_) t
    have hk := k.isLt
    have hchunk : ((values.drop (k * 8)).take 8).length = min 8 (values.length - k * 8) := by
      rw [List.length_take, List.length_drop]
    exact raw_writeByteBits t _ (by omega) (by omega) (by omega)
  · rw [checkRange_outside hrange]
    show (attempt (rangeCheck address values.length len) >>= _).run t.raw = _
    rw [rangeCheck_outside hrange]
    rfl

theorem raw_writePacked (address : UInt16) (quantity : Nat) (packedValues : List UInt8)
    (hlen : packedValues.length = (quantity + 7) / 8) :
    (RawBitTable.writePacked address quantity packedValues).run t.raw
      = t.rawResult (t.writePacked address quantity packedValues hlen) := by
  rw [RawBitTable.writePacked, writePacked]
  by_cases hrange : address.toNat + quantity ≤ len
  · rw [checkRange_inside hrange]
    refine (run_attempt_bind (rangeCheck_inside hrange) _ t.raw).trans ?_
    refine run_forM_range raw (fun t k => ?_) t
    have hk := k.isLt
    have hbyte : (index packedValues k : RawBitTable.Read UInt8) = .ok packedValues[k] := by
      rw [index, List.getElem?_eq_getElem hk]
      rfl
    rw [RawBitTable.writePackedByte, run_attempt_bind hbyte, run_attempt_bind (assert_pos (by omega))]
    exact raw_writeByteBits t _ (by omega) (by omega) (by omega)
  · rw [checkRange_outside hrange]
    show (attempt (rangeCheck address quantity len) >>= _).run t.raw = _
    rw [rangeCheck_outside hrange]
    rfl

end Run

/-! ## The array -/

/-- What an operation comes to: the call on the bytes is seen to do what it does to the
array, and touches no bit but those it addresses inside the table. -/
structure Simulated (op : BitOp) (t t' : BitTable len) : Prop where
  seen : op.onBytes t.raw = some ((op.onBools t.toBools).1, t'.raw)
  bools : t'.toBools = (op.onBools t.toBools).2
  frame : ∀ j, ¬(op.Addresses j ∧ j < len) → t'.bit j = t.bit j

variable (t : BitTable len)

variable {op : BitOp}

/-- An operation that leaves the table as it is. -/
theorem simulated_self {reply : Except ExceptionCode BitReply}
    (hbytes : op.onBytes t.raw = some (reply, t.raw))
    (hbools : op.onBools t.toBools = (reply, t.toBools)) : Simulated op t t where
  seen := by rw [hbytes, hbools]
  bools := by rw [hbools]
  frame := fun _ _ => rfl

theorem onBytes_readBits (a q : UInt16) (out : List Bool) :
    BitOp.onBytes (.readBits a q out) t.raw
      = some ((t.readBits a q out).map fun r => .bits r.1 r.2, t.raw) := by
  show BitOp.observe ((attempt (t.raw.readBits a q out) >>= fun r =>
    pure (BitReply.bits r.1 r.2)).run t.raw) = _
  rw [raw_readBits]
  cases t.readBits a q out <;> rfl

theorem onBytes_readPacked (a q : UInt16) (out : List UInt8) :
    BitOp.onBytes (.readPacked a q out) t.raw
      = some ((t.readPacked a q out).map fun r => .bytes r.1 r.2.val, t.raw) := by
  show BitOp.observe ((attempt (t.raw.readPacked a q out) >>= fun r =>
    pure (BitReply.bytes r.1 r.2)).run t.raw) = _
  rw [raw_readPacked]
  cases t.readPacked a q out <;> rfl

theorem simulated_readBits (a q : UInt16) (out : List Bool) :
    Simulated (.readBits a q out) t t := by
  refine simulated_self t (onBytes_readBits t a q out) ?_
  rw [BitOp.onBools, length_toBools]
  by_cases hrange : a.toNat + q.toNat ≤ len
  · rw [if_neg (Nat.not_lt.mpr hrange)]
    by_cases hout : out.length < q.toNat
    · rw [if_pos hout, readBits_noRoom t hrange hout]
      rfl
    · rw [if_neg hout, readBits_inRange t hrange (Nat.not_lt.mp hout), bitsAt_eq t hrange, writeAt,
        ← bitsAt_eq t hrange, length_bitsAt, List.take_zero, Nat.zero_add]
      rfl
  · rw [if_pos (Nat.not_le.mp hrange), readBits_outOfRange t hrange]
    rfl

theorem simulated_readPacked (a q : UInt16) (out : List UInt8) :
    Simulated (.readPacked a q out) t t := by
  refine simulated_self t (onBytes_readPacked t a q out) ?_
  rw [BitOp.onBools, length_toBools]
  by_cases hrange : a.toNat + q.toNat ≤ len
  · have hlen : (packBits ((t.toBools.drop a.toNat).take q.toNat)).length = (q.toNat + 7) / 8 := by
      rw [← bitsAt_eq t hrange, length_packBits, length_bitsAt]
    rw [if_neg (Nat.not_lt.mpr hrange), hlen]
    by_cases hout : out.length < (q.toNat + 7) / 8
    · rw [if_pos hout, readPacked_noRoom t hrange hout]
      rfl
    · obtain ⟨packed, hread, hval⟩ := readPacked_fills t hrange (Nat.not_lt.mp hout)
      rw [if_neg hout, hread, ← hlen]
      show (_ : Except ExceptionCode BitReply × List Bool) = (.ok (.bytes _ packed.val), _)
      rw [hval, bitsAt_eq t hrange, writeAt, List.take_zero, Nat.zero_add]
      rfl
  · rw [if_pos (Nat.not_le.mp hrange), readPacked_outOfRange t (Nat.not_le.mp hrange)]
    rfl

theorem simulated_set {i : Nat} (h : i < len) (v : Bool) :
    Simulated (.set i v) t (t.set i h v) where
  seen := by
    rw [BitOp.onBytes, BitOp.call, EStateM.run_bind, raw_set t h]
    rfl
  bools := by
    rw [toBools_set, writeAt_singleton (by rwa [length_toBools])]
    rfl
  frame := by
    intro j hj
    rw [bit_set]
    exact if_neg fun hji => hj ⟨hji, hji ▸ h⟩

/-- A write of `values`, on the bytes the method `m`. -/
theorem simulated_write {m : RawBitTable.Change Unit} {start : Nat} {values : List Bool}
    {t' : BitTable len} (hcall : op.call = do m; return .done) (hm : m.run t.raw = .ok () t'.raw)
    (hbools : op.onBools t.toBools = (.ok .done, writeAt start values t.toBools))
    (haddresses : ∀ j, op.Addresses j ↔ start ≤ j ∧ j < start + values.length)
    (hwritten : Overwritten start values t t') (hin : start + values.length ≤ len) :
    Simulated op t t' where
  seen := by
    rw [BitOp.onBytes, hcall, EStateM.run_bind, hm, hbools]
    rfl
  bools := by rw [hbools, hwritten.toBools_eq hin]
  frame := by
    intro j hj
    rw [hwritten j]
    refine if_neg fun haddr => hj ⟨(haddresses j).mpr haddr, ?_⟩
    omega

/-- A write that is refused. -/
theorem simulated_refused {m : RawBitTable.Change Unit} {e : ExceptionCode}
    (hcall : op.call = do m; return .done) (hm : m.run t.raw = .error (.error e) t.raw)
    (hbools : op.onBools t.toBools = (.error e, t.toBools)) : Simulated op t t := by
  refine simulated_self t ?_ hbools
  rw [BitOp.onBytes, hcall, EStateM.run_bind, hm]
  rfl

theorem simulated_writeBits (a : UInt16) (values : List Bool) :
    ∃ t' : BitTable len, Simulated (.writeBits a values) t t' := by
  have hraw := raw_writeBits t a values
  by_cases hrange : a.toNat + values.length ≤ len
  · obtain ⟨t', hwrite, hwritten⟩ := writeBits_inRange t hrange
    rw [hwrite] at hraw
    refine ⟨t', simulated_write t rfl hraw ?_ (fun _ => Iff.rfl) hwritten hrange⟩
    rw [BitOp.onBools, length_toBools, if_neg (Nat.not_lt.mpr hrange)]
  · rw [writeBits_outOfRange t hrange] at hraw
    refine ⟨t, simulated_refused t rfl hraw ?_⟩
    rw [BitOp.onBools, length_toBools, if_pos (Nat.not_le.mp hrange)]

theorem simulated_writePacked (a : UInt16) {quantity : Nat} {packed : List UInt8}
    (hlen : packed.length = (quantity + 7) / 8) :
    ∃ t' : BitTable len, Simulated (.writePacked a quantity packed) t t' := by
  have hraw := raw_writePacked t a quantity packed hlen
  have hbits := length_unpackBits quantity packed
  by_cases hrange : a.toNat + quantity ≤ len
  · obtain ⟨t', hwrite, hwritten⟩ := writePacked_inRange t hlen hrange
    rw [hwrite] at hraw
    refine ⟨t', simulated_write t rfl hraw ?_ (fun _ => by rw [hbits]; exact Iff.rfl)
      hwritten.overwritten (by rwa [hbits])⟩
    rw [BitOp.onBools, length_toBools, if_neg (Nat.not_lt.mpr hrange)]
  · rw [writePacked_outOfRange t hlen (Nat.not_le.mp hrange)] at hraw
    refine ⟨t, simulated_refused t rfl hraw ?_⟩
    rw [BitOp.onBools, length_toBools, if_pos (Nat.not_le.mp hrange)]

/-- Every operation the callers may make. -/
theorem exists_simulated (h : op.Allowed len) : ∃ t' : BitTable len, Simulated op t t' := by
  cases op with
  | set i v => exact ⟨_, simulated_set t h v⟩
  | readBits a q out => exact ⟨t, simulated_readBits t a q out⟩
  | writeBits a values => exact simulated_writeBits t a values
  | readPacked a q out => exact ⟨t, simulated_readPacked t a q out⟩
  | writePacked a quantity packed => exact simulated_writePacked t a h

/-! ## Runs -/

/-- Nothing is set behind the last bit. -/
def Clean (t : BitTable len) : Prop := ∀ j, len ≤ j → t.bit j = false

theorem clean_new (len : Nat) : Clean (BitTable.new len) := by
  intro j _
  rw [BitTable.new, bit, Vector.toList_replicate, bitAt_replicate_zero]

theorem toBools_new (len : Nat) : (BitTable.new len).toBools = List.replicate len false := by
  apply List.ext_getElem?
  intro i
  rw [toBools, List.getElem?_ofFn, List.getElem?_replicate]
  by_cases hi : i < len
  · rw [dif_pos hi, if_pos hi, BitTable.new, bit, Vector.toList_replicate, bitAt_replicate_zero]
  · rw [dif_neg hi, if_neg hi]

theorem Simulated.clean {t t' : BitTable len} (h : Simulated op t t') (hclean : Clean t) :
    Clean t' := by
  intro j hj
  rw [h.frame j fun haddr => absurd haddr.2 (Nat.not_lt.mpr hj)]
  exact hclean j hj

theorem exists_execute {ops : List BitOp} (h : ∀ op ∈ ops, op.Allowed len) {t : BitTable len}
    (hclean : Clean t) :
    ∃ t' : BitTable len, Clean t' ∧ t'.toBools = (runAll BitOp.onBools ops t.toBools).2 ∧
      BitOp.execute ops t.raw = some ((runAll BitOp.onBools ops t.toBools).1, t'.raw) := by
  induction ops generalizing t with
  | nil => exact ⟨t, hclean, rfl, rfl⟩
  | cons op ops ih =>
    obtain ⟨hop, hops⟩ := List.forall_mem_cons.mp h
    obtain ⟨t₁, hstep⟩ := exists_simulated t hop
    obtain ⟨t₂, hclean₂, hbools, hrun⟩ := ih hops (hstep.clean hclean)
    rw [hstep.bools] at hbools hrun
    refine ⟨t₂, hclean₂, hbools, ?_⟩
    rw [BitOp.execute, hstep.seen]
    show (BitOp.execute ops t₁.raw >>= _) = _
    rw [hrun]
    rfl

end BitTable

/-- The bytes hold the array: as many as it needs, each bit in its place and zeros behind
the last. -/
structure RawBitTable.Holds (bits : List Bool) (t : RawBitTable) : Prop where
  len : t.len = bits.length
  bytes : t.bytes.length = (bits.length + 7) / 8
  carries : CarriesBits bits t.bytes

theorem BitTable.Clean.holds {len : Nat} {t : BitTable len} (h : t.Clean) :
    t.raw.Holds t.toBools where
  len := t.length_toBools.symm
  bytes := by rw [raw, Vector.length_toList, length_toBools]
  carries := by
    intro j
    by_cases hj : j < len
    · rw [getElem?_toBools t hj]
      rfl
    · rw [List.getElem?_eq_none (by rw [length_toBools]; omega)]
      exact h j (Nat.not_lt.mp hj)

/-- What a table of `len` bits that has been through `ops` is. -/
structure RefinesBools (len : Nat) (ops : List BitOp) : Prop where
  /-- No operation panicked, each was answered as on the array, and the bytes hold the array
  as it is now. -/
  run : ∃ t, BitOp.execute ops (RawBitTable.new len)
      = some ((runAll BitOp.onBools ops (List.replicate len false)).1, t) ∧
    t.Holds (runAll BitOp.onBools ops (List.replicate len false)).2
  /-- Whatever is done next changes no bit that it does not address. -/
  frame : ∀ {op : BitOp} {replies t reply t'}, op.Allowed len →
    BitOp.execute ops (RawBitTable.new len) = some (replies, t) →
    op.onBytes t = some (reply, t') →
    ∀ j, ¬op.Addresses j → bitAt t'.bytes j = bitAt t.bytes j

theorem BitTable.refines_bools (len : Nat) (ops : List BitOp) (h : ∀ op ∈ ops, op.Allowed len) :
    RefinesBools len ops := by
  obtain ⟨t, hclean, hbools, hrun⟩ := exists_execute h (clean_new len)
  rw [toBools_new, ← raw_new] at hrun
  rw [toBools_new] at hbools
  refine ⟨⟨t.raw, hrun, hbools ▸ hclean.holds⟩, ?_⟩
  intro op replies u reply u' hop hu hop' j hj
  rw [hrun] at hu
  cases hu
  obtain ⟨t', hstep⟩ := exists_simulated t hop
  rw [hstep.seen] at hop'
  cases hop'
  exact hstep.frame j fun haddr => hj haddr.1

/-- Three bits and their neighbours: reads and writes in and out of range, across a byte
boundary, with slices too large and too small. -/
def bitOpsOfTwelve : List BitOp :=
  [.writeBits 6 [true, false, true, true], .readPacked 5 7 [0xAA, 0xAA], .set 11 true,
    .writePacked 3 9 [0xFF, 0x01], .writePacked 4 9 [0xFF, 0x01], .readBits 0 4 [true],
    .readBits 2 3 [true, true, true, true], .readPacked 12 1 []]

theorem BitTable.refines_bools_twelve :
    RefinesBools 12 bitOpsOfTwelve ∧
      (runAll BitOp.onBools bitOpsOfTwelve (List.replicate 12 false)).1 =
        [.ok .done, .ok (.bytes 7 [0x1A, 0xAA]), .ok .done, .ok .done, .error .illegalDataAddress,
          .error .illegalDataValue, .ok (.bits 3 [false, true, true, true]),
          .error .illegalDataAddress] :=
  ⟨BitTable.refines_bools 12 bitOpsOfTwelve (by simp [bitOpsOfTwelve, BitOp.Allowed]),
    by rfl⟩

/-- `set` checks no range: behind the last bit it sets a padding bit, and behind the last
byte it panics. -/
theorem BitTable.set_outOfRange :
    (BitOp.execute [.set 3 true] (RawBitTable.new 3)).map Prod.snd
        = some { len := 3, bytes := [0x08] } ∧
      BitOp.execute [.set 8 true] (RawBitTable.new 3) = none := by
  decide +kernel

end RustyModbus.Server
