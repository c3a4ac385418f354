import RustyModbus.Lib.Bits
import RustyModbus.Server.Store

/-!
# Packed bit tables

Coils and discrete inputs are kept eight to a byte. The wire format packs bits the same
way but from any start address, so reads and writes move bits across byte boundaries:
`readByteBits` and `writeByteBits` take up to eight bits out of, or put them into, at most
two neighbouring bytes.

An access carries the proof that its bits are inside the table; every byte index is then
in bounds by construction. The specification is bitwise: what bit `j` is afterwards, for
every `j`.
-/

namespace RustyModbus.Server

open Wire

/-- A table of `len` bits. -/
structure BitTable (len : Nat) where
  bytes : Vector UInt8 ((len + 7) / 8)
deriving DecidableEq, Repr

/-- The check of every table access. A range that passed comes with the proof. -/
def checkRange (address : UInt16) (quantity max : Nat) :
    Except ExceptionCode (PLift (address.toNat + quantity ≤ max)) :=
  if h : address.toNat + quantity > max then .error .illegalDataAddress
  else .ok ⟨Nat.not_lt.mp h⟩

theorem checkRange_inside {address : UInt16} {n max : Nat} (h : address.toNat + n ≤ max) :
    checkRange address n max = .ok ⟨h⟩ :=
  dif_neg (Nat.not_lt.mpr h)

theorem checkRange_outside {address : UInt16} {n max : Nat} (h : ¬address.toNat + n ≤ max) :
    checkRange address n max = .error .illegalDataAddress :=
  dif_pos (Nat.not_le.mp h)

def lowBitMask (bitCount : Nat) : UInt8 :=
  if bitCount ≥ 8 then 0xFF else (1 <<< UInt8.ofNat bitCount) - 1

theorem bit_lowBitMask (n i : Nat) : Wire.bit (lowBitMask n) i = decide (i < n ∧ i < 8) := by
  by_cases hi : i < 8
  · by_cases hn : n < 8
    · have hall : ∀ n i : Fin 8, Wire.bit (lowBitMask n) i = decide (i.val < n.val) := by decide
      simpa [hi] using hall ⟨n, hn⟩ ⟨i, hi⟩
    · have hall : ∀ i : Fin 8, Wire.bit 0xFF i = true := by decide
      rw [lowBitMask, if_pos (by omega), hall ⟨i, hi⟩, eq_comm, decide_eq_true_eq]
      omega
  · rw [bit_of_ge (by omega), eq_comm, decide_eq_false_iff_not]
    omega

/-- Up to eight bits as one byte, the first of them lowest: the inner loop of `write_bits` and
of `pack_coils`. -/
def packByte (chunk : List Bool) : UInt8 :=
  Fin.foldl chunk.length (fun byte i => byte ||| (chunk.get i).toUInt8 <<< UInt8.ofNat i) 0

theorem bit_packByte {chunk : List Bool} (h : chunk.length ≤ 8) (j : Nat) :
    Wire.bit (packByte chunk) j = chunk[j]?.getD false := by
  have hbool : ∀ (v : Bool) (k : Nat), Wire.bit v.toUInt8 k = (decide (k = 0) && v) := by
    intro v k
    cases v with
    | true => exact (bit_one k).trans (Bool.and_true _).symm
    | false => exact (bit_zero k).trans (Bool.and_false _).symm
  -- after `i` turns the first `i` bits are in place
  have hloop := foldl_invariant
    (fun i byte => Wire.bit byte j = (decide (j < i) && chunk[j]?.getD false))
    (n := chunk.length) (f := fun byte i => byte ||| chunk[i].toUInt8 <<< UInt8.ofNat i)
    (a := (0 : UInt8)) (by simp) (by
      intro i byte hbyte
      have hi := i.isLt
      rw [bit_or, hbyte, bit_shiftLeft _ (by omega), hbool]
      by_cases hj : j = i.val
      · have hget : chunk[j]? = some chunk[i] := hj ▸ List.getElem?_eq_getElem hi
        rw [hget, decide_eq_false (by omega), decide_eq_true (p := i.val ≤ j ∧ j < 8) (by omega),
          decide_eq_true (by omega), decide_eq_true (by omega)]
        rfl
      · have hiff : j < i.val + 1 ↔ j < i.val := by omega
        rw [decide_eq_decide.mpr hiff]
        by_cases hle : i.val ≤ j
        · rw [decide_eq_false (p := j - i.val = 0) (by omega), Bool.false_and, Bool.and_false,
            Bool.or_false]
        · rw [decide_eq_false (p := i.val ≤ j ∧ j < 8) (by omega), Bool.false_and, Bool.or_false])
  refine hloop.trans ?_
  by_cases hj : j < chunk.length
  · rw [decide_eq_true hj, Bool.true_and]
  · rw [List.getElem?_eq_none (by omega), Option.getD_none, Bool.and_false]

/-- The first `bitCount` bits of a byte, put into `out` from `outStart` on: the inner loop of
`read_bits` and of `unpack_packed_coils`. -/
def unpackByte (byte : UInt8) (outStart bitCount : Nat) (out : List Bool) : List Bool :=
  Fin.foldl bitCount
    (fun out bit => out.set (outStart + bit) ((byte >>> UInt8.ofNat bit) &&& 1 == 1)) out

theorem length_unpackByte (byte : UInt8) (outStart bitCount : Nat) (out : List Bool) :
    (unpackByte byte outStart bitCount out).length = out.length :=
  foldl_invariant (fun _ (l : List Bool) => l.length = out.length) rfl
    fun _ _ hl => List.length_set.trans hl

/-- The front of `out` overwritten with `n` bits. -/
def fillBits (bits : Nat → Bool) (n : Nat) (out : List Bool) : List Bool :=
  writeAt 0 (List.ofFn fun i : Fin n => bits i) out

theorem fillBits_succ (bits : Nat → Bool) {n : Nat} {out : List Bool} (h : n < out.length) :
    (fillBits bits n out).set n (bits n) = fillBits bits (n + 1) out := by
  have hrest : out.drop n = out[n] :: out.drop (n + 1) := List.drop_eq_getElem_cons h
  simp only [fillBits, List.ofFn_succ_last, writeAt, List.take_zero, List.nil_append, Nat.zero_add,
    List.length_ofFn, List.append_assoc, List.length_append, List.length_singleton]
  rw [List.set_append_right _ _ (Nat.le_of_eq List.length_ofFn),
    List.length_ofFn, Nat.sub_self, hrest]
  rfl

theorem unpackByte_fillBits {bits : Nat → Bool} {byte : UInt8} {n count : Nat} {out : List Bool}
    (hcount : count ≤ 8) (hroom : n + count ≤ out.length)
    (hbits : ∀ j < count, Wire.bit byte j = bits (n + j)) :
    unpackByte byte n count (fillBits bits n out) = fillBits bits (n + count) out := by
  refine foldl_invariant (fun j l => l = fillBits bits (n + j) out) rfl ?_
  intro j l hl
  have hj := j.isLt
  rw [hl, shiftRight_and_one_beq _ (by omega), hbits j hj, fillBits_succ bits (by omega)]
  rfl

/-- Bytes unpacked one after the other give their bits in order. -/
theorem foldl_unpackByte (bits : Nat → Bool) {quantity : Nat} {out : List Bool}
    (hout : quantity ≤ out.length) (byte : Fin ((quantity + 7) / 8) → UInt8)
    (hbits : ∀ k, ∀ j < min (quantity - k.val * 8) 8, Wire.bit (byte k) j = bits (k.val * 8 + j)) :
    Fin.foldl _ (fun l k => unpackByte (byte k) (k * 8) (min (quantity - k * 8) 8) l) out
      = fillBits bits quantity out := by
  -- after `k` bytes the first `8 * k` bits are there
  have hloop := foldl_invariant
    (fun k l => l = fillBits bits (min quantity (k * 8)) out) (a := out)
    (f := fun l (k : Fin ((quantity + 7) / 8)) =>
      unpackByte (byte k) (k * 8) (min (quantity - k * 8) 8) l)
    (by simp [fillBits, writeAt]) (by
      intro k l hl
      have hk := k.isLt
      rw [hl, show min quantity (k.val * 8) = k.val * 8 by omega,
        unpackByte_fillBits (by omega) (by omega) (hbits k)]
      exact congrArg (fillBits bits · out) (by omega))
  rwa [Nat.min_eq_left (by omega)] at hloop

namespace BitTable

variable {len : Nat}

def new (len : Nat) : BitTable len := ⟨Vector.replicate _ 0⟩

def set (t : BitTable len) (index : Nat) (h : index < len) (value : Bool) : BitTable len :=
  let mask : UInt8 := 1 <<< UInt8.ofNat (index % 8)
  let byte := t.bytes[index / 8]
  ⟨t.bytes.set (index / 8) (if value then byte ||| mask else byte &&& ~~~mask)⟩

def readByteBits (t : BitTable len) (start bitCount : Nat) (h : start < len) : UInt8 :=
  let byteIndex := start / 8
  let shift := start % 8
  let byte := t.bytes[byteIndex] >>> UInt8.ofNat shift
  let byte :=
    if h : shift ≠ 0 ∧ byteIndex + 1 < (len + 7) / 8 then
      byte ||| t.bytes[byteIndex + 1] <<< UInt8.ofNat (8 - shift)
    else byte
  byte &&& lowBitMask bitCount

def writeByteBits (t : BitTable len) (start : Nat) (value : UInt8) (bitCount : Nat)
    (hpos : 0 < bitCount) (h : start + bitCount ≤ len) : BitTable len :=
  let byteIndex := start / 8
  let shift := start % 8
  let mask := lowBitMask bitCount
  let value := value &&& mask
  if hfit : shift + bitCount ≤ 8 then
    let shiftedMask := mask <<< UInt8.ofNat shift
    ⟨t.bytes.set byteIndex
      ((t.bytes[byteIndex] &&& ~~~shiftedMask) ||| value <<< UInt8.ofNat shift)⟩
  else
    let lowBits := 8 - shift
    let lowMask := lowBitMask lowBits <<< UInt8.ofNat shift
    let bytes := t.bytes.set byteIndex
      ((t.bytes[byteIndex] &&& ~~~lowMask) ||| (value <<< UInt8.ofNat shift &&& lowMask))
    let highBits := bitCount - lowBits
    let highMask := lowBitMask highBits
    ⟨bytes.set (byteIndex + 1)
      ((bytes[byteIndex + 1] &&& ~~~highMask) ||| (value >>> UInt8.ofNat lowBits &&& highMask))⟩

/-- One turn of the loop of `read_bits`: the bits of one byte go to their places in `out`. -/
def readBitsByte (t : BitTable len) (start quantity : Nat) (hrange : start + quantity ≤ len)
    (out : List Bool) (byteIndex : Fin ((quantity + 7) / 8)) : List Bool :=
  let outStart := byteIndex.val * 8
  let bitCount := min (quantity - outStart) 8
  unpackByte (t.readByteBits (start + outStart) bitCount (by omega)) outStart bitCount out

/-- `read_bits`: `quantity` bits from `address` on, one by one into the front of `out`. -/
def readBits (t : BitTable len) (address quantity : UInt16) (out : List Bool) :
    Except ExceptionCode (Nat × List Bool) := do
  let quantity := quantity.toNat
  let ⟨hrange⟩ ← checkRange address quantity len
  if out.length < quantity then .error .illegalDataValue
  else return (quantity, Fin.foldl _ (t.readBitsByte address.toNat quantity hrange) out)

/-- One turn of the loop of `write_bits`, for the chunk of `values` at `byteIndex`. -/
def writeBitsByte (start : Nat) (values : List Bool) (hrange : start + values.length ≤ len)
    (t : BitTable len) (byteIndex : Fin ((values.length + 7) / 8)) : BitTable len :=
  let chunk := (values.drop (byteIndex * 8)).take 8
  have hchunk : chunk.length = min 8 (values.length - byteIndex * 8) := by
    rw [List.length_take, List.length_drop]
  t.writeByteBits (start + byteIndex * 8) (packByte chunk) chunk.length (by omega) (by omega)

def writeBits (t : BitTable len) (address : UInt16) (values : List Bool) :
    Except ExceptionCode (BitTable len) := do
  let ⟨hrange⟩ ← checkRange address values.length len
  return Fin.foldl _ (writeBitsByte address.toNat values hrange) t

/-- `read_packed`: `quantity` bits from `address` on, packed into the front of `out`. -/
def readPacked (t : BitTable len) (address quantity : UInt16) (out : List UInt8) :
    Except ExceptionCode (Nat × Slice out) := do
  let start := address.toNat
  let quantity := quantity.toNat
  let ⟨hrange⟩ ← checkRange address quantity len
  let byteCount := (quantity + 7) / 8
  if h : out.length < byteCount then .error .illegalDataValue
  else
    let packed := List.ofFn fun i : Fin byteCount =>
      t.readByteBits (start + i * 8) (min (quantity - i * 8) 8) (by omega)
    return (quantity, ⟨writeAt 0 packed out, writeAt_length (by
      rw [List.length_ofFn]
      omega)⟩)

/-- One turn of the loop of `write_packed`. -/
def writePackedByte (start quantity : Nat) (packedValues : List UInt8)
    (hlen : packedValues.length = (quantity + 7) / 8) (hrange : start + quantity ≤ len)
    (t : BitTable len) (byteIndex : Fin packedValues.length) : BitTable len :=
  let offset := byteIndex.val * 8
  let bitCount := min (quantity - offset) 8
  t.writeByteBits (start + offset) packedValues[byteIndex] bitCount (by omega) (by omega)

/-- `write_packed`. The number of bytes is the caller's promise; the loop of the source
subtracts without a check and would underflow on more. -/
def writePacked (t : BitTable len) (address : UInt16) (quantity : Nat) (packedValues : List UInt8)
    (hlen : packedValues.length = (quantity + 7) / 8) : Except ExceptionCode (BitTable len) := do
  let ⟨hrange⟩ ← checkRange address quantity len
  return Fin.foldl packedValues.length
    (writePackedByte address.toNat quantity packedValues hlen hrange) t

/-! ## Bits of a table -/

/-- Bit `i` of the table. -/
def bit (t : BitTable len) (i : Nat) : Bool := bitAt t.bytes.toList i

/-- The table as the array of booleans it stands for. -/
def toBools (t : BitTable len) : List Bool := List.ofFn fun i : Fin len => t.bit i

/-- Byte `k` of the table; zero behind the last. -/
def byte (t : BitTable len) (k : Nat) : UInt8 := t.bytes.toList.getD k 0

variable (t : BitTable len)

theorem getElem_bytes {k : Nat} (h : k < (len + 7) / 8) : t.bytes[k] = t.byte k := by
  rw [byte, List.getD_eq_getElem?_getD, Vector.getElem?_toList, Vector.getElem?_eq_getElem h,
    Option.getD_some]

theorem byte_of_le {k : Nat} (h : (len + 7) / 8 ≤ k) : t.byte k = 0 := by
  rw [byte, List.getD_eq_getElem?_getD, Vector.getElem?_toList, Vector.getElem?_eq_none h]
  rfl

theorem bit_eq (i : Nat) : t.bit i = Wire.bit (t.byte (i / 8)) (i % 8) := rfl

theorem byte_set {v : Vector UInt8 ((len + 7) / 8)} {k : Nat} (h : k < (len + 7) / 8) (b : UInt8)
    (j : Nat) :
    (⟨v.set k b⟩ : BitTable len).byte j = if j = k then b else (⟨v⟩ : BitTable len).byte j := by
  simp only [byte, List.getD_eq_getElem?_getD, Vector.getElem?_toList, Vector.getElem?_set]
  by_cases hj : j = k
  · simp [hj]
  · simp [hj, Ne.symm hj]

/-- Bits from a start that is not a byte boundary lie in two neighbouring bytes. -/
theorem bit_add {start j : Nat} (hj : j < 8) :
    t.bit (start + j) =
      if start % 8 + j < 8 then Wire.bit (t.byte (start / 8)) (j + start % 8)
      else Wire.bit (t.byte (start / 8 + 1)) (j - (8 - start % 8)) := by
  rw [bit_eq]
  split
  next hlt => rw [show (start + j) / 8 = start / 8 by omega,
    show (start + j) % 8 = j + start % 8 by omega]
  next hge => rw [show (start + j) / 8 = start / 8 + 1 by omega,
    show (start + j) % 8 = j - (8 - start % 8) by omega]

theorem bit_readByteBits {start n j : Nat} (hs : start < len) (hj : j < 8) :
    Wire.bit (t.readByteBits start n hs) j = (decide (j < n) && t.bit (start + j)) := by
  simp only [readByteBits, bit_and, bit_lowBitMask, hj, and_true, getElem_bytes]
  rw [Bool.and_comm, bit_add t hj]
  congr 1
  have hlow : Wire.bit (t.byte (start / 8) >>> UInt8.ofNat (start % 8)) j
      = Wire.bit (t.byte (start / 8)) (j + start % 8) := bit_shiftRight _ (by omega) j
  by_cases h0 : start % 8 = 0
  · rw [dif_neg (by simp [h0]), if_pos (by omega), hlow]
  · have hhigh : Wire.bit (t.byte (start / 8 + 1) <<< UInt8.ofNat (8 - start % 8)) j
        = (decide (8 - start % 8 ≤ j ∧ j < 8) &&
            Wire.bit (t.byte (start / 8 + 1)) (j - (8 - start % 8))) :=
      bit_shiftLeft _ (by omega) j
    split
    next =>
      rw [bit_or, hlow, hhigh]
      split
      next h => rw [decide_eq_false (by omega), Bool.false_and, Bool.or_false]
      next h => rw [bit_of_ge (by omega), decide_eq_true (by omega), Bool.true_and, Bool.false_or]
    next hlast =>
      -- the table ends here: the bits beyond its last byte read as zero
      rw [hlow]
      split
      next => rfl
      next => rw [bit_of_ge (by omega), byte_of_le t (by omega), bit_zero]

theorem bit_set {i : Nat} (h : i < len) (v : Bool) (j : Nat) :
    (t.set i h v).bit j = if j = i then v else t.bit j := by
  have hmask : Wire.bit (1 <<< UInt8.ofNat (i % 8)) (j % 8) = decide (j % 8 = i % 8) := by
    rw [bit_shiftLeft _ (by omega), bit_one, ← Bool.decide_and]
    congr 1
    simp only [eq_iff_iff]
    omega
  rw [set, bit_eq, bit_eq, byte_set (by omega), getElem_bytes]
  by_cases hji : j = i
  · subst hji
    cases v <;> simp [hmask]
  · by_cases hbyte : j / 8 = i / 8
    · have hmod : j % 8 ≠ i % 8 := by omega
      cases v <;> simp [hji, hbyte, hmask, hmod, Nat.mod_lt]
    · rw [if_neg hbyte, if_neg hji]

/-- Replacing the bits under a mask. -/
theorem bit_replace {old mask new : UInt8} {i : Nat} (hi : i < 8)
    (h : Wire.bit mask i = false → Wire.bit new i = false) :
    Wire.bit ((old &&& ~~~mask) ||| new) i =
      if Wire.bit mask i then Wire.bit new i else Wire.bit old i := by
  simp only [bit_or, bit_and, bit_not, hi, decide_true, Bool.true_and]
  cases hm : Wire.bit mask i <;> simp_all

theorem bit_mask_shiftLeft {n k i : Nat} (hk : k < 8) (hi : i < 8) :
    Wire.bit (lowBitMask n <<< UInt8.ofNat k) i = decide (k ≤ i ∧ i < k + n) := by
  rw [bit_shiftLeft _ hk, bit_lowBitMask, ← Bool.decide_and]
  congr 1
  simp only [eq_iff_iff]
  omega

theorem bit_low_shiftLeft {value : UInt8} {n k i : Nat} (hk : k < 8) (hi : i < 8) :
    Wire.bit ((value &&& lowBitMask n) <<< UInt8.ofNat k) i =
      (decide (k ≤ i ∧ i < k + n) && Wire.bit value (i - k)) := by
  rw [bit_shiftLeft _ hk, bit_and, bit_lowBitMask, Bool.and_comm (Wire.bit value _),
    ← Bool.and_assoc, ← Bool.decide_and]
  congr 2
  simp only [eq_iff_iff]
  omega

theorem bit_low_shiftRight {value : UInt8} {n k i : Nat} (hk : k < 8) :
    Wire.bit ((value &&& lowBitMask n) >>> UInt8.ofNat k) i =
      (decide (i + k < n ∧ i + k < 8) && Wire.bit value (i + k)) := by
  rw [bit_shiftRight _ hk, bit_and, bit_lowBitMask, Bool.and_comm]

/-- A write into one byte. -/
theorem bit_writeByteBits_within {start n : Nat} (value : UInt8)
    (hpos : 0 < n) (h : start + n ≤ len) (hfit : start % 8 + n ≤ 8) (j : Nat) :
    (t.writeByteBits start value n hpos h).bit j =
      if start ≤ j ∧ j < start + n then Wire.bit value (j - start) else t.bit j := by
  have hj8 : j % 8 < 8 := Nat.mod_lt j (by decide)
  have hshift : start % 8 < 8 := Nat.mod_lt start (by decide)
  rw [writeByteBits, dif_pos hfit, bit_eq, bit_eq, byte_set (by omega), getElem_bytes]
  by_cases hb : j / 8 = start / 8
  · rw [if_pos hb, bit_replace hj8, bit_mask_shiftLeft hshift hj8, bit_low_shiftLeft hshift hj8,
      hb, show j % 8 - start % 8 = j - start by omega]
    · by_cases hin : start ≤ j ∧ j < start + n
      · rw [if_pos hin, decide_eq_true (by omega), if_pos rfl, Bool.true_and]
      · rw [if_neg hin, decide_eq_false (by omega), if_neg nofun]
    · rw [bit_mask_shiftLeft hshift hj8, bit_low_shiftLeft hshift hj8]
      intro hmask
      rw [hmask, Bool.false_and]
  · rw [if_neg hb, if_neg (by omega)]

/-- A write across a byte boundary. -/
theorem bit_writeByteBits_across {start n : Nat} (value : UInt8)
    (hpos : 0 < n) (hn : n ≤ 8) (h : start + n ≤ len) (hfit : ¬start % 8 + n ≤ 8) (j : Nat) :
    (t.writeByteBits start value n hpos h).bit j =
      if start ≤ j ∧ j < start + n then Wire.bit value (j - start) else t.bit j := by
  have hj8 : j % 8 < 8 := Nat.mod_lt j (by decide)
  have hshift : start % 8 < 8 := Nat.mod_lt start (by decide)
  have hnext : ∀ b, (t.bytes.set (start / 8) b)[start / 8 + 1] = t.byte (start / 8 + 1) := by
    intro b
    rw [Vector.getElem_set_ne _ _ (by omega), getElem_bytes]
  rw [writeByteBits, dif_neg hfit, bit_eq, bit_eq, byte_set (by omega), byte_set (by omega), hnext,
    getElem_bytes]
  by_cases hhigh : j / 8 = start / 8 + 1
  · rw [if_pos hhigh, bit_replace hj8, bit_and, bit_low_shiftRight (by omega), bit_lowBitMask,
      hhigh]
    · by_cases hin : start ≤ j ∧ j < start + n
      · rw [if_pos hin, decide_eq_true (by omega), decide_eq_true (by omega), if_pos rfl,
          Bool.true_and, Bool.and_true, show j % 8 + (8 - start % 8) = j - start by omega]
      · rw [if_neg hin, decide_eq_false (p := j % 8 < _ ∧ _) (by omega), if_neg nofun]
    · intro hmask
      rw [bit_and, hmask, Bool.and_false]
  · by_cases hlow : j / 8 = start / 8
    · rw [if_neg hhigh, if_pos hlow, bit_replace hj8, bit_and, bit_mask_shiftLeft hshift hj8,
        bit_low_shiftLeft hshift hj8, hlow, show j % 8 - start % 8 = j - start by omega]
      · by_cases hin : start ≤ j ∧ j < start + n
        · rw [if_pos hin, decide_eq_true (by omega), decide_eq_true (by omega), if_pos rfl,
            Bool.true_and, Bool.and_true]
        · rw [if_neg hin, decide_eq_false (p := _ ∧ j % 8 < _ + (8 - _)) (by omega), if_neg nofun]
      · intro hmask
        rw [bit_and, hmask, Bool.and_false]
    · rw [if_neg hhigh, if_neg hlow, if_neg (by omega)]

theorem bit_writeByteBits {start n : Nat} (value : UInt8) (hpos : 0 < n)
    (hn : n ≤ 8) (h : start + n ≤ len) (j : Nat) :
    (t.writeByteBits start value n hpos h).bit j =
      if start ≤ j ∧ j < start + n then Wire.bit value (j - start) else t.bit j := by
  by_cases hfit : start % 8 + n ≤ 8
  · exact t.bit_writeByteBits_within value hpos h hfit j
  · exact t.bit_writeByteBits_across value hpos hn h hfit j

/-! ## Reads -/

/-- The bits of a table from `start` on. -/
def bitsAt (t : BitTable len) (start n : Nat) : List Bool :=
  List.ofFn fun i : Fin n => t.bit (start + i)

@[simp] theorem length_bitsAt (start n : Nat) : (t.bitsAt start n).length = n :=
  List.length_ofFn

theorem getElem?_bitsAt (start n i : Nat) :
    (t.bitsAt start n)[i]?.getD false = (decide (i < n) && t.bit (start + i)) := by
  rw [bitsAt, List.getElem?_ofFn]
  by_cases h : i < n
  · rw [dif_pos h, decide_eq_true h]
    rfl
  · rw [dif_neg h, decide_eq_false h]
    rfl

variable {address quantity : UInt16}

theorem readBits_outOfRange {out : List Bool} (h : ¬address.toNat + quantity.toNat ≤ len) :
    t.readBits address quantity out = .error .illegalDataAddress := by
  rw [readBits, checkRange_outside h]
  rfl

theorem readBits_noRoom {out : List Bool}
    (h : address.toNat + quantity.toNat ≤ len) (hout : out.length < quantity.toNat) :
    t.readBits address quantity out = .error .illegalDataValue := by
  rw [readBits, checkRange_inside h]
  exact if_pos hout

theorem foldl_readBitsByte {start quantity : Nat}
    (hrange : start + quantity ≤ len) {out : List Bool} (hout : quantity ≤ out.length) :
    Fin.foldl _ (t.readBitsByte start quantity hrange) out
      = writeAt 0 (t.bitsAt start quantity) out := by
  refine foldl_unpackByte (fun i => t.bit (start + i)) hout _ ?_
  intro k j hj
  rw [bit_readByteBits _ _ (by omega), decide_eq_true hj, Bool.true_and, Nat.add_assoc]

/-- A read fills the front of the slice and leaves the rest of it. -/
theorem readBits_inRange {out : List Bool}
    (h : address.toNat + quantity.toNat ≤ len) (hout : quantity.toNat ≤ out.length) :
    t.readBits address quantity out
      = .ok (quantity.toNat, writeAt 0 (t.bitsAt address.toNat quantity.toNat) out) := by
  rw [readBits, checkRange_inside h, ← foldl_readBitsByte t h hout]
  exact if_neg (Nat.not_lt.mpr hout)

theorem readPacked_outOfRange {out : List UInt8} (h : len < address.toNat + quantity.toNat) :
    t.readPacked address quantity out = .error .illegalDataAddress := by
  rw [readPacked, checkRange, dif_pos h]
  rfl

theorem readPacked_noRoom {out : List UInt8}
    (h : address.toNat + quantity.toNat ≤ len) (hout : out.length < (quantity.toNat + 7) / 8) :
    t.readPacked address quantity out = .error .illegalDataValue := by
  rw [readPacked, checkRange_inside h]
  exact dif_pos hout

/-- A packed read fills the front of the slice with the bits asked for, the last byte padded
with zeros, and leaves the rest of it. -/
theorem readPacked_fills {out : List UInt8}
    (h : address.toNat + quantity.toNat ≤ len) (hout : (quantity.toNat + 7) / 8 ≤ out.length) :
    ∃ packed : Slice out, t.readPacked address quantity out = .ok (quantity.toNat, packed) ∧
      packed.val = writeAt 0 (packBits (t.bitsAt address.toNat quantity.toNat)) out := by
  rw [readPacked, checkRange_inside h]
  refine ⟨_, dif_neg (Nat.not_lt.mpr hout), congrArg (writeAt 0 · out) ?_⟩
  refine CarriesBits.eq_packBits (fun i => ?_) (by rw [List.length_ofFn, length_bitsAt])
  rw [getElem?_bitsAt, bitAt, List.getD_eq_getElem?_getD, List.getElem?_ofFn]
  split
  next hi =>
    have hsplit : i / 8 * 8 + i % 8 = i := Nat.div_add_mod' i 8
    rw [Option.getD_some, bit_readByteBits _ _ (Nat.mod_lt _ (by decide)), Nat.add_assoc, hsplit]
    congr 2
    simp only [eq_iff_iff]
    omega
  next hi => rw [Option.getD_none, bit_zero, decide_eq_false (by omega), Bool.false_and]

/-- A read into a slice of the right size fills it with the bits asked for and pads the
last byte with zeros. -/
theorem readPacked_inRange {out : List UInt8}
    (h : address.toNat + quantity.toNat ≤ len) (hout : out.length = (quantity.toNat + 7) / 8) :
    ∃ packed : Slice out, t.readPacked address quantity out = .ok (quantity.toNat, packed) ∧
      ∀ i, bitAt packed.val i = (decide (i < quantity.toNat) && t.bit (address.toNat + i)) := by
  obtain ⟨packed, hread, hval⟩ := readPacked_fills t h (Nat.le_of_eq hout.symm)
  refine ⟨packed, hread, fun i => ?_⟩
  rw [hval, writeAt_zero (by rw [length_packBits, length_bitsAt, hout]), carriesBits_packBits,
    getElem?_bitsAt]

/-! ## Writes -/

/-- Bits `start` on of `t'` are the values, all others are those of `t`. -/
def Overwritten (start : Nat) (values : List Bool) (t t' : BitTable len) : Prop :=
  ∀ j, t'.bit j = if start ≤ j ∧ j < start + values.length then values[j - start]?.getD false
    else t.bit j

theorem overwritten_set {i : Nat} (h : i < len) (v : Bool) : Overwritten i [v] t (t.set i h v) := by
  intro j
  rw [bit_set]
  by_cases hj : j = i
  · rw [if_pos hj, if_pos ⟨by omega, by simp; omega⟩, hj, Nat.sub_self]
    rfl
  · rw [if_neg hj, if_neg (by simp; omega)]

theorem writeBits_outOfRange {values : List Bool} (h : ¬address.toNat + values.length ≤ len) :
    t.writeBits address values = .error .illegalDataAddress := by
  rw [writeBits, checkRange_outside h]
  rfl

theorem overwritten_writeBitsByte {start : Nat} {values : List Bool}
    (hrange : start + values.length ≤ len) {t t' : BitTable len}
    (k : Fin ((values.length + 7) / 8)) (h : Overwritten start (values.take (k * 8)) t t') :
    Overwritten start (values.take ((k + 1) * 8)) t (writeBitsByte start values hrange t' k) := by
  have hchunk : ((values.drop (k * 8)).take 8).length = min 8 (values.length - k * 8) := by
    rw [List.length_take, List.length_drop]
  intro j
  rw [writeBitsByte, bit_writeByteBits _ _ _ (by omega), h j]
  simp only [hchunk, List.length_take]
  split
  next hin =>
    rw [if_pos (by omega), bit_packByte (by omega), List.getElem?_take_of_lt (by omega),
      List.getElem?_drop, List.getElem?_take_of_lt (by omega)]
    congr 2
    omega
  next hout =>
    split
    next hin =>
      rw [if_pos (by omega), List.getElem?_take_of_lt (by omega),
        List.getElem?_take_of_lt (by omega)]
    next => rw [if_neg (by omega)]

/-- A write changes the bits it addresses and no others. -/
theorem writeBits_inRange {values : List Bool} (h : address.toNat + values.length ≤ len) :
    ∃ t', t.writeBits address values = .ok t' ∧ Overwritten address.toNat values t t' := by
  rw [writeBits, checkRange_inside h]
  refine ⟨_, rfl, ?_⟩
  have hloop := foldl_invariant
    (fun k t' => Overwritten address.toNat (values.take (k * 8)) t t')
    (fun j => by rw [if_neg (by simp)]) (fun k _ => overwritten_writeBitsByte h k)
  rwa [List.take_of_length_le (by omega)] at hloop

theorem writePacked_outOfRange {quantity : Nat} {packed : List UInt8}
    (hlen : packed.length = (quantity + 7) / 8) (h : len < address.toNat + quantity) :
    t.writePacked address quantity packed hlen = .error .illegalDataAddress := by
  rw [writePacked, checkRange, dif_pos h]
  rfl

/-- Bits `start` to `start + n` of `t'` are those of the packed string, all others are
those of `t`. -/
def Written (start n : Nat) (packed : List UInt8) (t t' : BitTable len) : Prop :=
  ∀ j, t'.bit j = if start ≤ j ∧ j < start + n then bitAt packed (j - start) else t.bit j

theorem written_writePackedByte {start quantity : Nat} {packed : List UInt8}
    (hlen : packed.length = (quantity + 7) / 8) (hrange : start + quantity ≤ len)
    {t t' : BitTable len} (i : Fin packed.length)
    (h : Written start (min quantity (i * 8)) packed t t') :
    Written start (min quantity ((i + 1) * 8)) packed t
      (writePackedByte start quantity packed hlen hrange t' i) := by
  intro j
  rw [writePackedByte, bit_writeByteBits _ _ _ (by omega), h j]
  split
  next hin =>
    rw [if_pos (by omega), bitAt, show (j - start) / 8 = i.val by omega,
      List.getD_eq_getElem?_getD, List.getElem?_eq_getElem i.isLt, Option.getD_some,
      show (j - start) % 8 = j - (start + i.val * 8) by omega]
    rfl
  next hout =>
    split
    next => rw [if_pos (by omega)]
    next => rw [if_neg (by omega)]

/-- A write changes the bits it addresses and no others. -/
theorem writePacked_inRange {quantity : Nat} {packed : List UInt8}
    (hlen : packed.length = (quantity + 7) / 8) (h : address.toNat + quantity ≤ len) :
    ∃ t', t.writePacked address quantity packed hlen = .ok t' ∧
      Written address.toNat quantity packed t t' := by
  rw [writePacked, checkRange, dif_neg (Nat.not_lt.mpr h)]
  refine ⟨_, rfl, ?_⟩
  -- after `i` bytes the first `8 * i` bits are written
  have hloop := foldl_invariant
    (fun i t' => Written address.toNat (min quantity (i * 8)) packed t t')
    (fun j => by rw [if_neg (by omega)]) (fun i _ => written_writePackedByte hlen h i)
  rwa [show min quantity (packed.length * 8) = quantity by omega] at hloop

theorem Written.overwritten {start n : Nat} {packed : List UInt8} {t t' : BitTable len}
    (h : Written start n packed t t') : Overwritten start (unpackBits n packed) t t' := by
  intro j
  rw [h j, length_unpackBits]
  by_cases hj : start ≤ j ∧ j < start + n
  · rw [if_pos hj, if_pos hj, getElem?_unpackBits (by omega), Option.getD_some]
  · rw [if_neg hj, if_neg hj]

/-! ## The array a table stands for -/

theorem length_toBools : t.toBools.length = len := List.length_ofFn

theorem getElem?_toBools {i : Nat} (h : i < len) : t.toBools[i]? = some (t.bit i) := by
  rw [toBools, List.getElem?_ofFn, dif_pos h]

theorem bitsAt_eq {start n : Nat} (h : start + n ≤ len) :
    t.bitsAt start n = (t.toBools.drop start).take n := by
  apply List.ext_getElem?
  intro i
  by_cases hi : i < n
  · rw [List.getElem?_take_of_lt hi, List.getElem?_drop, getElem?_toBools t (by omega), bitsAt,
      List.getElem?_ofFn, dif_pos hi]
  · rw [List.getElem?_eq_none (by rw [length_bitsAt]; omega),
      List.getElem?_eq_none (by rw [List.length_take]; omega)]

/-- A bit table is the array after a write if each of its bits is. -/
theorem Overwritten.toBools_eq {start : Nat} {values : List Bool} {t t' : BitTable len}
    (h : Overwritten start values t t') (hin : start + values.length ≤ len) :
    t'.toBools = writeAt start values t.toBools := by
  apply List.ext_getElem?
  intro i
  rw [getElem?_writeAt (by rwa [length_toBools])]
  by_cases hi : i < len
  · rw [getElem?_toBools t' hi, h i, getElem?_toBools t hi]
    by_cases hwrite : start ≤ i ∧ i < start + values.length
    · rw [if_pos hwrite, if_pos hwrite, List.getElem?_eq_getElem (by omega), Option.getD_some]
    · rw [if_neg hwrite, if_neg hwrite]
  · rw [if_neg (by omega), List.getElem?_eq_none (by rw [length_toBools]; omega),
      List.getElem?_eq_none (by rw [length_toBools]; omega)]

/-- A table is known by its bits. -/
theorem ext_bit {t t' : BitTable len} (h : ∀ j, t.bit j = t'.bit j) : t = t' := by
  have hbytes : t.bytes.toList = t'.bytes.toList :=
    bytes_ext (by rw [Vector.length_toList, Vector.length_toList]) h
  obtain ⟨bytes⟩ := t
  obtain ⟨bytes'⟩ := t'
  exact congrArg BitTable.mk (Vector.toList_inj.mp hbytes)

/-- Unpacking first makes no difference. -/
theorem writeBits_unpackBits (address : UInt16) {quantity : Nat}
    {packed : List UInt8} (hlen : packed.length = (quantity + 7) / 8) :
    t.writeBits address (unpackBits quantity packed) = t.writePacked address quantity packed hlen := by
  have hbits := length_unpackBits quantity packed
  by_cases hrange : address.toNat + quantity ≤ len
  · obtain ⟨t₁, hwrite, hover⟩ := @writeBits_inRange len t address
      (unpackBits quantity packed) (by rwa [hbits])
    obtain ⟨t₂, hwrite', hwritten⟩ := t.writePacked_inRange hlen hrange
    have hsame : t₁ = t₂ := ext_bit fun j => (hover j).trans (hwritten.overwritten j).symm
    rw [hwrite, hwrite', hsame]
  · rw [t.writePacked_outOfRange hlen (Nat.not_le.mp hrange),
      t.writeBits_outOfRange (by rwa [hbits])]

theorem toBools_set {i : Nat} (h : i < len) (v : Bool) :
    (t.set i h v).toBools = writeAt i [v] t.toBools :=
  (t.overwritten_set h v).toBools_eq h

end BitTable

end RustyModbus.Server
