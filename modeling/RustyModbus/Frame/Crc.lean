import RustyModbus.Lib.Bytes

/-!
# The RTU checksum

CRC-16 with the reflected polynomial `0xA001` and the initial value `0xFFFF`, one byte at
a time through a table of 256 entries. The checksum of a frame stands behind it with the
low byte first; `verifyCrc` compares. The compatibility decoder keeps the checksum of a
growing prefix instead of computing each anew, which `crc16_concat` justifies.
-/

namespace RustyModbus

open Wire

/-- One bit of the table computation. -/
def crcShift (crc : UInt16) : UInt16 :=
  if crc &&& 1 ≠ 0 then (crc >>> 1) ^^^ 0xA001 else crc >>> 1

/-- `CRC_TABLE[index]`: the index shifted out bit by bit. -/
def crcTable (index : UInt16) : UInt16 :=
  Nat.repeat crcShift 8 index

def crc16Update (crc : UInt16) (byte : UInt8) : UInt16 :=
  let index := (crc ^^^ byte.toUInt16) &&& 0xFF
  (crc >>> 8) ^^^ crcTable index

def crc16 (data : List UInt8) : UInt16 := data.foldl crc16Update 0xFFFF

def verifyCrc (frame : List UInt8) : Bool :=
  if frame.length < 3 then false
  else
    let dataEnd := frame.length - 2
    let expected := crc16 (frame.take dataEnd)
    let actual := fromLeBytes frame[dataEnd]! frame[dataEnd + 1]!
    expected == actual

theorem crc16_concat (data : List UInt8) (b : UInt8) :
    crc16 (data ++ [b]) = crc16Update (crc16 data) b := by
  simp [crc16]

/-- A frame with its checksum behind it. -/
def withCrc (data : List UInt8) : List UInt8 := data ++ toLeBytes (crc16 data)

@[simp] theorem withCrc_length (data : List UInt8) : (withCrc data).length = data.length + 2 := by
  simp [withCrc, toLeBytes]

theorem drop_length_sub_two {frame : List UInt8} (h : 2 ≤ frame.length) :
    frame.drop (frame.length - 2)
      = [frame[frame.length - 2]!, frame[frame.length - 2 + 1]!] := by
  rw [← byte_cons_drop (by omega), ← byte_cons_drop (by omega), List.drop_of_length_le (by omega)]

/-- A frame verifies exactly if its last two bytes are the checksum of the others. -/
theorem verifyCrc_iff {frame : List UInt8} :
    verifyCrc frame = true ↔ ∃ data, data ≠ [] ∧ frame = withCrc data := by
  constructor
  · intro h
    unfold verifyCrc at h
    split at h
    · cases h
    · next hlen =>
        have hcrc := eq_of_beq h
        refine ⟨frame.take (frame.length - 2), ?_, ?_⟩
        · rw [Ne, ← List.length_eq_zero_iff, List.length_take]
          omega
        · rw [withCrc, hcrc, toLeBytes_fromLeBytes, ← drop_length_sub_two (by omega),
            List.take_append_drop]
  · rintro ⟨data, hne, rfl⟩
    have hpos := List.length_pos_iff.mpr hne
    have hlen := withCrc_length data
    have hend : (withCrc data).length - 2 = data.length := by omega
    have htake : (withCrc data).take data.length = data := List.take_left
    have h0 : (withCrc data)[data.length]! = (crc16 data).toUInt8 := by
      rw [getElem!_pos _ _ (by omega)]
      simp [withCrc, toLeBytes]
    have h1 : (withCrc data)[data.length + 1]! = (crc16 data >>> 8).toUInt8 := by
      rw [getElem!_pos _ _ (by omega)]
      simp [withCrc, toLeBytes]
    unfold verifyCrc
    rw [if_neg (by omega)]
    simp only [hend, htake, h0, h1, fromLeBytes_shift, beq_self_eq_true]

end RustyModbus
