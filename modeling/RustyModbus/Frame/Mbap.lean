import RustyModbus.Codec.Error
import RustyModbus.Lib.Stream

/-!
# Frames and the MBAP codec

A frame is a PDU with its header: the seven MBAP bytes on TCP, the unit identifier on
serial lines. The MBAP decoder takes the length from the header. Everything it decides
before the frame is complete it decides from the first seven bytes, so its answers are
final (`mbapDecoder`); and a header that passes the encoder's checks passes the decoder's,
so a frame is decoded to itself whatever bytes follow (`MbapCodec.decode_wire`).
-/

namespace RustyModbus

open Wire

def mbapHeaderLen : Nat := 7
def modbusProtocolId : UInt16 := 0
def maxMbapLength : UInt16 := 254
def minMbapLength : UInt16 := 2
def maxRtuAduSize : Nat := 256

structure MbapHeader where
  transactionId : UInt16
  protocolId : UInt16
  length : UInt16
  unitId : UInt8
deriving DecidableEq, Repr

/-- `MbapHeader::new`, which panics on a PDU that is too long. -/
def MbapHeader.new (transactionId : UInt16) (unitId : UInt8) (pduLength : Nat)
    (_h : pduLength ≤ maxPduSize) : MbapHeader :=
  { transactionId, protocolId := modbusProtocolId, length := UInt16.ofNat (pduLength + 1), unitId }

inductive FrameHeader
  | mbap (header : MbapHeader)
  | rtu (unitId : UInt8)
deriving DecidableEq, Repr

structure Frame where
  header : FrameHeader
  pdu : List UInt8
deriving DecidableEq, Repr

def Frame.unitId (f : Frame) : UInt8 :=
  match f.header with
  | .mbap h => h.unitId
  | .rtu unitId => unitId

inductive FrameError
  | invalidProtocolId (proto : UInt16)
  | lengthOverflow (length : UInt16)
  | invalidLength (declared minimum : UInt16)
  | lengthMismatch (declared actual : UInt16)
  | invalidPduLength (length minimum : Nat)
  | pduLengthOverflow (length maximum : Nat)
  | crcMismatch (expected actual : UInt16)
  | indeterminateRtuOverTcpFrameLength (functionCode : UInt8)
  | invalidRtuOverTcpFrameLength (length maximum : Nat)
  | truncated
deriving DecidableEq, Repr

/-- A call of a frame decoder: its result and the buffer afterwards. -/
abbrev DecodeResult := Except (Fault FrameError) (Option Frame) × List UInt8

namespace MbapHeader

/-- The header overlaid on the first seven bytes. -/
def read (src : List UInt8) : MbapHeader :=
  { transactionId := wordAt src 0, protocolId := wordAt src 2, length := wordAt src 4,
    unitId := src[6]! }

def asBytes (h : MbapHeader) : List UInt8 :=
  toBeBytes h.transactionId ++ toBeBytes h.protocolId ++ toBeBytes h.length ++ [h.unitId]

@[simp] theorem asBytes_length (h : MbapHeader) : h.asBytes.length = 7 := rfl

theorem read_asBytes (h : MbapHeader) (rest : List UInt8) : read (h.asBytes ++ rest) = h := by
  obtain ⟨t, p, l, u⟩ := h
  have ht : wordAt (asBytes ⟨t, p, l, u⟩ ++ rest) 0 = t := fromBeBytes_shift t
  have hp : wordAt (asBytes ⟨t, p, l, u⟩ ++ rest) 2 = p := fromBeBytes_shift p
  have hl : wordAt (asBytes ⟨t, p, l, u⟩ ++ rest) 4 = l := fromBeBytes_shift l
  rw [read, ht, hp, hl]
  rfl

theorem read_append {src : List UInt8} (h : 7 ≤ src.length) (more : List UInt8) :
    read (src ++ more) = read src := by
  rw [read, read, wordAt_append_left (by omega), wordAt_append_left (by omega),
    wordAt_append_left (by omega), getElem!_append_left (by omega)]

end MbapHeader

namespace MbapCodec

def decode (src : List UInt8) : DecodeResult :=
  if src.length < mbapHeaderLen then (.ok none, src)
  else
    let header := MbapHeader.read src
    let proto := header.protocolId
    if proto ≠ modbusProtocolId then (.error (.error (.invalidProtocolId proto)), src)
    else
      let length := header.length
      if length < minMbapLength then
        (.error (.error (.invalidLength length minMbapLength)), src)
      else if length > maxMbapLength then (.error (.error (.lengthOverflow length)), src)
      else
        let total := (mbapHeaderLen - 1) + length.toNat
        if src.length < total then (.ok none, src)
        else
          let adu := src.take total
          let pdu := adu.drop mbapHeaderLen
          (.ok (some { header := .mbap header, pdu }), src.drop total)

def validateOutgoingHeader (header : MbapHeader) (pduLen : Nat) : Except FrameError Unit := do
  let proto := header.protocolId
  rejectIf (proto ≠ modbusProtocolId) (.invalidProtocolId proto)
  rejectIf (pduLen > maxPduSize)
    (.lengthOverflow (if pduLen ≤ 65535 then UInt16.ofNat pduLen else 65535))
  -- at most 254, so the conversion of the source cannot fail
  let actual := UInt16.ofNat (pduLen + 1)
  rejectIf (actual < minMbapLength) (.invalidLength actual minMbapLength)
  let declared := header.length
  rejectIf (declared < minMbapLength) (.invalidLength declared minMbapLength)
  rejectIf (declared > maxMbapLength) (.lengthOverflow declared)
  rejectIf (declared ≠ actual) (.lengthMismatch declared actual)

/-- `Encoder<(MbapHeader, Bytes)>`. -/
def encodeParts (header : MbapHeader) (pdu dst : List UInt8) :
    Except FrameError Unit × List UInt8 :=
  match validateOutgoingHeader header pdu.length with
  | .error e => (.error e, dst)
  | .ok () =>
    let dst := dst ++ header.asBytes
    let dst := dst ++ pdu
    (.ok (), dst)

/-- `Encoder<Frame>`. -/
def encode (frame : Frame) (dst : List UInt8) : Except FrameError Unit × List UInt8 :=
  match frame.header with
  | .rtu _ => (.error (.invalidProtocolId 0xFFFF), dst)
  | .mbap header => encodeParts header frame.pdu dst

/-! ## The decoder as a length function and a parser -/

/-- The size of the frame the header announces, once the header is there. -/
def aduLength (src : List UInt8) : Except (Fault FrameError) (Option Nat) :=
  if src.length < mbapHeaderLen then .ok none
  else
    let header := MbapHeader.read src
    if header.protocolId ≠ modbusProtocolId then
      .error (.error (.invalidProtocolId header.protocolId))
    else if header.length < minMbapLength then
      .error (.error (.invalidLength header.length minMbapLength))
    else if header.length > maxMbapLength then
      .error (.error (.lengthOverflow header.length))
    else .ok (some (mbapHeaderLen - 1 + header.length.toNat))

def parseAdu (adu : List UInt8) : Except (Fault FrameError) Frame :=
  .ok { header := .mbap (MbapHeader.read adu), pdu := adu.drop mbapHeaderLen }

theorem aduLength_eq_some {src : List UInt8} {n : Nat} :
    aduLength src = .ok (some n) ↔ 7 ≤ src.length ∧
      (MbapHeader.read src).protocolId = modbusProtocolId ∧
      ¬(MbapHeader.read src).length < minMbapLength ∧
      ¬(MbapHeader.read src).length > maxMbapLength ∧
      n = 6 + (MbapHeader.read src).length.toNat := by
  unfold aduLength
  constructor
  · intro h
    split at h
    · cases h
    · next hlen =>
        dsimp only at h
        split at h
        · cases h
        · next hproto =>
            split at h
            · cases h
            · next hmin =>
                split at h
                · cases h
                · next hmax =>
                    cases h
                    exact ⟨Nat.not_lt.mp hlen, Decidable.not_not.mp hproto, hmin, hmax, rfl⟩
  · rintro ⟨hlen, hproto, hmin, hmax, rfl⟩
    have hlen' : ¬src.length < mbapHeaderLen := Nat.not_lt.mpr hlen
    rw [if_neg hlen']
    dsimp only
    rw [if_neg (Decidable.not_not.mpr hproto), if_neg hmin, if_neg hmax]
    rfl

/-- A complete frame is at least a header and one byte. -/
theorem seven_lt_of_aduLength {src : List UInt8} {n : Nat} (h : aduLength src = .ok (some n)) :
    7 < n := by
  obtain ⟨-, -, hmin, -, rfl⟩ := aduLength_eq_some.mp h
  rw [UInt16.lt_iff_toNat_lt] at hmin
  have : minMbapLength.toNat = 2 := rfl
  omega

theorem decode_eq_lengthDecode (src : List UInt8) :
    decode src = Stream.lengthDecode aduLength parseAdu src := by
  unfold decode Stream.lengthDecode
  by_cases hlen : src.length < mbapHeaderLen
  · rw [if_pos hlen, aduLength, if_pos hlen]
  rw [if_neg hlen, aduLength, if_neg hlen]
  dsimp only
  by_cases hproto : (MbapHeader.read src).protocolId ≠ modbusProtocolId
  · rw [if_pos hproto, if_pos hproto]
  rw [if_neg hproto, if_neg hproto]
  by_cases hmin : (MbapHeader.read src).length < minMbapLength
  · rw [if_pos hmin, if_pos hmin]
  rw [if_neg hmin, if_neg hmin]
  by_cases hmax : (MbapHeader.read src).length > maxMbapLength
  · rw [if_pos hmax, if_pos hmax]
  rw [if_neg hmax, if_neg hmax]
  dsimp only
  split
  · rfl
  · next htotal =>
      -- the header of the complete frame is the one read from the buffer
      have hmin' : ¬(MbapHeader.read src).length.toNat < 2 := hmin
      have h7 : 7 ≤ (src.take (mbapHeaderLen - 1 + (MbapHeader.read src).length.toNat)).length := by
        have h6 : mbapHeaderLen - 1 = 6 := rfl
        rw [List.length_take]
        omega
      have hread := MbapHeader.read_append h7
        (src.drop (mbapHeaderLen - 1 + (MbapHeader.read src).length.toNat))
      rw [List.take_append_drop] at hread
      simp only [parseAdu, ← hread]

theorem settled_aduLength : Stream.Settled aduLength := by
  intro src more h
  have hlen : ¬src.length < mbapHeaderLen := fun hlt => h (if_pos hlt)
  have hlen' : ¬(src ++ more).length < mbapHeaderLen := by
    rw [List.length_append]
    omega
  unfold aduLength
  rw [if_neg hlen, if_neg hlen', MbapHeader.read_append (Nat.not_lt.mp hlen)]

end MbapCodec

/-- The MBAP decoder answers finally. -/
def mbapDecoder : Stream.Decoder UInt8 Frame (Fault FrameError) :=
  Stream.Decoder.ofLength MbapCodec.decode MbapCodec.decode_eq_lengthDecode rfl
    (fun _ _ h => Nat.lt_trans (by decide) (MbapCodec.seven_lt_of_aduLength h))
    MbapCodec.settled_aduLength

namespace MbapCodec

/-! ## Encoding -/

/-- A header the encoder accepts for a PDU of this length. -/
def Sendable (h : MbapHeader) (pdu : List UInt8) : Prop :=
  h.protocolId = 0 ∧ 1 ≤ pdu.length ∧ pdu.length ≤ 253 ∧ h.length.toNat = pdu.length + 1

variable {h : MbapHeader} {pdu : List UInt8}

theorem validateOutgoingHeader_eq_ok :
    validateOutgoingHeader h pdu.length = .ok () ↔ Sendable h pdu := by
  have hmin : minMbapLength.toNat = 2 := rfl
  have hmax : maxMbapLength.toNat = 254 := rfl
  have h253 : maxPduSize = 253 := rfl
  simp only [validateOutgoingHeader, check_bind_eq_ok, rejectIf_eq_ok, Decidable.not_not,
    Sendable, UInt16.lt_iff_toNat_lt, gt_iff_lt, ← UInt16.toNat_inj (a := h.length)]
  refine and_congr_right fun _ => ⟨?_, ?_⟩
  · rintro ⟨hpdu, hact, _, _, heq⟩
    have hn : (UInt16.ofNat (pdu.length + 1)).toNat = pdu.length + 1 :=
      UInt16.toNat_ofNat_of_lt' (by show _ < 65536; omega)
    omega
  · rintro ⟨h1, hpdu, heq⟩
    have hn : (UInt16.ofNat (pdu.length + 1)).toNat = pdu.length + 1 :=
      UInt16.toNat_ofNat_of_lt' (by show _ < 65536; omega)
    omega

theorem encodeParts_of_sendable (hs : Sendable h pdu) (dst : List UInt8) :
    encodeParts h pdu dst = (.ok (), dst ++ (h.asBytes ++ pdu)) := by
  rw [encodeParts, validateOutgoingHeader_eq_ok.mpr hs]
  simp

theorem encodeParts_error {pdu dst dst' : List UInt8} {e : FrameError}
    (herr : encodeParts h pdu dst = (.error e, dst')) : dst' = dst := by
  unfold encodeParts at herr
  split at herr
  · cases herr
    rfl
  · cases herr

/-- The bytes of a frame are decoded to it, whatever follows. -/
theorem decode_wire (hs : Sendable h pdu) (rest : List UInt8) :
    decode (h.asBytes ++ pdu ++ rest) = (.ok (some ⟨.mbap h, pdu⟩), rest) := by
  obtain ⟨hproto, h1, h253, hlen⟩ := hs
  have hread : MbapHeader.read (h.asBytes ++ pdu ++ rest) = h := by
    rw [List.append_assoc, MbapHeader.read_asBytes]
  have hadu : (h.asBytes ++ pdu).length = 6 + h.length.toNat := by
    rw [List.length_append, h.asBytes_length]
    omega
  have htake : (h.asBytes ++ pdu ++ rest).take (6 + h.length.toNat) = h.asBytes ++ pdu :=
    List.take_left' hadu
  rw [decode_eq_lengthDecode]
  refine Stream.lengthDecode_eq_frame.mpr ⟨6 + h.length.toNat, ?_, ?_, ?_, ?_⟩
  · refine aduLength_eq_some.mpr ?_
    rw [hread]
    refine ⟨by simp, hproto, ?_, ?_, rfl⟩
    · show ¬h.length.toNat < 2
      omega
    · show ¬254 < h.length.toNat
      omega
  · rw [List.length_append, hadu]
    omega
  · rw [htake, parseAdu, MbapHeader.read_asBytes]
    rfl
  · exact (List.drop_left' hadu).symm

/-- A refused frame leaves the destination alone. -/
theorem encode_error {f : Frame} {dst dst' : List UInt8} {e : FrameError}
    (h : encode f dst = (.error e, dst')) : dst' = dst := by
  obtain ⟨header, pdu⟩ := f
  cases header with
  | rtu u =>
    cases h
    rfl
  | mbap hdr => exact encodeParts_error h

end MbapCodec

end RustyModbus
