import RustyModbus.Frame.RtuTcp

/-!
# Strict RTU-over-TCP framing

The length of a PDU as a function of its first bytes, its function code and its direction.
The functions read the stream through `src.get(i)` and wait where a read is past the end
(`readAt`).
All their reads are below byte 256 (in the walk over identification objects because the running
length is checked against 253 at every object), so the length is known at the latest when a
maximal ADU is buffered.
-/

namespace RustyModbus

open Wire Stream

/-- What the length functions return: the length, or nothing while it is open. -/
abbrev PduLength := Except (Fault FrameError) (Option Nat)

def indeterminate (functionCode : UInt8) : Fault FrameError :=
  .error (.indeterminateRtuOverTcpFrameLength functionCode)

def validateStrictPduLength (length : Nat) : Except (Fault FrameError) Unit :=
  rejectIf (length > maxPduSize) (.error (.invalidRtuOverTcpFrameLength length maxPduSize))

def strictSupportsStandardBaseFunction (functionCode : UInt8) : Bool :=
  match functionCode with
  | 0x01 | 0x02 | 0x03 | 0x04 | 0x05 | 0x06 | 0x07 | 0x08 | 0x0B | 0x0C | 0x0F | 0x10 | 0x11
  | 0x14 | 0x15 | 0x16 | 0x17 | 0x18 | 0x2B => true
  | _ => false

def pduLengthFromU8Count (src : List UInt8) (basePduLen countAduIndex : Nat) : PduLength :=
  readAt src countAduIndex fun count => do
    let length := basePduLen + count.toNat
    validateStrictPduLength length
    return some length

def pduLengthFromU16Count (src : List UInt8) (basePduLen countAduIndex : Nat) : PduLength :=
  readAt src countAduIndex fun hi => readAt src (countAduIndex + 1) fun lo => do
    let count := (fromBeBytes hi lo).toNat
    let length := basePduLen + count
    validateStrictPduLength length
    return some length

def diagnosticPduLength (src : List UInt8) : PduLength :=
  readAt src 2 fun hi => readAt src 3 fun lo =>
    match fromBeBytes hi lo with
    | 0x0001 | 0x0002 | 0x0003 | 0x000A | 0x000B | 0x000C | 0x000D | 0x000E | 0x000F
    | 0x0010 | 0x0011 | 0x0012 | 0x0014 => .ok (some 5)
    | _ => .error (indeterminate 0x08)

def meiRequestPduLength (src : List UInt8) : PduLength :=
  readAt src 2 fun meiType =>
    if meiType = 0x0E then .ok (some 4) else .error (indeterminate 0x2B)

/-- The loop over the objects, `n` of them left. -/
def addObjectLengths (src : List UInt8) : Nat → Nat → PduLength
  | 0, pduLen => .ok (some pduLen)
  | n + 1, pduLen =>
    let objectAduIndex := 1 + pduLen
    readAt src objectAduIndex fun _ => readAt src (objectAduIndex + 1) fun valueLen => do
      let pduLen := pduLen + (2 + valueLen.toNat)
      validateStrictPduLength pduLen
      addObjectLengths src n pduLen

def meiResponsePduLength (src : List UInt8) : PduLength :=
  readAt src 2 fun meiType =>
    if meiType ≠ 0x0E then .error (indeterminate 0x2B)
    else
      readAt src 7 fun objectCount => do
        let pduLen := 7
        let minimum := pduLen + objectCount.toNat * 2
        validateStrictPduLength minimum
        addObjectLengths src objectCount.toNat pduLen

/-- The table of `strict_pdu_length`, for the function code it has read. -/
def standardPduLength (functionCode : UInt8) (direction : Direction) (src : List UInt8) :
    PduLength :=
  if functionCode &&& 0x80 ≠ 0 then
    match direction with
    | .response =>
      if strictSupportsStandardBaseFunction (functionCode &&& 0x7F) then .ok (some 2)
      else .error (indeterminate functionCode)
    | .request => .error (indeterminate functionCode)
  else
    match functionCode, direction with
    | 0x01, .request | 0x02, .request | 0x03, .request | 0x04, .request
    | 0x05, _ | 0x06, _
    | 0x0B, .response | 0x0F, .response | 0x10, .response => .ok (some 5)
    | 0x01, .response | 0x02, .response | 0x03, .response | 0x04, .response
    | 0x0C, .response | 0x11, .response | 0x17, .response
    | 0x14, _ | 0x15, _ => pduLengthFromU8Count src 2 2
    | 0x07, .request | 0x0B, .request | 0x0C, .request | 0x11, .request => .ok (some 1)
    | 0x07, .response => .ok (some 2)
    | 0x08, _ => diagnosticPduLength src
    | 0x0F, .request | 0x10, .request => pduLengthFromU8Count src 6 6
    | 0x16, _ => .ok (some 7)
    | 0x17, .request => pduLengthFromU8Count src 10 10
    | 0x18, .request => .ok (some 3)
    | 0x18, .response => pduLengthFromU16Count src 3 2
    | 0x2B, .request => meiRequestPduLength src
    | 0x2B, .response => meiResponsePduLength src
    | _, _ => .error (indeterminate functionCode)

def strictPduLength (src : List UInt8) (direction : Direction) : PduLength := do
  let functionCode ← index src 1
  standardPduLength functionCode direction src

/-- The comparison of the checksum at the derived length. -/
def checkStrictCrc (src : List UInt8) (aduLen : Nat) : Except (Fault FrameError) Unit := do
  let dataEnd := aduLen - 2
  let data ← slice src 0 dataEnd
  let expected := crc16 data
  let lo ← index src dataEnd
  let hi ← index src (dataEnd + 1)
  let actual := fromLeBytes lo hi
  rejectIf (expected ≠ actual) (.error (.crcMismatch expected actual))

def decodeStrict (direction : Direction) (src : List UInt8) : DecodeResult :=
  if src.length < 2 then (.ok none, src)
  else
    match strictPduLength src direction with
    | .error e => (.error e, src)
    | .ok none =>
      if src.length ≥ maxRtuAduSize then (.error (.error .truncated), src) else (.ok none, src)
    | .ok (some pduLen) =>
      match validateStrictPduLength pduLen with
      | .error e => (.error e, src)
      | .ok () =>
        let aduLen := pduLen + 3
        if src.length < aduLen then (.ok none, src)
        else
          match checkStrictCrc src aduLen with
          | .error e => (.error e, src)
          | .ok () =>
            match splitFrame src aduLen with
            | .error e => (.error e, src)
            | .ok (frame, src) => (.ok (some frame), src)

/-! ## The length functions answer finally -/

theorem settled_length (length : Nat) :
    SettledWithin 256 fun _ : List UInt8 => (do
      validateStrictPduLength length
      return some length : PduLength) :=
  .check fun _ _ => .const nofun

theorem settled_u8Count {i : Nat} (hi : i < 256) (base : Nat) :
    SettledWithin 256 fun src => pduLengthFromU8Count src base i := by
  unfold pduLengthFromU8Count
  exact .readAt hi fun count => settled_length (base + count.toNat)

theorem settled_u16Count {i : Nat} (hi : i + 1 < 256) (base : Nat) :
    SettledWithin 256 fun src => pduLengthFromU16Count src base i := by
  unfold pduLengthFromU16Count
  refine .readAt (by omega) fun a => .readAt hi fun b => ?_
  exact settled_length (base + (fromBeBytes a b).toNat)

theorem settled_diagnostic : SettledWithin 256 diagnosticPduLength := by
  unfold diagnosticPduLength
  refine .readAt (by decide) fun a => .readAt (by decide) fun b => ?_
  split <;> exact .const nofun

theorem settled_meiRequest : SettledWithin 256 meiRequestPduLength := by
  unfold meiRequestPduLength
  refine .readAt (by decide) fun _ => .ite ?_ ?_
  · exact .const nofun
  · exact .const nofun

/-- The running length stays within a PDU, so the next object header is within an ADU. -/
theorem settled_addObjectLengths (n : Nat) : ∀ pduLen : Nat, pduLen ≤ 253 →
    SettledWithin 256 fun src => addObjectLengths src n pduLen := by
  induction n with
  | zero => exact fun _ _ => .const nofun
  | succ n ih =>
    intro pduLen hle
    unfold addObjectLengths
    refine .readAt (by omega) fun _ => .readAt (by omega) fun len => ?_
    exact .check fun _ hok => ih _ (Nat.not_lt.mp (rejectIf_eq_ok.mp hok))

theorem settled_meiResponse : SettledWithin 256 meiResponsePduLength := by
  unfold meiResponsePduLength
  refine .readAt (by decide) fun _ => .ite ?_ ?_
  · exact .const nofun
  · refine .readAt (by decide) fun count => ?_
    exact .check fun _ _ => settled_addObjectLengths count.toNat 7 (by decide)

theorem settled_standardPduLength (functionCode : UInt8) (direction : Direction) :
    SettledWithin 256 (standardPduLength functionCode direction) := by
  refine .ite ?_ ?_
  · cases direction with
    | request => exact .const nofun
    | response => exact .ite (.const nofun) (.const nofun)
  · split
    all_goals first
      | exact .const nofun
      | exact settled_u8Count (by decide) _
      | exact settled_u16Count (by decide) _
      | exact settled_diagnostic
      | exact settled_meiRequest
      | exact settled_meiResponse

/-! ## The strict decoder as a length function and a parser -/

/-- The size of the ADU, once it is known. -/
def strictAduLength (direction : Direction) (src : List UInt8) : PduLength :=
  readAt src 1 fun functionCode =>
    onceKnown (standardPduLength functionCode direction src) fun pduLen => do
      validateStrictPduLength pduLen
      return some (pduLen + 3)

/-- The checksum comparison on a complete ADU. -/
def checkAduCrc (adu : List UInt8) : Except (Fault FrameError) Unit :=
  let expected := crc16 (adu.take (adu.length - 2))
  let actual := fromLeBytes adu[adu.length - 2]! adu[adu.length - 2 + 1]!
  rejectIf (expected ≠ actual) (.error (.crcMismatch expected actual))

def parseStrict (adu : List UInt8) : Except (Fault FrameError) Frame := do
  checkAduCrc adu
  return rtuFrame adu

theorem settled_strictAduLength (direction : Direction) :
    SettledWithin 256 (strictAduLength direction) := by
  unfold strictAduLength
  refine .readAt (by decide) fun functionCode => ?_
  refine .onceKnown (settled_standardPduLength functionCode direction) fun n => ?_
  unfold validateStrictPduLength rejectIf
  split <;> exact nofun

variable {src : List UInt8} {n : Nat}

theorem three_le_of_strictAduLength {direction : Direction}
    (h : strictAduLength direction src = .ok (some n)) : 3 ≤ n := by
  unfold strictAduLength readAt at h
  split at h
  · cases h
  · unfold onceKnown at h
    dsimp only at h
    split at h
    · cases h
    · cases h
    · obtain ⟨-, h⟩ := check_bind_eq_ok.mp h
      cases h
      omega

theorem index_eq_ok {l : List UInt8} {i : Nat} (h : i < l.length) :
    (index l i : Except (Fault FrameError) UInt8) = .ok l[i]! := by
  rw [index, List.getElem?_eq_getElem h, getElem!_pos l i h]
  rfl

/-- The accesses of the checksum comparison are in range, and it looks at the ADU only. -/
theorem checkStrictCrc_eq (h3 : 3 ≤ n) (hn : n ≤ src.length) :
    checkStrictCrc src n = checkAduCrc (src.take n) := by
  have hlen : (src.take n).length = n := by
    rw [List.length_take]
    omega
  have hget : ∀ i, i < n → (src.take n)[i]! = src[i]! := by
    intro i hi
    rw [getElem!_pos (src.take n) i (by omega), getElem!_pos src i (by omega), List.getElem_take]
  have hslice : slice src 0 (n - 2) = .ok (src.take (n - 2)) :=
    if_pos ⟨by omega, by omega⟩
  unfold checkStrictCrc checkAduCrc
  simp only [hlen, hslice, index_eq_ok (l := src) (i := n - 2) (by omega),
    index_eq_ok (l := src) (i := n - 2 + 1) (by omega), List.take_take,
    Nat.min_eq_left (show n - 2 ≤ n by omega), hget (n - 2) (by omega),
    hget (n - 2 + 1) (by omega)]
  rfl

theorem decodeStrict_eq_lengthDecode (direction : Direction) (src : List UInt8) :
    decodeStrict direction src = lengthDecode (strictAduLength direction) parseStrict src := by
  unfold decodeStrict lengthDecode
  by_cases h2 : src.length < 2
  · have hread : strictAduLength direction src = .ok none := by
      rw [strictAduLength, readAt, List.getElem?_eq_none (by omega)]
    rw [if_pos h2, hread]
  have hfc : src[1]? = some src[1] := List.getElem?_eq_getElem (by omega)
  have hindex : strictPduLength src direction = standardPduLength src[1] direction src := by
    rw [strictPduLength, index, hfc]
    rfl
  have hlength : strictAduLength direction src
      = onceKnown (standardPduLength src[1] direction src) fun pduLen => do
          validateStrictPduLength pduLen
          return some (pduLen + 3) := by
    rw [strictAduLength, readAt, hfc]
  rw [if_neg h2, hindex, hlength]
  unfold onceKnown
  rcases hpdu : standardPduLength src[1] direction src with e | _ | pduLen
  · rfl
  · -- the length is known before the cut-off, which is never reached
    have hlt : ¬src.length ≥ maxRtuAduSize := fun hge =>
      (settled_standardPduLength src[1] direction).decides src hge hpdu
    dsimp only
    rw [if_neg hlt]
  · dsimp only
    cases validateStrictPduLength pduLen with
    | error e => rfl
    | ok _ =>
      show _ = if src.length < pduLen + 3 then _ else _
      dsimp only
      by_cases hshort : src.length < pduLen + 3
      · rw [if_pos hshort, if_pos hshort]
      · rw [if_neg hshort, if_neg hshort, splitFrame_eq (by omega) (by omega),
          checkStrictCrc_eq (by omega) (by omega), parseStrict]
        cases checkAduCrc (src.take (pduLen + 3)) with
        | error e => rfl
        | ok _ => rfl

/-- The strict decoder answers finally. -/
def strictDecoder (direction : Direction) : Decoder UInt8 Frame (Fault FrameError) :=
  Decoder.ofLength (decodeStrict direction) (decodeStrict_eq_lengthDecode direction) rfl
    (fun _ _ h => Nat.lt_of_lt_of_le (by decide) (three_le_of_strictAduLength h))
    (settled_strictAduLength direction).settled

/-! ## Every length the strict decoder finds is that of a PDU -/

/-- What a length function may answer: nothing yet, a length other than zero, or an error of its
own. It does not panic, and `Truncated` is for the decoder to say. -/
def Proper : PduLength → Prop
  | .ok none => True
  | .ok (some n) => n ≠ 0
  | .error e => e ≠ .panic ∧ e ≠ .error .truncated

theorem proper_indeterminate (functionCode : UInt8) :
    Proper (.error (indeterminate functionCode)) := by
  constructor <;> intro h <;> cases h

theorem proper_readAt {i : Nat} {next : UInt8 → PduLength} (h : ∀ b, Proper (next b)) :
    Proper (readAt src i next) := by
  unfold readAt
  split
  · trivial
  · exact h _

theorem validateStrictPduLength_error {e : Fault FrameError}
    (h : validateStrictPduLength n = .error e) : e ≠ .panic ∧ e ≠ .error .truncated := by
  rw [validateStrictPduLength, rejectIf] at h
  split at h
  · cases h
    constructor <;> intro heq <;> cases heq
  · cases h

/-- A check in front keeps a length as it is. -/
theorem proper_check {next : PduLength} (h : Proper next) :
    Proper (do validateStrictPduLength n; next) := by
  cases hcheck : validateStrictPduLength n with
  | error e => exact validateStrictPduLength_error hcheck
  | ok _ => exact h

theorem proper_u8Count (src : List UInt8) {base : Nat} (h : base ≠ 0) (i : Nat) :
    Proper (pduLengthFromU8Count src base i) :=
  proper_readAt fun count => proper_check (show base + count.toNat ≠ 0 by omega)

theorem proper_u16Count (src : List UInt8) {base : Nat} (h : base ≠ 0) (i : Nat) :
    Proper (pduLengthFromU16Count src base i) :=
  proper_readAt fun hi => proper_readAt fun lo =>
    proper_check (show base + (fromBeBytes hi lo).toNat ≠ 0 by omega)

theorem proper_diagnostic (src : List UInt8) : Proper (diagnosticPduLength src) := by
  refine proper_readAt fun _ => proper_readAt fun _ => ?_
  split
  all_goals first
    | exact proper_indeterminate _
    | exact Nat.succ_ne_zero _

theorem proper_meiRequest (src : List UInt8) : Proper (meiRequestPduLength src) := by
  refine proper_readAt fun _ => ?_
  split
  · exact Nat.succ_ne_zero _
  · exact proper_indeterminate _

theorem proper_addObjectLengths (src : List UInt8) (n : Nat) {pduLen : Nat} (h : pduLen ≠ 0) :
    Proper (addObjectLengths src n pduLen) := by
  induction n generalizing pduLen with
  | zero => exact h
  | succ n ih =>
    exact proper_readAt fun _ => proper_readAt fun _ => proper_check (ih (by omega))

theorem proper_meiResponse (src : List UInt8) : Proper (meiResponsePduLength src) := by
  refine proper_readAt fun _ => ?_
  split
  · exact proper_indeterminate _
  · exact proper_readAt fun _ => proper_check (proper_addObjectLengths src _ (by decide))

theorem proper_standardPduLength (functionCode : UInt8) (direction : Direction)
    (src : List UInt8) : Proper (standardPduLength functionCode direction src) := by
  unfold standardPduLength
  split
  · cases direction with
    | request => exact proper_indeterminate _
    | response =>
      dsimp only
      split
      · exact Nat.succ_ne_zero _
      · exact proper_indeterminate _
  · split
    all_goals first
      | exact Nat.succ_ne_zero _
      | exact proper_indeterminate _
      | exact proper_u8Count src (by decide) _
      | exact proper_u16Count src (by decide) _
      | exact proper_diagnostic src
      | exact proper_meiRequest src
      | exact proper_meiResponse src

theorem proper_strictAduLength (direction : Direction) (src : List UInt8) :
    Proper (strictAduLength direction src) := by
  refine proper_readAt fun functionCode => ?_
  have hpdu := proper_standardPduLength functionCode direction src
  unfold onceKnown
  split
  next heq =>
    rw [heq] at hpdu
    exact hpdu
  next => trivial
  next => exact proper_check (Nat.succ_ne_zero _)

theorem strictAduLength_bounds {direction : Direction}
    (h : strictAduLength direction src = .ok (some n)) : 4 ≤ n ∧ n ≤ 256 := by
  unfold strictAduLength readAt at h
  split at h
  · cases h
  · next fc _ =>
      have hproper := proper_standardPduLength fc direction src
      unfold onceKnown at h
      dsimp only at h
      split at h
      · cases h
      · cases h
      · next pduLen hlength =>
          obtain ⟨hmax, h⟩ := check_bind_eq_ok.mp h
          cases h
          have hle : pduLen ≤ 253 := Nat.not_lt.mp (rejectIf_eq_ok.mp hmax)
          rw [hlength] at hproper
          have hpos : pduLen ≠ 0 := hproper
          omega

end RustyModbus
