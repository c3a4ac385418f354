import RustyModbus.Frame.Strict

/-!
# Strict framing decides, and reads in bounds

The strict decoder once more, with the indexes the length functions use on the two bytes that
`src.get(i..i + 2)` gives them; out of bounds they panic, as those of the decoder do already. The
decoder is the one without them, so none of them is ever out of bounds.

Once 256 bytes are buffered the length is known: the walk over identification objects checks its
position against 253 before it looks at the next header. So the decoder answers with a frame or an
error, and the branch for a length still unknown at that point is dead.
-/

namespace RustyModbus

open Wire Stream

namespace Checked

/-- `let Some(bytes) = src.get(start..finish) else { return Ok(None) }`. -/
def readRange (src : List UInt8) (start finish : Nat) (next : List UInt8 → PduLength) : PduLength :=
  if start ≤ finish ∧ finish ≤ src.length then next ((src.take finish).drop start) else .ok none

def pduLengthFromU16Count (src : List UInt8) (basePduLen countAduIndex : Nat) : PduLength :=
  readRange src countAduIndex (countAduIndex + 2) fun bytes => do
    let hi ← index bytes 0
    let lo ← index bytes 1
    let count := (fromBeBytes hi lo).toNat
    let length := basePduLen + count
    validateStrictPduLength length
    return some length

def diagnosticPduLength (src : List UInt8) : PduLength :=
  readRange src 2 4 fun bytes => do
    let hi ← index bytes 0
    let lo ← index bytes 1
    match fromBeBytes hi lo with
    | 0x0001 | 0x0002 | 0x0003 | 0x000A | 0x000B | 0x000C | 0x000D | 0x000E | 0x000F
    | 0x0010 | 0x0011 | 0x0012 | 0x0014 => .ok (some 5)
    | _ => .error (indeterminate 0x08)

/-- The loop over the objects, `n` of them left. -/
def addObjectLengths (src : List UInt8) : Nat → Nat → PduLength
  | 0, pduLen => .ok (some pduLen)
  | n + 1, pduLen =>
    let objectAduIndex := 1 + pduLen
    readRange src objectAduIndex (objectAduIndex + 2) fun header => do
      let valueLen ← index header 1
      let pduLen := pduLen + (2 + valueLen.toNat)
      validateStrictPduLength pduLen
      addObjectLengths src n pduLen

def meiResponsePduLength (src : List UInt8) : PduLength :=
  readAt src 2 fun meiType =>
    if meiType ≠ 0x0E then .error (indeterminate 0x2B)
    else
      readAt src 7 fun objectCount => do
        let pduLen := 7
        let minimum := pduLen + objectCount.toNat * 2
        validateStrictPduLength minimum
        addObjectLengths src objectCount.toNat pduLen

def standardPduLength (functionCode : UInt8) (direction : Direction) (src : List UInt8) :
    PduLength :=
  if functionCode &&& 0x80 ≠ 0 then
    match direction with
    | .response =>
      if strictSupportsStandardBaseFunction (functionCode &&& 0x7F) then .ok (some 2)
      else .error (indeterminate functionCode)
    | .request => .error (indeterminate functionCode)
  else
    match functionCode, direction with
    | 0x01, .request | 0x02, .request | 0x03, .request | 0x04, .request
    | 0x05, _ | 0x06, _
    | 0x0B, .response | 0x0F, .response | 0x10, .response => .ok (some 5)
    | 0x01, .response | 0x02, .response | 0x03, .response | 0x04, .response
    | 0x0C, .response | 0x11, .response | 0x17, .response
    | 0x14, _ | 0x15, _ => pduLengthFromU8Count src 2 2
    | 0x07, .request | 0x0B, .request | 0x0C, .request | 0x11, .request => .ok (some 1)
    | 0x07, .response => .ok (some 2)
    | 0x08, _ => diagnosticPduLength src
    | 0x0F, .request | 0x10, .request => pduLengthFromU8Count src 6 6
    | 0x16, _ => .ok (some 7)
    | 0x17, .request => pduLengthFromU8Count src 10 10
    | 0x18, .request => .ok (some 3)
    | 0x18, .response => pduLengthFromU16Count src 3 2
    | 0x2B, .request => meiRequestPduLength src
    | 0x2B, .response => meiResponsePduLength src
    | _, _ => .error (indeterminate functionCode)

def strictPduLength (src : List UInt8) (direction : Direction) : PduLength := do
  let functionCode ← index src 1
  standardPduLength functionCode direction src

def decodeStrict (direction : Direction) (src : List UInt8) : DecodeResult :=
  if src.length < 2 then (.ok none, src)
  else
    match strictPduLength src direction with
    | .error e => (.error e, src)
    | .ok none =>
      if src.length ≥ maxRtuAduSize then (.error (.error .truncated), src) else (.ok none, src)
    | .ok (some pduLen) =>
      match validateStrictPduLength pduLen with
      | .error e => (.error e, src)
      | .ok () =>
        let aduLen := pduLen + 3
        if src.length < aduLen then (.ok none, src)
        else
          match checkStrictCrc src aduLen with
          | .error e => (.error e, src)
          | .ok () =>
            match splitFrame src aduLen with
            | .error e => (.error e, src)
            | .ok (frame, src) => (.ok (some frame), src)

/-! ## The indexes are in bounds -/

variable {src : List UInt8}

/-- A range of two has two bytes. -/
theorem readRange_two (src : List UInt8) (i : Nat) (next : List UInt8 → PduLength) :
    readRange src i (i + 2) next
      = readAt src i fun a => readAt src (i + 1) fun b => next [a, b] := by
  unfold readRange readAt
  by_cases hlen : i + 2 ≤ src.length
  · have hpair : (src.take (i + 2)).drop i = [src[i], src[i + 1]] := by
      rw [List.drop_take, List.drop_eq_getElem_cons (by omega),
        List.drop_eq_getElem_cons (by omega), show i + 2 - i = 2 by omega]
      rfl
    rw [if_pos ⟨by omega, hlen⟩, hpair, List.getElem?_eq_getElem (show i < src.length by omega)]
    dsimp only
    rw [List.getElem?_eq_getElem (show i + 1 < src.length by omega)]
  · have hnone : src[i + 1]? = none := List.getElem?_eq_none (by omega)
    rw [if_neg fun h => hlen h.2]
    split
    next => rfl
    next => rw [hnone]

theorem pduLengthFromU16Count_eq (src : List UInt8) (base i : Nat) :
    pduLengthFromU16Count src base i = RustyModbus.pduLengthFromU16Count src base i := by
  rw [pduLengthFromU16Count, readRange_two]
  rfl

theorem diagnosticPduLength_eq (src : List UInt8) :
    diagnosticPduLength src = RustyModbus.diagnosticPduLength src := by
  rw [diagnosticPduLength, readRange_two]
  rfl

theorem addObjectLengths_eq (src : List UInt8) (n pduLen : Nat) :
    addObjectLengths src n pduLen = RustyModbus.addObjectLengths src n pduLen := by
  induction n generalizing pduLen with
  | zero => rfl
  | succ n ih =>
    rw [addObjectLengths, readRange_two, RustyModbus.addObjectLengths]
    simp only [← ih]
    rfl

theorem meiResponsePduLength_eq (src : List UInt8) :
    meiResponsePduLength src = RustyModbus.meiResponsePduLength src := by
  simp only [meiResponsePduLength, addObjectLengths_eq]
  rfl

theorem standardPduLength_eq (functionCode : UInt8) (direction : Direction) (src : List UInt8) :
    standardPduLength functionCode direction src
      = RustyModbus.standardPduLength functionCode direction src := by
  unfold standardPduLength
  rw [diagnosticPduLength_eq, pduLengthFromU16Count_eq, meiResponsePduLength_eq]
  rfl

theorem strictPduLength_eq (src : List UInt8) (direction : Direction) :
    strictPduLength src direction = RustyModbus.strictPduLength src direction := by
  unfold strictPduLength RustyModbus.strictPduLength
  simp only [standardPduLength_eq]

theorem decodeStrict_eq (direction : Direction) (src : List UInt8) :
    decodeStrict direction src = RustyModbus.decodeStrict direction src := by
  rw [decodeStrict, strictPduLength_eq]
  rfl

end Checked

/-! ## The decoder decides -/

section

variable {direction : Direction} {src : List UInt8}

theorem parseStrict_error {adu : List UInt8} {e : Fault FrameError}
    (h : parseStrict adu = .error e) : e ≠ .panic ∧ e ≠ .error .truncated := by
  rw [parseStrict, checkAduCrc, rejectIf] at h
  split at h
  · cases h
    constructor <;> intro heq <;> cases heq
  · cases h

theorem decodeStrict_error {e : Fault FrameError} {rest : List UInt8}
    (h : decodeStrict direction src = (.error e, rest)) : e ≠ .panic ∧ e ≠ .error .truncated := by
  have hproper := proper_strictAduLength direction src
  rw [decodeStrict_eq_lengthDecode, lengthDecode] at h
  split at h
  next heq =>
    cases h
    rw [heq] at hproper
    exact hproper
  next => cases h
  next =>
    split at h
    next => cases h
    next =>
      split at h
      next hparse =>
        cases h
        exact parseStrict_error hparse
      next => cases h

theorem decodeStrict_ne_none (hlen : 256 ≤ src.length) (rest : List UInt8) :
    decodeStrict direction src ≠ (.ok none, rest) := by
  intro h
  rw [decodeStrict_eq_lengthDecode, lengthDecode] at h
  split at h
  next => cases h
  next heq => exact (settled_strictAduLength direction).decides src hlen heq
  next heq =>
    have hmax := (strictAduLength_bounds heq).2
    rw [if_neg (by omega)] at h
    split at h <;> cases h

theorem strictPduLength_ne_none (hlen : 256 ≤ src.length) :
    strictPduLength src direction ≠ .ok none := by
  rw [strictPduLength, index_eq_ok (show 1 < src.length by omega)]
  exact (settled_standardPduLength _ direction).decides src hlen

/-- A buffer of a maximal ADU is answered by a frame or by an error of the frame. -/
theorem decodeStrict_decides (hlen : 256 ≤ src.length) :
    (∃ frame rest, decodeStrict direction src = (.ok (some frame), rest)) ∨
      ∃ e, decodeStrict direction src = (.error (.error e), src) := by
  rcases h : decodeStrict direction src with ⟨_ | _ | _, rest⟩
  case error e =>
    obtain rfl := (strictDecoder direction).keeps_error src e rest h
    cases e with
    | panic => exact absurd rfl (decodeStrict_error h).1
    | error e => exact Or.inr ⟨e, rfl⟩
  case ok.none => exact absurd h (decodeStrict_ne_none hlen rest)
  case ok.some frame => exact Or.inl ⟨frame, rest, rfl⟩

/-- What follows a maximal ADU does not matter. -/
theorem decodeStrict_take (hlen : 256 ≤ src.length) :
    (decodeStrict direction src).1 = (decodeStrict direction (src.take 256)).1 := by
  have htake : 256 ≤ (src.take 256).length := by
    rw [List.length_take]
    omega
  have happend : src = src.take 256 ++ src.drop 256 := (List.take_append_drop 256 src).symm
  rcases @decodeStrict_decides direction _ htake with ⟨frame, rest, h⟩ | ⟨e, h⟩
  · have hfinal := (strictDecoder direction).final_frame _ _ _ (src.drop 256) h
    rw [← happend] at hfinal
    exact (congrArg Prod.fst hfinal).trans (congrArg Prod.fst h).symm
  · have hfinal := (strictDecoder direction).final_error _ _ _ (src.drop 256) h
    rw [← happend] at hfinal
    exact (congrArg Prod.fst hfinal).trans (congrArg Prod.fst h).symm

end

/-- What is asked of strict framing on a buffer of any length, and on one that holds a maximal
ADU. -/
structure StrictlyFramed (direction : Direction) (src : List UInt8) : Prop where
  /-- No index and no slice is out of bounds. -/
  inBounds : (Checked.decodeStrict direction src).1 ≠ .error .panic
  /-- The branch for an unknown length is dead: it is the only one to say `Truncated`. -/
  notTruncated : (Checked.decodeStrict direction src).1 ≠ .error (.error .truncated)
  known : maxRtuAduSize ≤ src.length → Checked.strictPduLength src direction ≠ .ok none
  decides : maxRtuAduSize ≤ src.length →
    (∃ frame rest, Checked.decodeStrict direction src = (.ok (some frame), rest)) ∨
      ∃ e, Checked.decodeStrict direction src = (.error (.error e), src)
  /-- Nothing behind a maximal ADU is looked at. -/
  maximal : maxRtuAduSize ≤ src.length →
    (Checked.decodeStrict direction src).1
      = (Checked.decodeStrict direction (src.take maxRtuAduSize)).1

theorem strict_framing_decides (direction : Direction) (src : List UInt8) :
    StrictlyFramed direction src := by
  have herror : ∀ e, (decodeStrict direction src).1 = .error e →
      e ≠ .panic ∧ e ≠ .error .truncated :=
    fun e h => decodeStrict_error (Prod.ext h rfl)
  constructor
  · rw [Checked.decodeStrict_eq]
    exact fun h => (herror _ h).1 rfl
  · rw [Checked.decodeStrict_eq]
    exact fun h => (herror _ h).2 rfl
  · rw [Checked.strictPduLength_eq]
    exact strictPduLength_ne_none
  · rw [Checked.decodeStrict_eq]
    exact decodeStrict_decides
  · rw [Checked.decodeStrict_eq, Checked.decodeStrict_eq]
    exact decodeStrict_take

end RustyModbus
