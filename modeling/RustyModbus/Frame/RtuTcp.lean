import RustyModbus.Frame.Crc
import RustyModbus.Frame.Mbap

/-!
# RTU frames over TCP

The RTU frame has no length field, and on a TCP connection there are no silences to end it.
Two policies find the boundary. The compatibility decoder tries every length from 4 to 256
bytes and takes the first at which the checksum matches. The strict decoder derives the length
from the function code, the direction and, where the function has one, a count in the message;
it refuses functions for which that is impossible.

Both are length functions followed by a split, so both answer finally. For the compatibility
decoder the scan with its running checksum is shown to find the first prefix that verifies
(`FirstValid`). Every indexed access and slice of the strict path is modelled with its panic.
-/

namespace RustyModbus

open Wire

def minRtuFrame : Nat := 4

inductive Direction
  | request
  | response
deriving DecidableEq, Repr

/-! ## Splitting off a frame -/

/-- `src.split_to(n)`, which panics past the end. -/
def splitTo (src : List UInt8) (n : Nat) : Except (Fault FrameError) (List UInt8 × List UInt8) :=
  if n ≤ src.length then .ok (src.take n, src.drop n) else .error .panic

/-- `list[start..end]` and `bytes.slice(start..end)`. -/
def slice (l : List UInt8) (start finish : Nat) : Except (Fault FrameError) (List UInt8) :=
  if start ≤ finish ∧ finish ≤ l.length then .ok ((l.take finish).drop start)
  else .error .panic

def splitFrame (src : List UInt8) (aduLen : Nat) :
    Except (Fault FrameError) (Frame × List UInt8) := do
  let unitId ← index src 0
  let (adu, src) ← splitTo src aduLen
  let pdu ← slice adu 1 (adu.length - 2)
  return ({ header := .rtu unitId, pdu }, src)

/-- The frame in a complete ADU. -/
def rtuFrame (adu : List UInt8) : Frame :=
  { header := .rtu adu[0]!, pdu := (adu.take (adu.length - 2)).drop 1 }

variable {src : List UInt8}

theorem splitFrame_eq {n : Nat} (h3 : 3 ≤ n) (hn : n ≤ src.length) :
    splitFrame src n = .ok (rtuFrame (src.take n), src.drop n) := by
  have hlen : (src.take n).length = n := by
    rw [List.length_take]
    omega
  have h0 : (index src 0 : Except (Fault FrameError) UInt8) = .ok (src.take n)[0]! := by
    rw [index, List.getElem?_eq_getElem (show 0 < src.length by omega),
      getElem!_pos (src.take n) 0 (by omega), List.getElem_take]
    rfl
  have hslice : slice (src.take n) 1 ((src.take n).length - 2)
      = .ok (((src.take n).take ((src.take n).length - 2)).drop 1) :=
    if_pos ⟨by omega, by omega⟩
  rw [splitFrame, h0, splitTo, if_pos hn]
  show (do let pdu ← slice (src.take n) 1 ((src.take n).length - 2); _) = _
  rw [hslice]
  rfl

/-! ## The compatibility decoder -/

/-- The scan over candidate lengths, `n` of them left. `crc` is the running checksum. -/
def scanCandidates (src : List UInt8) (maxLen : Nat) : Nat → Nat → UInt16 → Option Nat
  | 0, _, _ => none
  | n + 1, candidateLen, crc =>
    let dataEnd := candidateLen - 2
    let actual := fromLeBytes src[dataEnd]! src[dataEnd + 1]!
    if crc = actual then some candidateLen
    else
      let crc := if candidateLen < maxLen then crc16Update crc src[dataEnd]! else crc
      scanCandidates src maxLen n (candidateLen + 1) crc

def decodeCompatibility (src : List UInt8) : DecodeResult :=
  if src.length < minRtuFrame then (.ok none, src)
  else
    let maxLen := min src.length maxRtuAduSize
    let crc := crc16Update 0xFFFF src[0]!
    let crc := crc16Update crc src[1]!
    match scanCandidates src maxLen (maxLen + 1 - minRtuFrame) minRtuFrame crc with
    | some candidateLen =>
      match splitFrame src candidateLen with
      | .error e => (.error e, src)
      | .ok (frame, src) => (.ok (some frame), src)
    | none =>
      if src.length ≥ maxRtuAduSize then (.error (.error .truncated), src)
      else (.ok none, src)

/-- The shortest prefix of legal length that verifies. -/
structure FirstValid (src : List UInt8) (k : Nat) : Prop where
  min : 4 ≤ k
  max : k ≤ 256
  le : k ≤ src.length
  verifies : verifyCrc (src.take k) = true
  first : ∀ j, 4 ≤ j → j < k → verifyCrc (src.take j) = false

/-- With the checksum of the bytes before the last two at hand, a comparison verifies a
prefix. -/
theorem verifyCrc_take {k : Nat} (hk : 3 ≤ k) (hle : k ≤ src.length) :
    verifyCrc (src.take k) = true ↔
      crc16 (src.take (k - 2)) = fromLeBytes src[k - 2]! src[k - 2 + 1]! := by
  have hlen : (src.take k).length = k := by
    rw [List.length_take]
    omega
  have hget : ∀ i, i < k → (src.take k)[i]! = src[i]! := by
    intro i hi
    rw [getElem!_pos (src.take k) i (by omega), getElem!_pos src i (by omega), List.getElem_take]
  unfold verifyCrc
  rw [if_neg (by omega)]
  simp only [hlen, List.take_take, beq_iff_eq]
  rw [hget _ (by omega), hget _ (by omega), Nat.min_eq_left (by omega)]

/-- The scan finds the first candidate that verifies. The invariant of the loop: the running
checksum is that of the bytes before the last two of the candidate. -/
theorem scanCandidates_eq {maxLen : Nat} (hmax : maxLen ≤ src.length) :
    ∀ (n c : Nat) (crc : UInt16), 4 ≤ c → c + n = maxLen + 1 →
      (c ≤ maxLen → crc = crc16 (src.take (c - 2))) →
      (scanCandidates src maxLen n c crc = none ∧
        ∀ j, c ≤ j → j ≤ maxLen → verifyCrc (src.take j) = false) ∨
      (∃ k, scanCandidates src maxLen n c crc = some k ∧ c ≤ k ∧ k ≤ maxLen ∧
        verifyCrc (src.take k) = true ∧ ∀ j, c ≤ j → j < k → verifyCrc (src.take j) = false)
  | 0, c, crc, hc, hn, _ => Or.inl ⟨rfl, fun j hj hj' => by omega⟩
  | n + 1, c, crc, hc, hn, hcrc => by
    have hiff : verifyCrc (src.take c) = true ↔ _ := verifyCrc_take (by omega) (by omega)
    obtain rfl := hcrc (by omega)
    unfold scanCandidates
    dsimp only
    split
    · next heq =>
        exact Or.inr ⟨c, rfl, Nat.le_refl c, by omega, hiff.mpr heq, fun j hj hj' => by omega⟩
    · next hne =>
        have hfalse : verifyCrc (src.take c) = false := by
          rw [← Bool.not_eq_true, hiff]
          exact hne
        have hstep := scanCandidates_eq hmax n (c + 1)
          (if c < maxLen then crc16Update (crc16 (src.take (c - 2))) src[c - 2]!
            else crc16 (src.take (c - 2))) (by omega) (by omega) (by
              intro hle
              rw [if_pos (by omega), ← crc16_concat, getElem!_pos src (c - 2) (by omega),
                List.take_append_getElem, show c + 1 - 2 = c - 2 + 1 by omega])
        have hbelow : ∀ j, c ≤ j → j = c ∨ c + 1 ≤ j := fun j hj => by omega
        rcases hstep with ⟨hnone, hall⟩ | ⟨k, hsome, hk, hk', hver, hall⟩
        · refine Or.inl ⟨hnone, fun j hj hj' => ?_⟩
          rcases hbelow j hj with rfl | hj
          · exact hfalse
          · exact hall j hj hj'
        · refine Or.inr ⟨k, hsome, by omega, hk', hver, fun j hj hj' => ?_⟩
          rcases hbelow j hj with rfl | hj
          · exact hfalse
          · exact hall j hj hj'

/-- The decision of the compatibility decoder about the length. -/
def compatibilityLength (src : List UInt8) : Except (Fault FrameError) (Option Nat) :=
  if src.length < minRtuFrame then .ok none
  else
    let maxLen := min src.length maxRtuAduSize
    let crc := crc16Update (crc16Update 0xFFFF src[0]!) src[1]!
    match scanCandidates src maxLen (maxLen + 1 - minRtuFrame) minRtuFrame crc with
    | some candidateLen => .ok (some candidateLen)
    | none => if src.length ≥ maxRtuAduSize then .error (.error .truncated) else .ok none

/-- The decision is a frame at the first prefix that verifies; failing that, to wait, or
from 256 bytes on to give up. -/
theorem compatibilityLength_cases (src : List UInt8) :
    (∃ k, compatibilityLength src = .ok (some k) ∧ FirstValid src k) ∨
    ((∀ k, ¬FirstValid src k) ∧ compatibilityLength src =
      if 256 ≤ src.length then .error (.error .truncated) else .ok none) := by
  unfold compatibilityLength
  by_cases h4 : src.length < minRtuFrame
  · have h4' : src.length < 4 := h4
    refine Or.inr ⟨fun k hk => ?_, ?_⟩
    · have := hk.min
      have := hk.le
      omega
    · rw [if_pos h4, if_neg (by omega)]
  · have h4' : ¬src.length < 4 := h4
    have hmax : min src.length maxRtuAduSize = min src.length 256 := rfl
    have hcrc : crc16Update (crc16Update 0xFFFF src[0]!) src[1]! = crc16 (src.take (4 - 2)) := by
      rcases src with _ | ⟨a, _ | ⟨b, l⟩⟩
      · exact absurd (by decide) h4'
      · exact absurd (show 1 < 4 by decide) h4'
      · rfl
    rw [if_neg h4]
    dsimp only
    have hle : min src.length maxRtuAduSize ≤ src.length := Nat.min_le_left _ _
    rcases scanCandidates_eq hle (min src.length maxRtuAduSize + 1 - minRtuFrame) minRtuFrame _
        (Nat.le_refl 4) (by show 4 + (_ + 1 - 4) = _; omega) (fun _ => hcrc) with
      ⟨hnone, hall⟩ | ⟨k, hsome, hk, hk', hver, hall⟩
    · refine Or.inr ⟨fun k hk => ?_, ?_⟩
      · have hle := hk.le
        have hmax' := hk.max
        have := hall k hk.min (by omega)
        rw [hk.verifies] at this
        cases this
      · rw [hnone]
        rfl
    · refine Or.inl ⟨k, ?_, hk, by omega, by omega, hver, hall⟩
      rw [hsome]

namespace FirstValid

variable {src more : List UInt8} {k : Nat}

/-- Whether a prefix is the first that verifies depends on that prefix only. -/
theorem append_iff (hk : k ≤ src.length) : FirstValid (src ++ more) k ↔ FirstValid src k := by
  have htake : ∀ j, j ≤ k → (src ++ more).take j = src.take j :=
    fun j hj => List.take_append_of_le_length (by omega)
  refine ⟨fun h => ⟨h.min, h.max, hk, ?_, ?_⟩, fun h => ⟨h.min, h.max, ?_, ?_, ?_⟩⟩
  · rw [← htake k (Nat.le_refl k)]
    exact h.verifies
  · intro j hj hlt
    rw [← htake j (by omega)]
    exact h.first j hj hlt
  · rw [List.length_append]
    omega
  · rw [htake k (Nat.le_refl k)]
    exact h.verifies
  · intro j hj hlt
    rw [htake j (by omega)]
    exact h.first j hj hlt

theorem unique {j : Nat} (hj : FirstValid src j) (hk : FirstValid src k) : j = k := by
  rcases Nat.lt_trichotomy j k with hlt | heq | hlt
  · exact absurd hj.verifies (by simp [hk.first j hj.min hlt])
  · exact heq
  · exact absurd hk.verifies (by simp [hj.first k hk.min hlt])

/-- If some prefix of legal length verifies, one is the first. -/
theorem exists_le {j : Nat} (h4 : 4 ≤ j) (h256 : j ≤ 256) (hle : j ≤ src.length)
    (hver : verifyCrc (src.take j) = true) : ∃ k, k ≤ j ∧ FirstValid src k := by
  induction j using Nat.strongRecOn with
  | ind j ih =>
    by_cases hsmaller : ∃ i, i < j ∧ 4 ≤ i ∧ verifyCrc (src.take i) = true
    · obtain ⟨i, hij, hi4, hiver⟩ := hsmaller
      obtain ⟨k, hk, hfirst⟩ := ih i hij hi4 (by omega) (by omega) hiver
      exact ⟨k, by omega, hfirst⟩
    · refine ⟨j, Nat.le_refl j, h4, h256, hle, hver, fun i hi hij => ?_⟩
      rw [← Bool.not_eq_true]
      exact fun hiver => hsmaller ⟨i, hij, hi, hiver⟩

theorem compatibilityLength_eq (h : FirstValid src k) : compatibilityLength src = .ok (some k) := by
  rcases compatibilityLength_cases src with ⟨j, heq, hj⟩ | ⟨hnone, -⟩
  · rw [heq, hj.unique h]
  · exact absurd h (hnone k)

theorem of_compatibilityLength (h : compatibilityLength src = .ok (some k)) : FirstValid src k := by
  rcases compatibilityLength_cases src with ⟨j, heq, hj⟩ | ⟨-, hif⟩
  · rw [heq] at h
    cases h
    exact hj
  · rw [hif] at h
    split at h <;> cases h

end FirstValid

theorem settled_compatibilityLength : Stream.Settled compatibilityLength := by
  intro src more h
  rcases compatibilityLength_cases src with ⟨k, heq, hk⟩ | ⟨hnone, hif⟩
  · rw [heq, ((FirstValid.append_iff hk.le).mpr hk).compatibilityLength_eq]
  · -- an error is given only from 256 bytes on, and no candidate is longer
    have h256 : 256 ≤ src.length := Decidable.byContradiction fun hlt => h (by rw [hif, if_neg hlt])
    rcases compatibilityLength_cases (src ++ more) with ⟨k, -, hk⟩ | ⟨-, hif'⟩
    · exact absurd ((FirstValid.append_iff (Nat.le_trans hk.max h256)).mp hk) (hnone k)
    · rw [hif, hif', if_pos h256, if_pos (by rw [List.length_append]; omega)]

theorem decodeCompatibility_eq_lengthDecode (src : List UInt8) :
    decodeCompatibility src
      = Stream.lengthDecode compatibilityLength (fun adu => .ok (rtuFrame adu)) src := by
  unfold decodeCompatibility Stream.lengthDecode
  by_cases h4 : src.length < minRtuFrame
  · rw [if_pos h4, compatibilityLength, if_pos h4]
  have hvalid := @FirstValid.of_compatibilityLength src
  rw [compatibilityLength, if_neg h4] at hvalid ⊢
  rw [if_neg h4]
  dsimp only at hvalid ⊢
  split
  · next k hk =>
      rw [hk] at hvalid
      have hfirst := hvalid rfl
      dsimp only
      rw [splitFrame_eq (Nat.le_trans (by decide) hfirst.min) hfirst.le,
        if_neg (Nat.not_lt.mpr hfirst.le)]
  · split <;> rfl

/-- The compatibility decoder answers finally. -/
def compatibilityDecoder : Stream.Decoder UInt8 Frame (Fault FrameError) :=
  Stream.Decoder.ofLength decodeCompatibility decodeCompatibility_eq_lengthDecode rfl
    (fun _ _ h => Nat.lt_of_lt_of_le (by decide) (FirstValid.of_compatibilityLength h).min)
    settled_compatibilityLength

/-- It takes off the first prefix that verifies. -/
theorem FirstValid.decodeCompatibility_eq {k : Nat} (h : FirstValid src k) :
    decodeCompatibility src = (.ok (some (rtuFrame (src.take k))), src.drop k) := by
  rw [decodeCompatibility_eq_lengthDecode]
  exact Stream.lengthDecode_eq_frame.mpr ⟨k, h.compatibilityLength_eq, h.le, rfl, rfl⟩

/-! ## Encoding -/

def validateOutgoingPdu (pduLen : Nat) : Except FrameError Unit := do
  rejectIf (pduLen < 1) (.invalidPduLength pduLen 1)
  rejectIf (pduLen > maxPduSize) (.pduLengthOverflow pduLen maxPduSize)

def encodeFrame (item : Frame) (dst : List UInt8) : Except FrameError Unit × List UInt8 :=
  let unitId := item.unitId
  match validateOutgoingPdu item.pdu.length with
  | .error e => (.error e, dst)
  | .ok () =>
    let dst := dst ++ [unitId]
    let dst := dst ++ item.pdu
    let crcStart := dst.length - 1 - item.pdu.length
    let crc := crc16 (dst.drop crcStart)
    (.ok (), dst ++ toLeBytes crc)

/-- The RTU ADU: unit identifier, PDU, checksum. -/
def rtuAdu (unitId : UInt8) (pdu : List UInt8) : List UInt8 := withCrc (unitId :: pdu)

@[simp] theorem rtuAdu_length (unitId : UInt8) (pdu : List UInt8) :
    (rtuAdu unitId pdu).length = pdu.length + 3 := by
  rw [rtuAdu, withCrc_length, List.length_cons]

theorem verifyCrc_rtuAdu (unitId : UInt8) (pdu : List UInt8) :
    verifyCrc (rtuAdu unitId pdu) = true :=
  verifyCrc_iff.mpr ⟨unitId :: pdu, nofun, rfl⟩

theorem rtuFrame_rtuAdu (unitId : UInt8) (pdu : List UInt8) :
    rtuFrame (rtuAdu unitId pdu) = ⟨.rtu unitId, pdu⟩ := by
  have htake : (rtuAdu unitId pdu).take (pdu.length + 1) = unitId :: pdu := by
    unfold rtuAdu withCrc
    exact List.take_left' rfl
  rw [rtuFrame, rtuAdu_length, show pdu.length + 3 - 2 = pdu.length + 1 from rfl, htake]
  rfl

theorem encodeFrame_eq {f : Frame} (h1 : 1 ≤ f.pdu.length) (h253 : f.pdu.length ≤ 253)
    (dst : List UInt8) : encodeFrame f dst = (.ok (), dst ++ rtuAdu f.unitId f.pdu) := by
  have hvalid : validateOutgoingPdu f.pdu.length = .ok () := by
    simp only [validateOutgoingPdu, check_bind_eq_ok, rejectIf_eq_ok]
    exact ⟨by omega, by show ¬253 < f.pdu.length; omega⟩
  have hdrop : (dst ++ [f.unitId] ++ f.pdu).drop
      ((dst ++ [f.unitId] ++ f.pdu).length - 1 - f.pdu.length) = f.unitId :: f.pdu := by
    rw [List.append_assoc]
    exact List.drop_left' (by simp)
  unfold encodeFrame
  rw [hvalid]
  dsimp only
  rw [hdrop]
  simp [rtuAdu, withCrc]

/-- A refused frame leaves the destination alone. -/
theorem encodeFrame_error {f : Frame} {dst dst' : List UInt8} {e : FrameError}
    (h : encodeFrame f dst = (.error e, dst')) : dst' = dst := by
  unfold encodeFrame at h
  dsimp only at h
  split at h
  · cases h
    rfl
  · cases h

end RustyModbus
