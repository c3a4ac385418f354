import RustyModbus.Frame.Crc
import RustyModbus.Lib.Bits
import RustyModbus.Lib.Lfsr

/-!
# What the checksum finds

The table takes a byte at a time where the definition of the checksum takes a bit at a time; both
are the register of `Lfsr` with the polynomial `0xA001`. A frame verifies if and only if it leaves
the register empty, so a frame and a damaged copy of it verify both only if the difference between
them leaves an empty register empty. No difference within 16 bits does, and none of an odd number
of bits. A difference in two bits would have to come at a distance after which the register is back
at its start, and that is not so for any distance within 256 bytes.
-/

namespace RustyModbus

open Wire

/-! ## One bit at a time -/

/-- The bits of a byte in the order they are sent. -/
def byteBits (b : UInt8) : List Bool := (List.range 8).map (bit b)

/-- The bits of a message, the least significant bit of each byte first. -/
def messageBits (data : List UInt8) : List Bool := data.flatMap byteBits

/-- The reflected checksum of one bit: it is added to the low end of the register, which is then
shifted, with the polynomial added if the bit that falls out is set. -/
def crcBit (crc : UInt16) (b : Bool) : UInt16 :=
  let crc := crc ^^^ (if b then 1 else 0)
  if crc &&& 1 = 1 then (crc >>> 1) ^^^ 0xA001 else crc >>> 1

def crc16Bitwise (data : List UInt8) : UInt16 := (messageBits data).foldl crcBit 0xFFFF

@[simp] theorem length_byteBits (b : UInt8) : (byteBits b).length = 8 := by
  simp [byteBits]

theorem getElem?_byteBits (b : UInt8) {i : Nat} (h : i < 8) : (byteBits b)[i]? = some (bit b i) := by
  rw [byteBits, List.getElem?_map, List.getElem?_range h]
  rfl

@[simp] theorem messageBits_cons (b : UInt8) (data : List UInt8) :
    messageBits (b :: data) = byteBits b ++ messageBits data := rfl

theorem messageBits_append (data data' : List UInt8) :
    messageBits (data ++ data') = messageBits data ++ messageBits data' :=
  List.flatMap_append

@[simp] theorem length_messageBits (data : List UInt8) :
    (messageBits data).length = 8 * data.length := by
  induction data with
  | nil => rfl
  | cons b data ih =>
    rw [messageBits_cons, List.length_append, length_byteBits, ih, List.length_cons]
    omega

/-- Messages of one length with the same bits are equal. -/
theorem messageBits_inj {data data' : List UInt8} (hlen : data.length = data'.length)
    (h : messageBits data = messageBits data') : data = data' := by
  induction data generalizing data' with
  | nil => exact (List.length_eq_zero_iff.mp hlen.symm).symm
  | cons b data ih =>
    cases data' with
    | nil => cases hlen
    | cons b' data' =>
      rw [messageBits_cons, messageBits_cons] at h
      obtain ⟨hbyte, hrest⟩ := List.append_inj h (by simp)
      have hb : b = b' := byte_ext fun i hi => by
        have hbit := congrArg (fun l => l[i]?) hbyte
        simp only [getElem?_byteBits _ hi, Option.some.injEq] at hbit
        exact hbit
      rw [hb, ih (Nat.succ.inj hlen) hrest]

/-! ## The register -/

/-- `0xA001` as a bit vector. -/
def crcPoly : BitVec 16 := 0xA001#16

theorem msb_crcPoly : crcPoly.msb = true := by decide

theorem and_one_ne_zero (crc : UInt16) : crc &&& 1 ≠ 0 ↔ crc.toBitVec.getLsbD 0 = true := by
  rw [Ne, ← UInt16.toBitVec_inj, UInt16.toBitVec_and]
  show ¬(crc.toBitVec &&& 1#16 = 0#16) ↔ _
  rw [BitVec.and_one_eq_setWidth_ofBool_getLsbD]
  cases crc.toBitVec.getLsbD 0 <;> decide

theorem toBitVec_crcShift (crc : UInt16) :
    (crcShift crc).toBitVec = Lfsr.shift crcPoly crc.toBitVec := by
  unfold crcShift Lfsr.shift
  by_cases h : crc &&& 1 ≠ 0
  · rw [if_pos h, if_pos ((and_one_ne_zero crc).mp h)]
    rfl
  · rw [if_neg h, if_neg fun hbit => h ((and_one_ne_zero crc).mpr hbit)]
    rfl

theorem toBitVec_crcBit (crc : UInt16) (b : Bool) :
    (crcBit crc b).toBitVec = Lfsr.feedBit crcPoly crc.toBitVec b := by
  have hlow : (crc ^^^ (if b then 1 else 0)).toBitVec = crc.toBitVec ^^^ Lfsr.low b := by
    cases b <;> rfl
  have hone : ∀ c : UInt16, c &&& 1 = 1 ↔ c &&& 1 ≠ 0 := by
    intro c
    rw [and_one_ne_zero, ← UInt16.toBitVec_inj, UInt16.toBitVec_and]
    show c.toBitVec &&& 1#16 = 1#16 ↔ _
    rw [BitVec.and_one_eq_setWidth_ofBool_getLsbD]
    cases c.toBitVec.getLsbD 0 <;> decide
  rw [Lfsr.feedBit, ← hlow, ← toBitVec_crcShift, crcBit, crcShift]
  simp only [hone]

theorem toBitVec_crcTable (index : UInt16) :
    (crcTable index).toBitVec = (Lfsr.shift crcPoly)^[8] index.toBitVec := by
  have hrepeat : ∀ n, (Nat.repeat crcShift n index).toBitVec
      = (Lfsr.shift crcPoly)^[n] index.toBitVec := by
    intro n
    induction n with
    | zero => rfl
    | succ n ih =>
      rw [Function.iterate_succ_apply', ← ih, ← toBitVec_crcShift]
      rfl
  exact hrepeat 8

theorem word_byteBits (b : UInt8) :
    (Lfsr.word (byteBits b) : BitVec 16) = b.toBitVec.setWidth 16 := by
  apply BitVec.eq_of_getLsbD_eq
  intro i hi
  rw [Lfsr.getLsbD_word, BitVec.getLsbD_setWidth, List.getD_eq_getElem?_getD]
  by_cases h : i < 8
  · rw [getElem?_byteBits b h]
    rfl
  · rw [List.getElem?_eq_none (by simpa using h)]
    exact congrArg _ (bit_of_ge (Nat.not_lt.mp h)).symm

/-- The table does for a byte what the register does for its bits. -/
theorem toBitVec_crc16Update (crc : UInt16) (b : UInt8) :
    (crc16Update crc b).toBitVec = Lfsr.feed crcPoly crc.toBitVec (byteBits b) := by
  have hb : b.toBitVec.setWidth 16 >>> 8 = 0#16 := by
    apply BitVec.eq_of_getLsbD_eq
    intro i _
    rw [BitVec.getLsbD_ushiftRight, BitVec.getLsbD_setWidth, BitVec.getLsbD_zero]
    simp
  have hmask : ∀ i, (0xFF#16).getLsbD i = decide (i < 8) := by
    intro i
    by_cases h : i < 16
    · have hall : ∀ i : Fin 16, (0xFF#16).getLsbD i = decide (i.val < 8) := by decide
      exact hall ⟨i, h⟩
    · rw [BitVec.getLsbD_of_ge _ _ (Nat.not_lt.mp h), decide_eq_false (by omega)]
  rw [Lfsr.feed_word _ _ (by simp), length_byteBits, word_byteBits,
    Lfsr.iterate_shift_split crcPoly 8
      ((crc.toBitVec ^^^ b.toBitVec.setWidth 16) &&& 0xFF#16),
    BitVec.ushiftRight_xor_distrib, hb, BitVec.xor_zero]
  · show (crc >>> 8).toBitVec ^^^ (crcTable ((crc ^^^ b.toUInt16) &&& 0xFF)).toBitVec = _
    rw [toBitVec_crcTable]
    rfl
  · intro i hi
    rw [BitVec.getLsbD_and, hmask, decide_eq_true hi, Bool.and_true]
  · apply BitVec.eq_of_getLsbD_eq
    intro i _
    rw [BitVec.getLsbD_ushiftRight, BitVec.getLsbD_and, hmask, decide_eq_false (by omega),
      Bool.and_false, BitVec.getLsbD_zero]

theorem toBitVec_foldl_crc16Update (crc : UInt16) (data : List UInt8) :
    (data.foldl crc16Update crc).toBitVec
      = Lfsr.feed crcPoly crc.toBitVec (messageBits data) := by
  induction data generalizing crc with
  | nil => rfl
  | cons b data ih =>
    rw [List.foldl_cons, ih, toBitVec_crc16Update, messageBits_cons, Lfsr.feed_append]

theorem toBitVec_crc16 (data : List UInt8) :
    (crc16 data).toBitVec = Lfsr.feed crcPoly 0xFFFF#16 (messageBits data) :=
  toBitVec_foldl_crc16Update 0xFFFF data

theorem crc16_eq_crc16Bitwise (data : List UInt8) : crc16 data = crc16Bitwise data := by
  have hfold : ∀ (bits : List Bool) (crc : UInt16), (bits.foldl crcBit crc).toBitVec
      = Lfsr.feed crcPoly crc.toBitVec bits := by
    intro bits
    induction bits with
    | nil => exact fun _ => rfl
    | cons b bits ih =>
      intro crc
      rw [List.foldl_cons, ih, toBitVec_crcBit]
      rfl
  apply UInt16.toBitVec_inj.mp
  rw [toBitVec_crc16, crc16Bitwise, hfold]
  rfl

/-! ## The residue -/

theorem word_toLeBytes (v : UInt16) :
    (Lfsr.word (messageBits (toLeBytes v)) : BitVec 16) = v.toBitVec := by
  apply BitVec.eq_of_getLsbD_eq
  intro i hi
  rw [Lfsr.getLsbD_word, decide_eq_true hi, Bool.true_and, List.getD_eq_getElem?_getD]
  show ((byteBits v.toUInt8 ++ (byteBits (v >>> 8).toUInt8 ++ []))[i]?).getD false = _
  rw [List.append_nil]
  by_cases h : i < 8
  · rw [List.getElem?_append_left (by simpa using h), getElem?_byteBits _ h, Option.getD_some]
    show (v.toBitVec.setWidth 8).getLsbD i = _
    rw [BitVec.getLsbD_setWidth, decide_eq_true h, Bool.true_and]
  · rw [List.getElem?_append_right (by simpa using h), length_byteBits,
      getElem?_byteBits _ (by omega), Option.getD_some]
    show ((v >>> 8).toBitVec.setWidth 8).getLsbD (i - 8) = _
    have hshift : (v >>> 8).toBitVec = v.toBitVec >>> 8 := rfl
    rw [hshift, BitVec.getLsbD_setWidth, BitVec.getLsbD_ushiftRight,
      decide_eq_true (show i - 8 < 8 by omega), Bool.true_and, Nat.add_sub_cancel' (Nat.not_lt.mp h)]

/-- The two bytes behind a message that empty the register are its checksum. -/
theorem crc16_append_eq_zero_iff (data : List UInt8) (v : UInt16) :
    crc16 (data ++ toLeBytes v) = 0 ↔ crc16 data = v := by
  have hlen : (messageBits (toLeBytes v)).length ≤ 16 := by
    simp [toLeBytes]
  have hzero := Lfsr.feed_eq_zero_iff (s := (crc16 data).toBitVec) msb_crcPoly hlen
  rw [toBitVec_crc16, ← Lfsr.feed_append, ← messageBits_append, ← toBitVec_crc16,
    ← toBitVec_crc16, word_toLeBytes] at hzero
  rw [← UInt16.toBitVec_inj, ← UInt16.toBitVec_inj]
  exact hzero

theorem verifyCrc_iff_crc16_eq_zero {frame : List UInt8} (h : 3 ≤ frame.length) :
    verifyCrc frame = true ↔ crc16 frame = 0 := by
  rw [verifyCrc_iff]
  constructor
  · rintro ⟨data, -, rfl⟩
    exact (crc16_append_eq_zero_iff data _).mpr rfl
  · intro hzero
    have hlast := drop_length_sub_two (Nat.le_of_succ_le h)
    generalize frame[frame.length - 2]! = lo, frame[frame.length - 2 + 1]! = hi at hlast
    have hframe : frame = frame.take (frame.length - 2) ++ toLeBytes (fromLeBytes lo hi) := by
      rw [toLeBytes_fromLeBytes, ← hlast, List.take_append_drop]
    rw [hframe] at hzero
    have hcrc := (crc16_append_eq_zero_iff _ _).mp hzero
    refine ⟨frame.take (frame.length - 2), ?_, ?_⟩
    · rw [Ne, ← List.length_eq_zero_iff, List.length_take]
      omega
    · rw [withCrc, hcrc]
      exact hframe

/-! ## Errors -/

/-- Which bits of a frame have been flipped. -/
def errorBits (frame received : List UInt8) : List Bool :=
  List.zipWith (· ^^ ·) (messageBits frame) (messageBits received)

variable {frame received : List UInt8}

/-- What two frames leave in the register differs by what the flipped bits leave in an empty
one. -/
theorem feed_errorBits (h : received.length = frame.length) :
    Lfsr.feed crcPoly 0#16 (errorBits frame received)
      = (crc16 frame).toBitVec ^^^ (crc16 received).toBitVec := by
  rw [toBitVec_crc16, toBitVec_crc16, ← Lfsr.feed_xor, BitVec.xor_self]
  · rfl
  · rw [length_messageBits, length_messageBits, h]

/-- An error that leaves something in the register is found. -/
theorem verifyCrc_eq_false (hframe : verifyCrc frame = true) (h : received.length = frame.length)
    (herror : Lfsr.feed crcPoly 0#16 (errorBits frame received) ≠ 0#16) :
    verifyCrc received = false := by
  have hlen : 3 ≤ frame.length := by
    obtain ⟨data, hne, rfl⟩ := verifyCrc_iff.mp hframe
    have := List.length_pos_iff.mpr hne
    rw [withCrc_length]
    omega
  apply eq_false_of_ne_true
  intro hreceived
  have hzero := (verifyCrc_iff_crc16_eq_zero hlen).mp hframe
  have hzero' := (verifyCrc_iff_crc16_eq_zero (h ▸ hlen)).mp hreceived
  rw [feed_errorBits h, hzero, hzero'] at herror
  exact herror rfl

theorem eq_of_zipWith_xor {bs cs : List Bool} (hlen : bs.length = cs.length)
    (h : true ∉ List.zipWith (· ^^ ·) bs cs) : bs = cs := by
  induction bs generalizing cs with
  | nil => exact (List.length_eq_zero_iff.mp hlen.symm).symm
  | cons b bs ih =>
    cases cs with
    | nil => cases hlen
    | cons c cs =>
      rw [List.zipWith_cons_cons, List.mem_cons, not_or] at h
      have hb : b = c := by
        cases b <;> cases c <;> simp at h ⊢
      rw [hb, ih (Nat.succ.inj hlen) h.2]

theorem mem_errorBits (h : received.length = frame.length) (hne : received ≠ frame) :
    true ∈ errorBits frame received := by
  by_contra hnot
  have hbits := eq_of_zipWith_xor (by simp [h]) hnot
  exact hne (messageBits_inj h.symm hbits).symm

variable {bits : List Bool}

theorem eq_replicate_false (h : true ∉ bits) : bits = List.replicate bits.length false :=
  List.eq_replicate_iff.mpr ⟨rfl, fun b hb => by
    cases b with
    | false => rfl
    | true => exact absurd hb h⟩

/-- A burst, between bits that are not flipped. -/
theorem exists_burst {k n : Nat} (h : ∀ i, bits[i]? = some true → k ≤ i ∧ i < k + n)
    (hset : true ∈ bits) :
    ∃ before burst after, bits = List.replicate before false ++
      (burst ++ List.replicate after false) ∧ burst.length ≤ n ∧ true ∈ burst := by
  have hbefore : true ∉ bits.take k := by
    intro hmem
    obtain ⟨i, hi, hbit⟩ := List.mem_iff_getElem.mp hmem
    rw [List.getElem_take] at hbit
    rw [List.length_take] at hi
    have := (h i (List.getElem?_eq_some_iff.mpr ⟨by omega, hbit⟩)).1
    omega
  have hafter : true ∉ (bits.drop k).drop n := by
    intro hmem
    obtain ⟨i, hbit⟩ := List.mem_iff_getElem?.mp hmem
    rw [List.getElem?_drop, List.getElem?_drop] at hbit
    have := (h _ hbit).2
    omega
  have hsplit : bits = bits.take k ++ ((bits.drop k).take n ++ (bits.drop k).drop n) := by
    rw [List.take_append_drop, List.take_append_drop]
  refine ⟨(bits.take k).length, (bits.drop k).take n, ((bits.drop k).drop n).length, ?_,
    List.length_take_le _ _, ?_⟩
  · rw [← eq_replicate_false hbefore, ← eq_replicate_false hafter]
    exact hsplit
  · rw [hsplit, List.mem_append, List.mem_append] at hset
    rcases hset with hset | hset | hset
    · exact absurd hset hbefore
    · exact hset
    · exact absurd hset hafter

/-- The first bit that is flipped. -/
theorem exists_first {n : Nat} (h : bits.count true = n + 1) :
    ∃ before rest, bits = List.replicate before false ++ true :: rest ∧ rest.count true = n := by
  induction bits with
  | nil => cases h
  | cons b bits ih =>
    cases b with
    | true =>
      refine ⟨0, bits, rfl, ?_⟩
      rw [List.count_cons_self] at h
      omega
    | false =>
      rw [List.count_cons_of_ne (by decide)] at h
      obtain ⟨before, rest, hbits, hrest⟩ := ih h
      exact ⟨before + 1, rest, by rw [hbits]; rfl, hrest⟩

section

set_option maxRecDepth 20000

/-- Within 256 bytes the register does not come back to its start. -/
theorem avoids_crcPoly : Lfsr.avoids crcPoly (Lfsr.low true) 2047 (Lfsr.low true) = true := by
  decide +kernel

end

/-- What the checksum is and what it finds. -/
structure CrcLaw : Prop where
  bitwise : ∀ data, crc16 data = crc16Bitwise data
  residue : ∀ frame, 3 ≤ frame.length → (verifyCrc frame = true ↔ crc16 frame = 0)
  /-- An error within 16 consecutive bits. -/
  burst : ∀ frame received, verifyCrc frame = true → received.length = frame.length →
    received ≠ frame →
    (∃ k, ∀ i, (errorBits frame received)[i]? = some true → k ≤ i ∧ i < k + 16) →
    verifyCrc received = false
  odd : ∀ frame received, verifyCrc frame = true → received.length = frame.length →
    (errorBits frame received).count true % 2 = 1 → verifyCrc received = false
  /-- Two flipped bits. -/
  two : ∀ frame received, verifyCrc frame = true → received.length = frame.length →
    frame.length ≤ 256 → (errorBits frame received).count true = 2 → verifyCrc received = false

theorem crc_lawful : CrcLaw where
  bitwise := crc16_eq_crc16Bitwise
  residue _ := verifyCrc_iff_crc16_eq_zero
  burst frame received hframe hlen hne hburst := by
    obtain ⟨k, hk⟩ := hburst
    obtain ⟨before, burst, after, hbits, hle, hset⟩ := exists_burst hk (mem_errorBits hlen hne)
    refine verifyCrc_eq_false hframe hlen ?_
    rw [hbits]
    exact Lfsr.feed_burst_ne_zero msb_crcPoly hle hset before after
  odd frame received hframe hlen hodd := by
    refine verifyCrc_eq_false hframe hlen fun hzero => ?_
    have hparity := Lfsr.parity_feed (p := crcPoly) (by decide) (by decide) 0#16
      (errorBits frame received)
    rw [hzero, Lfsr.parity_zero, decide_eq_true hodd] at hparity
    cases hparity
  two frame received hframe hlen hsize htwo := by
    obtain ⟨before, rest, hbits, hrest⟩ := exists_first htwo
    obtain ⟨between, rest', hbits', hrest'⟩ := exists_first hrest
    have hafter := eq_replicate_false (List.count_eq_zero.mp hrest')
    have hlength : (errorBits frame received).length ≤ 2048 := by
      rw [errorBits, List.length_zipWith, length_messageBits]
      omega
    rw [hbits, hbits'] at hlength
    simp only [List.length_append, List.length_replicate, List.length_cons] at hlength
    refine verifyCrc_eq_false hframe hlen ?_
    rw [hbits, hbits', hafter]
    refine Lfsr.feed_two_ne_zero msb_crcPoly ?_ before _
    exact Lfsr.iterate_shift_ne_of_avoids crcPoly avoids_crcPoly (Nat.succ_pos between) (by omega)

end RustyModbus
