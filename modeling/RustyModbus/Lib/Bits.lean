import RustyModbus.Lib.Bytes

/-!
# Bits of bytes

A byte is known by its bits, and every operation on bytes says what it does to each bit.
A string of bytes is a string of bits, the least significant bit of each byte first; a
loop that packs, unpacks or moves bits is specified by `bitAt` of what it produces.

Loops that count through their indices are `Fin.foldl`; `foldl_invariant` is the loop rule
for them.
-/

namespace Wire

/-! ## One byte -/

/-- Bit `i` of a byte, from the least significant; `false` from bit 8 on. -/
def bit (b : UInt8) (i : Nat) : Bool := b.toBitVec.getLsbD i

theorem bit_of_ge {b : UInt8} {i : Nat} (h : 8 ≤ i) : bit b i = false :=
  BitVec.getLsbD_of_ge _ _ h

@[simp] theorem bit_zero (i : Nat) : bit 0 i = false := BitVec.getLsbD_zero

@[simp] theorem bit_or (a b : UInt8) (i : Nat) : bit (a ||| b) i = (bit a i || bit b i) :=
  BitVec.getLsbD_or

@[simp] theorem bit_and (a b : UInt8) (i : Nat) : bit (a &&& b) i = (bit a i && bit b i) :=
  BitVec.getLsbD_and

@[simp] theorem bit_not (a : UInt8) (i : Nat) : bit (~~~a) i = (decide (i < 8) && !bit a i) :=
  BitVec.getLsbD_not

theorem ofNat_shift {k : Nat} (h : k < 8) : (UInt8.ofNat k).toBitVec.toNat % 8 = k := by
  rw [UInt8.toNat_toBitVec, UInt8.toNat_ofNat', Nat.mod_mod_of_dvd _ (by decide),
    Nat.mod_eq_of_lt h]

theorem bit_shiftRight (b : UInt8) {k : Nat} (hk : k < 8) (i : Nat) :
    bit (b >>> UInt8.ofNat k) i = bit b (i + k) := by
  rw [bit, UInt8.toBitVec_shiftRight, BitVec.ushiftRight_eq', BitVec.toNat_umod]
  show (b.toBitVec >>> ((UInt8.ofNat k).toBitVec.toNat % 8)).getLsbD i = _
  rw [ofNat_shift hk, BitVec.getLsbD_ushiftRight, Nat.add_comm, bit]

theorem bit_shiftLeft (b : UInt8) {k : Nat} (hk : k < 8) (i : Nat) :
    bit (b <<< UInt8.ofNat k) i = (decide (k ≤ i ∧ i < 8) && bit b (i - k)) := by
  rw [bit, UInt8.toBitVec_shiftLeft, BitVec.shiftLeft_eq', BitVec.toNat_umod]
  show (b.toBitVec <<< ((UInt8.ofNat k).toBitVec.toNat % 8)).getLsbD i = _
  rw [ofNat_shift hk, BitVec.getLsbD_shiftLeft, bit]
  by_cases hki : k ≤ i <;> by_cases h8 : i < 8 <;> simp [hki, h8]

theorem bit_one (i : Nat) : bit 1 i = decide (i = 0) := by
  by_cases h : i < 8
  · have hall : ∀ j : Fin 8, bit 1 j = decide (j.val = 0) := by decide
    exact hall ⟨i, h⟩
  · rw [bit_of_ge (by omega), decide_eq_false (by omega)]

/-- The way a single bit is tested: `(b >> k) & 1 == 1`. -/
theorem shiftRight_and_one_beq (b : UInt8) {k : Nat} (hk : k < 8) :
    ((b >>> UInt8.ofNat k) &&& 1 == 1) = bit b k := by
  have hbit : ∀ c : UInt8, (c &&& 1 == 1) = bit c 0 := forall_byte (by decide +kernel)
  rw [hbit, bit_shiftRight b hk, Nat.zero_add]

/-- Bytes with the same bits are equal. -/
theorem byte_ext {a b : UInt8} (h : ∀ i < 8, bit a i = bit b i) : a = b :=
  UInt8.toBitVec_inj.mp (BitVec.eq_of_getLsbD_eq h)

/-! ## Strings of bits -/

/-- Bit `i` of a byte string. -/
def bitAt (bytes : List UInt8) (i : Nat) : Bool := bit (bytes.getD (i / 8) 0) (i % 8)

/-- The bytes hold the bits, and zeros behind them. -/
def CarriesBits (values : List Bool) (bytes : List UInt8) : Prop :=
  ∀ i, bitAt bytes i = values[i]?.getD false

@[simp] theorem bitAt_replicate_zero (n i : Nat) : bitAt (List.replicate n 0) i = false := by
  rw [bitAt, List.getD_eq_getElem?_getD, List.getElem?_replicate]
  split <;> exact bit_zero _

/-- Setting one bit of a byte string. -/
theorem bitAt_set_or {bytes : List UInt8} {i : Nat} (h : i / 8 < bytes.length) (j : Nat) :
    bitAt (bytes.set (i / 8) (bytes[i / 8]! ||| 1 <<< UInt8.ofNat (i % 8))) j =
      (bitAt bytes j || decide (j = i)) := by
  have hi : i % 8 < 8 := Nat.mod_lt i (by decide)
  have hj : j % 8 < 8 := Nat.mod_lt j (by decide)
  rw [bitAt, bitAt, List.getD_eq_getElem?_getD, List.getElem?_set]
  by_cases hbyte : i / 8 = j / 8
  · rw [if_pos hbyte, if_pos h, Option.getD_some, bit_or, bit_shiftLeft _ hi, bit_one,
      ← Bool.decide_and, getElem!_pos bytes _ h, ← hbyte, List.getD_eq_getElem?_getD,
      List.getElem?_eq_getElem h, Option.getD_some]
    congr 2
    simp only [eq_iff_iff]
    omega
  · rw [if_neg hbyte, ← List.getD_eq_getElem?_getD, decide_eq_false (fun h => hbyte (by rw [h])),
      Bool.or_false]

/-- The first `n` bits of a byte string. -/
def unpackBits (n : Nat) (bytes : List UInt8) : List Bool := List.ofFn fun i : Fin n => bitAt bytes i

/-- The bits packed into as few bytes as hold them, zeros behind the last. -/
def packBits (values : List Bool) : List UInt8 :=
  List.ofFn fun k : Fin ((values.length + 7) / 8) =>
    UInt8.ofBitVec ((BitVec.ofBoolListLE ((values.drop (k * 8)).take 8)).setWidth 8)

@[simp] theorem length_unpackBits (n : Nat) (bytes : List UInt8) :
    (unpackBits n bytes).length = n := List.length_ofFn

@[simp] theorem length_packBits (values : List Bool) :
    (packBits values).length = (values.length + 7) / 8 := List.length_ofFn

theorem getElem?_unpackBits {n i : Nat} (h : i < n) (bytes : List UInt8) :
    (unpackBits n bytes)[i]? = some (bitAt bytes i) := by
  rw [unpackBits, List.getElem?_ofFn, dif_pos h]

theorem carriesBits_packBits (values : List Bool) : CarriesBits values (packBits values) := by
  intro i
  have hmod : i % 8 < 8 := Nat.mod_lt i (by decide)
  have hsplit : i / 8 * 8 + i % 8 = i := Nat.div_add_mod' i 8
  rw [bitAt, List.getD_eq_getElem?_getD, packBits, List.getElem?_ofFn]
  split
  next h =>
    show (BitVec.setWidth 8 (BitVec.ofBoolListLE _)).getLsbD (i % 8) = _
    rw [BitVec.getLsbD_setWidth, BitVec.getLsbD_ofBoolListLE, decide_eq_true hmod, Bool.true_and,
      List.getD_eq_getElem?_getD, List.getElem?_take_of_lt hmod, List.getElem?_drop, hsplit]
  next h => rw [Option.getD_none, bit_zero, List.getElem?_eq_none (by omega), Option.getD_none]

/-- Strings of one length with the same bits are equal. -/
theorem bytes_ext {as bs : List UInt8} (hlen : as.length = bs.length)
    (h : ∀ i, bitAt as i = bitAt bs i) : as = bs := by
  refine List.ext_getElem hlen fun k hk hk' => byte_ext fun j hj => ?_
  have hbit := h (k * 8 + j)
  have hdiv : (k * 8 + j) / 8 = k := by omega
  have hmod : (k * 8 + j) % 8 = j := by omega
  rwa [bitAt, bitAt, hdiv, hmod, List.getD_eq_getElem?_getD, List.getD_eq_getElem?_getD,
    List.getElem?_eq_getElem hk, List.getElem?_eq_getElem hk'] at hbit

/-- The packed form of a list of bits is the only one. -/
theorem CarriesBits.eq_packBits {values : List Bool} {bytes : List UInt8}
    (h : CarriesBits values bytes) (hlen : bytes.length = (values.length + 7) / 8) :
    bytes = packBits values :=
  bytes_ext (hlen.trans (length_packBits values).symm)
    fun i => (h i).trans (carriesBits_packBits values i).symm

/-! ## Counted loops -/

/-- The loop rule: what holds at the start and is carried from each index to the next
holds at the end. -/
theorem foldl_invariant {α : Type} {n : Nat} {f : α → Fin n → α} {a : α}
    (P : Nat → α → Prop) (h0 : P 0 a) (hs : ∀ (i : Fin n) (b : α), P i b → P (i + 1) (f b i)) :
    P n (Fin.foldl n f a) := by
  induction n with
  | zero => simpa using h0
  | succ n ih =>
    rw [Fin.foldl_succ_last]
    exact hs (Fin.last n) _ (ih fun i a ha => hs i.castSucc a ha)

/-- A loop whose turns might fail and do not, given what every turn keeps. -/
theorem foldlM_range {ε α : Type} {n : Nat} {f : α → Nat → Except ε α} {g : α → Fin n → α}
    (P : α → Prop) (hP : ∀ a i, P a → P (g a i)) (h : ∀ a i, P a → f a i.val = .ok (g a i))
    {a : α} (ha : P a) : (List.range n).foldlM f a = .ok (Fin.foldl n g a) := by
  induction n with
  | zero => rfl
  | succ n ih =>
    have hinit := foldl_invariant (fun _ a => P a) (f := fun a (i : Fin n) => g a i.castSucc) ha
      fun i a => hP a i.castSucc
    rw [List.range_succ, List.foldlM_append,
      ih (fun a i => hP a i.castSucc) (fun a i => h a i.castSucc), Fin.foldl_succ_last]
    show f _ n >>= pure = _
    rw [bind_pure]
    exact h _ (Fin.last n) hinit

/-- The same for a loop that changes a state: each turn is, seen through `r`, the turn of a
loop that cannot fail. -/
theorem run_forM_range {ε σ β : Type} {n : Nat} {f : Nat → EStateM ε σ PUnit} {g : β → Fin n → β}
    (r : β → σ) (h : ∀ b i, (f i.val).run (r b) = .ok ⟨⟩ (r (g b i))) (b : β) :
    (forM (List.range n) f).run (r b) = .ok ⟨⟩ (r (Fin.foldl n g b)) := by
  induction n with
  | zero => rfl
  | succ n ih =>
    rw [List.range_succ, List.forM_append, EStateM.run_bind, ih fun b i => h b i.castSucc,
      Fin.foldl_succ_last]
    show (f n >>= fun _ => pure PUnit.unit).run _ = _
    have hlast (b : β) : (f n).run (r b) = .ok ⟨⟩ (r (g b (Fin.last n))) := h b (Fin.last n)
    rw [EStateM.run_bind, hlast]
    rfl

/-- Filling a list from the front. -/
theorem foldl_set {α : Type} {n : Nat} (v : Fin n → α) {out : List α} (h : n ≤ out.length) :
    Fin.foldl n (fun l i => l.set i (v i)) out = writeAt 0 (List.ofFn v) out := by
  induction n with
  | zero => rfl
  | succ n ih =>
    have hrest : out.drop n = out[n] :: out.drop (n + 1) := List.drop_eq_getElem_cons h
    rw [Fin.foldl_succ_last]
    show (Fin.foldl n (fun l i => l.set i (v i.castSucc)) out).set n (v (Fin.last n)) = _
    rw [ih (fun i => v i.castSucc) (Nat.le_of_succ_le h), List.ofFn_succ_last]
    simp only [writeAt, List.take_zero, List.nil_append, Nat.zero_add, List.length_ofFn,
      List.append_assoc, List.length_append, List.length_singleton]
    rw [List.set_append_right _ _ (Nat.le_of_eq List.length_ofFn), hrest,
      List.length_ofFn, Nat.sub_self]
    rfl

end Wire
