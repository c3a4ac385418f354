import Mathlib.Logic.Function.Iterate

/-!
# Feedback registers

The shift register behind a cyclic redundancy check, in its reflected form: the low bit is shifted
out, and if it was set, the polynomial `p` is added. Bits are fed in at the low end.

Everything follows from two facts. A shift is linear in exclusive or, so what a message leaves in
the register differs from what another leaves by what their difference leaves in an empty one
(`feed_xor`). And if the top bit of `p` is set a shift can be undone, so a register that is not
empty does not become empty by shifting (`iterate_shift_ne_zero`). A difference within `w` bits is
then found because it fits into the register as a whole (`feed_word`), one of two bits because the
register does not return to its start in between, and one of an odd number of bits because shifts
keep the parity if `p` has an odd number of bits.
-/

namespace Lfsr

variable {w : Nat} (p : BitVec w)

def shift (s : BitVec w) : BitVec w := if s.getLsbD 0 then (s >>> 1) ^^^ p else s >>> 1

/-- One bit at the low end. -/
def low (b : Bool) : BitVec w := BitVec.ofNat w b.toNat

def feedBit (s : BitVec w) (b : Bool) : BitVec w := shift p (s ^^^ low b)

def feed (s : BitVec w) (bits : List Bool) : BitVec w := bits.foldl (feedBit p) s

/-! ## Linearity -/

theorem shift_xor (s t : BitVec w) : shift p (s ^^^ t) = shift p s ^^^ shift p t := by
  unfold shift
  rw [BitVec.getLsbD_xor, BitVec.ushiftRight_xor_distrib]
  cases s.getLsbD 0 <;> cases t.getLsbD 0
  · rfl
  · simp [BitVec.xor_assoc]
  · simp only [Bool.xor_false, if_true, Bool.false_eq_true, if_false]
    rw [BitVec.xor_assoc, BitVec.xor_comm (t >>> 1), ← BitVec.xor_assoc]
  · simp only [Bool.xor_self, Bool.false_eq_true, if_false, if_true]
    rw [BitVec.xor_assoc, BitVec.xor_comm p, BitVec.xor_assoc, BitVec.xor_self, BitVec.xor_zero]

@[simp] theorem shift_zero : shift p 0#w = 0#w := by
  simp [shift]

theorem iterate_shift_xor (n : Nat) (s t : BitVec w) :
    (shift p)^[n] (s ^^^ t) = (shift p)^[n] s ^^^ (shift p)^[n] t := by
  induction n generalizing s t with
  | zero => rfl
  | succ n ih =>
    rw [Function.iterate_succ_apply, Function.iterate_succ_apply, Function.iterate_succ_apply,
      shift_xor, ih]

@[simp] theorem iterate_shift_zero (n : Nat) : (shift p)^[n] 0#w = 0#w :=
  Function.iterate_fixed (shift_zero p) n

theorem low_xor (b c : Bool) : (low (b ^^ c) : BitVec w) = low b ^^^ low c := by
  cases b <;> cases c <;> simp [low]

@[simp] theorem low_false : (low false : BitVec w) = 0#w := rfl

theorem feed_append (s : BitVec w) (bs cs : List Bool) :
    feed p s (bs ++ cs) = feed p (feed p s bs) cs :=
  List.foldl_append

/-- What two messages leave differs by what their difference leaves. -/
theorem feed_xor (s t : BitVec w) {bs cs : List Bool} (h : bs.length = cs.length) :
    feed p (s ^^^ t) (List.zipWith (· ^^ ·) bs cs) = feed p s bs ^^^ feed p t cs := by
  induction bs generalizing s t cs with
  | nil =>
    obtain rfl : cs = [] := List.length_eq_zero_iff.mp h.symm
    rfl
  | cons b bs ih =>
    cases cs with
    | nil => cases h
    | cons c cs =>
      have hbit : feedBit p (s ^^^ t) (b ^^ c) = feedBit p s b ^^^ feedBit p t c := by
        rw [feedBit, low_xor, feedBit, feedBit, ← shift_xor]
        congr 1
        rw [BitVec.xor_assoc, BitVec.xor_assoc, ← BitVec.xor_assoc t, BitVec.xor_comm t,
          BitVec.xor_assoc]
      show feed p (feedBit p (s ^^^ t) (b ^^ c)) _ = _
      rw [hbit, ih _ _ (Nat.succ.inj h)]
      rfl

theorem feed_replicate_false (s : BitVec w) (n : Nat) :
    feed p s (List.replicate n false) = (shift p)^[n] s := by
  induction n generalizing s with
  | zero => rfl
  | succ n ih =>
    rw [List.replicate_succ, Function.iterate_succ_apply]
    show feed p (feedBit p s false) _ = _
    rw [ih, feedBit, low_false, BitVec.xor_zero]

/-- An empty register stays empty until the first bit that is set. -/
theorem feed_replicate_false_append (n : Nat) (bits : List Bool) :
    feed p 0#w (List.replicate n false ++ bits) = feed p 0#w bits := by
  rw [feed_append, feed_replicate_false, iterate_shift_zero]

/-! ## Shifts by a register that has room -/

/-- As long as no set bit is shifted out, a shift is a shift. -/
theorem iterate_shift_of_clear {n : Nat} {s : BitVec w} (h : ∀ i < n, s.getLsbD i = false) :
    (shift p)^[n] s = s >>> n := by
  induction n with
  | zero => simp
  | succ n ih =>
    rw [Function.iterate_succ_apply', ih fun i hi => h i (Nat.lt_succ_of_lt hi), shift,
      BitVec.getLsbD_ushiftRight, Nat.add_zero, h n (Nat.lt_succ_self n), BitVec.shiftRight_add]
    rfl

/-- The bits that fall out in `n` shifts decide what is added to the rest. -/
theorem iterate_shift_split (n : Nat) {s : BitVec w} (lows : BitVec w)
    (h : ∀ i < n, lows.getLsbD i = s.getLsbD i) (hhigh : lows >>> n = 0#w) :
    (shift p)^[n] s = (s >>> n) ^^^ (shift p)^[n] lows := by
  have hclear : ∀ i < n, (s ^^^ lows).getLsbD i = false := by
    intro i hi
    rw [BitVec.getLsbD_xor, h i hi, Bool.xor_self]
  have hsplit : s = (s ^^^ lows) ^^^ lows := by
    rw [BitVec.xor_assoc, BitVec.xor_self, BitVec.xor_zero]
  calc (shift p)^[n] s = (shift p)^[n] ((s ^^^ lows) ^^^ lows) := congrArg _ hsplit
    _ = (s ^^^ lows) >>> n ^^^ (shift p)^[n] lows := by
      rw [iterate_shift_xor, iterate_shift_of_clear p hclear]
    _ = (s >>> n) ^^^ (shift p)^[n] lows := by
      rw [BitVec.ushiftRight_xor_distrib, hhigh, BitVec.xor_zero]

/-- The bits of a list, the first at the low end. -/
def word (bits : List Bool) : BitVec w := (BitVec.ofBoolListLE bits).setWidth w

theorem getLsbD_word (bits : List Bool) (i : Nat) :
    (word bits : BitVec w).getLsbD i = (decide (i < w) && bits.getD i false) := by
  rw [word, BitVec.getLsbD_setWidth, BitVec.getLsbD_ofBoolListLE]

theorem getLsbD_low (b : Bool) (i : Nat) :
    (low b : BitVec w).getLsbD i = (decide (i < w) && (decide (i = 0) && b)) := by
  rw [low, BitVec.getLsbD_ofNat]
  cases b with
  | false => simp
  | true =>
    have hone : Nat.testBit 1 i = decide (i = 0) := by
      rw [Bool.eq_iff_iff, Nat.testBit_one_eq_true_iff_self_eq_zero, decide_eq_true_eq]
    rw [Bool.toNat_true, hone, Bool.and_true]

theorem word_cons (b : Bool) (bits : List Bool) :
    (word (b :: bits) : BitVec w) = low b ^^^ (word bits <<< 1) := by
  apply BitVec.eq_of_getLsbD_eq
  intro i hi
  rw [BitVec.getLsbD_xor, getLsbD_word, getLsbD_low, BitVec.getLsbD_shiftLeft, getLsbD_word]
  cases i with
  | zero => simp [hi]
  | succ i =>
    have hi' : i < w := Nat.lt_of_succ_lt hi
    simp [hi, hi']

theorem shift_word_shiftLeft {bits : List Bool} (h : bits.length < w) :
    shift p (word bits <<< 1) = word bits := by
  apply BitVec.eq_of_getLsbD_eq
  intro i hi
  have hlow : (word bits <<< 1 : BitVec w).getLsbD 0 = false := by simp
  rw [shift, hlow]
  show ((word bits <<< 1) >>> 1 : BitVec w).getLsbD i = _
  rw [BitVec.getLsbD_ushiftRight, BitVec.getLsbD_shiftLeft, getLsbD_word, getLsbD_word]
  by_cases hlast : 1 + i < w
  · simp [hlast, hi]
  · -- the last bit of a list that is shorter than the register is clear
    have hnone : bits[i]? = none := List.getElem?_eq_none (by omega)
    simp [hlast, hnone]

/-- A list of bits that fits into the register can be added to it as a whole. -/
theorem feed_word (s : BitVec w) {bits : List Bool} (h : bits.length ≤ w) :
    feed p s bits = (shift p)^[bits.length] (s ^^^ word bits) := by
  induction bits generalizing s with
  | nil =>
    have hword : (word [] : BitVec w) = 0#w :=
      BitVec.eq_of_getLsbD_eq fun i _ => by rw [getLsbD_word]; simp
    rw [hword, BitVec.xor_zero]
    rfl
  | cons b bits ih =>
    have hlt : bits.length < w := h
    show feed p (feedBit p s b) bits = _
    rw [ih _ (Nat.le_of_lt hlt), List.length_cons, Function.iterate_succ_apply, word_cons,
      ← BitVec.xor_assoc, shift_xor, shift_word_shiftLeft p hlt]
    rfl

/-! ## Shifts that can be undone -/

section Injective

variable {p}

theorem shift_ne_zero (hp : p.msb = true) {s : BitVec w} (h : s ≠ 0#w) : shift p s ≠ 0#w := by
  intro hzero
  unfold shift at hzero
  split at hzero
  next hlow =>
    have hmsb := congrArg BitVec.msb hzero
    rw [BitVec.msb_xor, hp, BitVec.msb_ushiftRight] at hmsb
    simp at hmsb
  next hlow =>
    refine h (BitVec.eq_of_getLsbD_eq fun i hi => ?_)
    cases i with
    | zero => simpa using hlow
    | succ i =>
      have hbit := congrArg (fun s => s.getLsbD i) hzero
      simp only [BitVec.getLsbD_ushiftRight] at hbit
      rw [Nat.add_comm] at hbit
      simpa using hbit

theorem iterate_shift_ne_zero (hp : p.msb = true) {s : BitVec w} (h : s ≠ 0#w) (n : Nat) :
    (shift p)^[n] s ≠ 0#w := by
  induction n with
  | zero => exact h
  | succ n ih =>
    rw [Function.iterate_succ_apply']
    exact shift_ne_zero hp ih

/-- The register is emptied exactly by what it holds. -/
theorem feed_eq_zero_iff (hp : p.msb = true) {s : BitVec w} {bits : List Bool}
    (h : bits.length ≤ w) : feed p s bits = 0#w ↔ s = word bits := by
  rw [feed_word p s h]
  constructor
  · intro hzero
    by_cases hs : s ^^^ word bits = 0#w
    · exact BitVec.xor_eq_zero_iff.mp hs
    · exact absurd hzero (iterate_shift_ne_zero hp hs _)
  · intro hs
    rw [hs, BitVec.xor_self]
    exact iterate_shift_zero p _

theorem word_ne_zero {bits : List Bool} (h : bits.length ≤ w) (hset : true ∈ bits) :
    (word bits : BitVec w) ≠ 0#w := by
  intro hzero
  obtain ⟨i, hi, hbit⟩ := List.mem_iff_getElem.mp hset
  have hword := getLsbD_word (w := w) bits i
  rw [hzero, List.getD_eq_getElem?_getD, List.getElem?_eq_getElem hi, hbit,
    decide_eq_true (Nat.lt_of_lt_of_le hi h)] at hword
  simp at hword

/-- A difference within `w` bits leaves something in the register, however long the message. -/
theorem feed_burst_ne_zero (hp : p.msb = true) {bits : List Bool} (h : bits.length ≤ w)
    (hset : true ∈ bits) (before after : Nat) :
    feed p 0#w (List.replicate before false ++ (bits ++ List.replicate after false)) ≠ 0#w := by
  rw [feed_replicate_false_append, feed_append, feed_replicate_false]
  refine iterate_shift_ne_zero hp ?_ after
  rw [Ne, feed_eq_zero_iff hp h]
  exact fun hzero => word_ne_zero h hset hzero.symm

/-- So does a difference in two bits, as long as the register does not return to its start in
between. -/
theorem feed_two_ne_zero (hp : p.msb = true) {between : Nat}
    (horder : (shift p)^[between + 1] (low true) ≠ low true) (before after : Nat) :
    feed p 0#w (List.replicate before false ++
      (true :: (List.replicate between false ++ (true :: List.replicate after false)))) ≠ 0#w := by
  rw [feed_replicate_false_append]
  show feed p (feedBit p 0#w true) _ ≠ 0#w
  rw [feed_append, feed_replicate_false]
  show feed p (feedBit p _ true) _ ≠ 0#w
  rw [feed_replicate_false]
  refine iterate_shift_ne_zero hp (shift_ne_zero hp ?_) after
  rw [feedBit, BitVec.zero_xor, ← Function.iterate_succ_apply, Ne, BitVec.xor_eq_zero_iff]
  exact horder

end Injective

/-- The first `n` shifts of `t` do not give `s`. -/
def avoids (p s : BitVec w) : Nat → BitVec w → Bool
  | 0, _ => true
  | n + 1, t => shift p t != s && avoids p s n (shift p t)

theorem iterate_shift_ne_of_avoids {s t : BitVec w} {n : Nat} (h : avoids p s n t = true) {m : Nat}
    (hpos : 0 < m) (hle : m ≤ n) : (shift p)^[m] t ≠ s := by
  induction n generalizing t m with
  | zero => exact absurd hpos (Nat.not_lt.mpr hle)
  | succ n ih =>
    rw [avoids, Bool.and_eq_true, bne_iff_ne] at h
    cases m with
    | zero => exact absurd hpos (Nat.lt_irrefl 0)
    | succ m =>
      rw [Function.iterate_succ_apply]
      cases m with
      | zero => exact h.1
      | succ m => exact ih h.2 (Nat.succ_pos m) (Nat.le_of_succ_le_succ hle)

/-! ## Parity -/

/-- Whether an odd number of the low `n` bits is set. -/
def parityUpTo (s : BitVec w) : Nat → Bool
  | 0 => false
  | n + 1 => parityUpTo s n ^^ s.getLsbD n

theorem parityUpTo_succ (s : BitVec w) (n : Nat) :
    parityUpTo s (n + 1) = (parityUpTo s n ^^ s.getLsbD n) := rfl

def parity (s : BitVec w) : Bool := parityUpTo s w

theorem parityUpTo_zero (n : Nat) : parityUpTo 0#w n = false := by
  induction n with
  | zero => rfl
  | succ n ih => rw [parityUpTo_succ, ih, BitVec.getLsbD_zero, Bool.xor_false]

theorem parity_zero : parity 0#w = false := parityUpTo_zero w

theorem parityUpTo_xor (s t : BitVec w) (n : Nat) :
    parityUpTo (s ^^^ t) n = (parityUpTo s n ^^ parityUpTo t n) := by
  induction n with
  | zero => rfl
  | succ n ih =>
    simp only [parityUpTo_succ, ih, BitVec.getLsbD_xor]
    cases parityUpTo s n <;> cases parityUpTo t n <;> simp

theorem parity_xor (s t : BitVec w) : parity (s ^^^ t) = (parity s ^^ parity t) :=
  parityUpTo_xor s t w

theorem parityUpTo_ushiftRight (s : BitVec w) (n : Nat) :
    (parityUpTo (s >>> 1) n ^^ s.getLsbD 0) = parityUpTo s (n + 1) := by
  induction n with
  | zero => rfl
  | succ n ih =>
    rw [parityUpTo_succ, parityUpTo_succ, ← ih, BitVec.getLsbD_ushiftRight, Nat.add_comm 1 n]
    cases parityUpTo (s >>> 1) n <;> cases s.getLsbD 0 <;> simp

theorem parity_ushiftRight (s : BitVec w) : (parity (s >>> 1) ^^ s.getLsbD 0) = parity s := by
  rw [parity, parityUpTo_ushiftRight, parityUpTo_succ, BitVec.getLsbD_of_ge s w (Nat.le_refl w),
    Bool.xor_false, parity]

variable {p}

theorem parity_shift (hp : parity p = true) (s : BitVec w) : parity (shift p s) = parity s := by
  have hright := parity_ushiftRight s
  unfold shift
  split
  next hlow =>
    rw [hlow] at hright
    rw [parity_xor, hp, hright]
  next hlow =>
    rw [eq_false_of_ne_true hlow, Bool.xor_false] at hright
    exact hright

/-- Each set bit that is fed in changes the parity. -/
theorem parity_feed (hp : parity p = true) (hlow : parity (low true : BitVec w) = true)
    (s : BitVec w) (bits : List Bool) :
    parity (feed p s bits) = (parity s ^^ decide (bits.count true % 2 = 1)) := by
  induction bits generalizing s with
  | nil => simp [feed]
  | cons b bits ih =>
    show parity (feed p (feedBit p s b) bits) = _
    rw [ih, feedBit, parity_shift hp, parity_xor, List.count_cons]
    cases b with
    | false =>
      rw [low_false, parity_zero]
      simp
    | true =>
      rw [hlow]
      have hflip : decide ((bits.count true + 1) % 2 = 1)
          = !decide (bits.count true % 2 = 1) := by
        by_cases h : bits.count true % 2 = 1
        · rw [decide_eq_true h, decide_eq_false (by omega)]
          rfl
        · rw [decide_eq_false h, decide_eq_true (by omega)]
          rfl
      simp [hflip]

end Lfsr
