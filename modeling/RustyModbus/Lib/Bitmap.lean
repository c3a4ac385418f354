import RustyModbus.Lib.Bounds

/-!
# Bitmaps

A set of small numbers as an array of words, one bit a number. Testing and marking read and write
words and fault out of bounds; `has` is the set itself. A bitmap is used through two facts: within
its size, `find` is the search for a member of the set (`find_eq_ok`), and `markAll` adds a list to
the set (`markAll_eq_ok`).
-/

namespace Wire

/-- `[u64; n]`. -/
abbrev Bitmap (n : Nat) := Vector UInt64 n

namespace Bitmap

variable {n : Nat} {ε : Type}

def empty (n : Nat) : Bitmap n := Vector.replicate n 0

/-- `bitmap[i / 64] & (1 << (i % 64)) != 0`. -/
def test (b : Bitmap n) (i : Nat) : Except (Fault ε) Bool :=
  if h : i / 64 < n then .ok (b[i / 64] &&& (1 <<< UInt64.ofNat (i % 64)) != 0)
  else .error .panic

/-- `bitmap[i / 64] |= 1 << (i % 64)`. -/
def mark (b : Bitmap n) (i : Nat) : Except (Fault ε) (Bitmap n) :=
  if h : i / 64 < n then .ok (b.set (i / 64) (b[i / 64] ||| (1 <<< UInt64.ofNat (i % 64))) h)
  else .error .panic

/-- The first of the numbers that is in the bitmap. -/
def find (b : Bitmap n) : List Nat → Except (Fault ε) (Option Nat)
  | [] => .ok none
  | i :: items => do
    if ← b.test i then return some i
    b.find items

def markAll (b : Bitmap n) (items : List Nat) : Except (Fault ε) (Bitmap n) :=
  items.foldlM mark b

/-! ## The set -/

def has (b : Bitmap n) (i : Nat) : Bool := (b[i / 64]?.getD 0).toBitVec.getLsbD (i % 64)

theorem has_empty (n i : Nat) : (empty n).has i = false := by
  rw [has, empty, Vector.getElem?_replicate]
  split <;> exact BitVec.getLsbD_zero

theorem getLsbD_one_shiftLeft {k : Nat} (hk : k < 64) (i : Nat) :
    (1 <<< UInt64.ofNat k : UInt64).toBitVec.getLsbD i = decide (i = k) := by
  have hshift : (UInt64.ofNat k).toBitVec.toNat % 64 = k := by
    rw [UInt64.toNat_toBitVec, UInt64.toNat_ofNat', Nat.mod_mod_of_dvd _ (by decide),
      Nat.mod_eq_of_lt hk]
  rw [UInt64.toBitVec_shiftLeft, BitVec.shiftLeft_eq', BitVec.toNat_umod]
  show ((1 : BitVec 64) <<< ((UInt64.ofNat k).toBitVec.toNat % 64)).getLsbD i = _
  rw [hshift, BitVec.getLsbD_shiftLeft]
  by_cases hi : i = k
  · subst hi
    simp [hk]
  · by_cases hlt : i < k
    · simp [hlt, hi]
    · have hone : (1#64).getLsbD (i - k) = false := by
        rw [BitVec.getLsbD_one, decide_eq_false (p := i - k = 0) (by omega), Bool.and_false]
      rw [show (1 : BitVec 64) = 1#64 from rfl, hone, Bool.and_false, decide_eq_false hi]

theorem and_one_shiftLeft_bne_zero (w : UInt64) {k : Nat} (hk : k < 64) :
    (w &&& (1 <<< UInt64.ofNat k) != 0) = w.toBitVec.getLsbD k := by
  cases hbit : w.toBitVec.getLsbD k with
  | false =>
    have hzero : w &&& (1 <<< UInt64.ofNat k) = 0 := by
      refine UInt64.toBitVec_inj.mp (BitVec.eq_of_getLsbD_eq fun i hi => ?_)
      rw [UInt64.toBitVec_and, BitVec.getLsbD_and, getLsbD_one_shiftLeft hk]
      by_cases hik : i = k
      · rw [hik, hbit]
        exact BitVec.getLsbD_zero.symm
      · rw [decide_eq_false hik, Bool.and_false]
        exact BitVec.getLsbD_zero.symm
    rw [hzero]
    rfl
  | true =>
    refine bne_iff_ne.mpr fun hzero => ?_
    have h : (w &&& (1 <<< UInt64.ofNat k)).toBitVec.getLsbD k = false := by
      rw [hzero]
      exact BitVec.getLsbD_zero
    rw [UInt64.toBitVec_and, BitVec.getLsbD_and, getLsbD_one_shiftLeft hk, hbit,
      decide_eq_true rfl] at h
    cases h

variable {b : Bitmap n} {i : Nat}

theorem test_eq_ok (h : i / 64 < n) : b.test (ε := ε) i = .ok (b.has i) := by
  rw [test, dif_pos h, and_one_shiftLeft_bne_zero _ (Nat.mod_lt i (by decide)), has,
    Vector.getElem?_eq_getElem h, Option.getD_some]

theorem mark_eq_ok (h : i / 64 < n) :
    ∃ b', b.mark (ε := ε) i = .ok b' ∧ ∀ j, b'.has j = true ↔ b.has j = true ∨ j = i := by
  refine ⟨_, dif_pos h, fun j => ?_⟩
  rw [has, has, Vector.getElem?_set]
  by_cases hword : i / 64 = j / 64
  · rw [if_pos hword, Option.getD_some, UInt64.toBitVec_or, BitVec.getLsbD_or,
      getLsbD_one_shiftLeft (Nat.mod_lt i (by decide)), ← hword, Vector.getElem?_eq_getElem h,
      Option.getD_some, Bool.or_eq_true, decide_eq_true_eq]
    exact or_congr_right (by omega)
  · rw [if_neg hword]
    exact ⟨Or.inl, fun hor => hor.resolve_right fun hji => hword (by rw [hji])⟩

/-! ## Loops -/

theorem find_eq_ok {items : List Nat} (h : ∀ i ∈ items, i / 64 < n) :
    b.find (ε := ε) items = .ok (items.find? b.has) := by
  induction items with
  | nil => rfl
  | cons i items ih =>
    rw [find, test_eq_ok (h i List.mem_cons_self), List.find?_cons]
    have hrest := ih fun j hj => h j (List.mem_cons_of_mem i hj)
    show (if b.has i then _ else _) = _
    cases b.has i with
    | true => rfl
    | false => exact hrest

theorem markAll_eq_ok {items : List Nat} (h : ∀ i ∈ items, i / 64 < n) :
    ∃ b', b.markAll (ε := ε) items = .ok b' ∧
      ∀ j, b'.has j = true ↔ b.has j = true ∨ j ∈ items := by
  induction items generalizing b with
  | nil => exact ⟨b, rfl, fun j => by rw [List.mem_nil_iff, or_false]⟩
  | cons i items ih =>
    obtain ⟨b₁, hmark, hb₁⟩ := mark_eq_ok (b := b) (ε := ε) (h i List.mem_cons_self)
    obtain ⟨b', hrest, hb'⟩ := ih (b := b₁) fun j hj => h j (List.mem_cons_of_mem i hj)
    refine ⟨b', ?_, fun j => ?_⟩
    · rw [markAll, List.foldlM_cons, hmark]
      exact hrest
    · rw [hb', hb₁, or_assoc, List.mem_cons]

end Bitmap

end Wire
