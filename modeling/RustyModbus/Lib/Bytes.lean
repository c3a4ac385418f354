/-!
# Bytes, big-endian words and buffers

The arithmetic every wire format rests on. A 16-bit word is written as two
bytes, most significant first (`toBeBytes`), and read back by `fromBeBytes`;
the two are inverse to each other, which is all that later round trips use.
A mutable buffer is a list of bytes and a copy into a slice of it is
`writeAt`; `writeAt_append` says what a sequence of adjacent writes builds.
-/

namespace Wire

/-- A statement about bytes can be checked on the 256 of them. -/
theorem forall_byte {P : UInt8 → Prop} (h : ∀ i : Fin 256, P (UInt8.ofNat i)) (b : UInt8) :
    P b := by
  have hb := h ⟨b.toNat, b.toNat_lt⟩
  rwa [UInt8.ofNat_toNat] at hb

/-! ## Big-endian words -/

/-- The word with high byte `hi` and low byte `lo`. -/
def fromBeBytes (hi lo : UInt8) : UInt16 :=
  hi.toUInt16 <<< 8 ||| lo.toUInt16

/-- The two bytes of a word, most significant first. -/
def toBeBytes (w : UInt16) : List UInt8 :=
  [(w >>> 8).toUInt8, w.toUInt8]

@[simp] theorem toBeBytes_length (w : UInt16) : (toBeBytes w).length = 2 := rfl

theorem fromBeBytes_toNat (hi lo : UInt8) :
    (fromBeBytes hi lo).toNat = hi.toNat * 256 + lo.toNat := by
  have hlo := lo.toNat_lt
  have hhi := hi.toNat_lt
  have hshift : hi.toNat <<< 8 = hi.toNat * 256 := by simp [Nat.shiftLeft_eq]
  have hmod : hi.toNat <<< 8 % 2 ^ 16 = hi.toNat <<< 8 :=
    Nat.mod_eq_of_lt (by omega)
  simp only [fromBeBytes, UInt16.toNat_or, UInt16.toNat_shiftLeft,
    UInt8.toNat_toUInt16, UInt16.reduceToNat, Nat.reduceMod]
  rw [hmod, ← Nat.shiftLeft_add_eq_or_of_lt (by simpa using hlo), hshift]

@[simp] theorem toBeBytes_fromBeBytes (hi lo : UInt8) :
    toBeBytes (fromBeBytes hi lo) = [hi, lo] := by
  have hlo := lo.toNat_lt
  have hhi := hi.toNat_lt
  have h := fromBeBytes_toNat hi lo
  have hhi' : (fromBeBytes hi lo >>> 8).toUInt8 = hi :=
    UInt8.toNat_inj.mp (by simp [h, Nat.shiftRight_eq_div_pow]; omega)
  have hlo' : (fromBeBytes hi lo).toUInt8 = lo :=
    UInt8.toNat_inj.mp (by simp [h])
  rw [toBeBytes, hhi', hlo']

@[simp] theorem fromBeBytes_shift (w : UInt16) : fromBeBytes (w >>> 8).toUInt8 w.toUInt8 = w := by
  have hw := w.toNat_lt
  apply UInt16.toNat_inj.mp
  rw [fromBeBytes_toNat]
  simp only [UInt16.toNat_toUInt8, UInt16.toNat_shiftRight, UInt16.reduceToNat,
    Nat.reduceMod, Nat.shiftRight_eq_div_pow]
  omega

/-- A word is determined by its two bytes. -/
theorem toBeBytes_inj {v w : UInt16} (h : toBeBytes v = toBeBytes w) : v = w := by
  simp only [toBeBytes, List.cons.injEq, and_true] at h
  rw [← fromBeBytes_shift v, ← fromBeBytes_shift w, h.1, h.2]

/-- The bytes of a word, least significant first. -/
def toLeBytes (w : UInt16) : List UInt8 := [w.toUInt8, (w >>> 8).toUInt8]

def fromLeBytes (lo hi : UInt8) : UInt16 := fromBeBytes hi lo

@[simp] theorem fromLeBytes_shift (w : UInt16) : fromLeBytes w.toUInt8 (w >>> 8).toUInt8 = w :=
  fromBeBytes_shift w

theorem toLeBytes_fromLeBytes (lo hi : UInt8) : toLeBytes (fromLeBytes lo hi) = [lo, hi] := by
  have h := toBeBytes_fromBeBytes hi lo
  simp only [toBeBytes, List.cons.injEq, and_true] at h
  rw [toLeBytes, fromLeBytes, h.1, h.2]

variable {i : Nat}

theorem getElem!_append_left {l : List UInt8} (h : i < l.length) (more : List UInt8) :
    (l ++ more)[i]! = l[i]! := by
  have h' : i < (l ++ more).length := by
    rw [List.length_append]
    omega
  rw [getElem!_pos (l ++ more) i h', getElem!_pos l i h, List.getElem_append_left h]

/-- The word at offset `i` of a byte string. -/
def wordAt (data : List UInt8) (i : Nat) : UInt16 :=
  fromBeBytes data[i]! data[i + 1]!

variable {data : List UInt8}

theorem wordAt_append_left (h : i + 1 < data.length) (more : List UInt8) :
    wordAt (data ++ more) i = wordAt data i := by
  rw [wordAt, wordAt, getElem!_append_left (Nat.lt_of_succ_lt h), getElem!_append_left h]

/-- Putting a field read off a byte string back in front of what follows it gives the
string back; a decoder's reads are undone with these lemmas, last field first. -/
theorem byte_cons_drop (h : i < data.length) : data[i]! :: data.drop (i + 1) = data.drop i := by
  rw [List.drop_eq_getElem_cons h, getElem!_pos data i h]

theorem byte_eq_drop (h : data.length = i + 1) : [data[i]!] = data.drop i := by
  rw [← byte_cons_drop (by omega), List.drop_of_length_le (by omega)]

theorem word_append_drop (h : i + 1 < data.length) :
    toBeBytes (wordAt data i) ++ data.drop (i + 2) = data.drop i := by
  rw [wordAt, toBeBytes_fromBeBytes, ← byte_cons_drop (Nat.lt_of_succ_lt h), ← byte_cons_drop h]
  rfl

theorem word_eq_drop (h : data.length = i + 2) : toBeBytes (wordAt data i) = data.drop i := by
  rw [← word_append_drop (by omega), List.drop_of_length_le (by omega), List.append_nil]

/-- The full pieces of `n` elements a list starts with: `chunks_exact(n)`. -/
def chunksExact {α : Type} (n : Nat) (l : List α) : List (List α) :=
  if 0 < n ∧ n ≤ l.length then l.take n :: chunksExact n (l.drop n) else []
termination_by l.length
decreasing_by
  simp only [List.length_drop]
  omega

variable {α : Type}

theorem length_of_mem_chunksExact {n : Nat} {l c : List α} (hc : c ∈ chunksExact n l) :
    c.length = n := by
  fun_induction chunksExact n l with
  | case1 l h ih =>
    rcases List.mem_cons.mp hc with rfl | hc
    · simp [h.2]
    · exact ih hc
  | case2 => cases hc

theorem length_chunksExact {n : Nat} (hn : 0 < n) {k : Nat} {l : List α} (h : l.length = k * n) :
    (chunksExact n l).length = k := by
  induction k generalizing l with
  | zero =>
    rw [chunksExact, if_neg fun hfull => Nat.not_lt.mpr hfull.2 (by omega)]
    rfl
  | succ k ih =>
    have hlen : l.length = k * n + n := h.trans (Nat.succ_mul k n)
    rw [chunksExact, if_pos ⟨hn, by omega⟩, List.length_cons, ih (by rw [List.length_drop]; omega)]

theorem length_flatMap_toBeBytes (ws : List UInt16) :
    (ws.flatMap toBeBytes).length = ws.length * 2 := by
  rw [List.length_flatMap, List.map_congr_left fun w _ => toBeBytes_length w, List.map_const',
    List.sum_replicate_nat]

/-- Words written one after the other are read back two bytes at a time. -/
theorem map_chunksExact_flatMap (ws : List UInt16) :
    ((chunksExact 2 (ws.flatMap toBeBytes)).map fun chunk => fromBeBytes chunk[0]! chunk[1]!) = ws := by
  induction ws with
  | nil => simp [chunksExact]
  | cons w ws ih =>
    rw [List.flatMap_cons, chunksExact, if_pos (by simp)]
    show fromBeBytes (w >>> 8).toUInt8 w.toUInt8 :: (chunksExact 2 (ws.flatMap toBeBytes)).map _ = _
    rw [ih, fromBeBytes_shift]

/-- A string of whole words is what its words are written as. -/
theorem flatMap_map_chunksExact {k : Nat} (h : data.length = k * 2) :
    ((chunksExact 2 data).map fun chunk => fromBeBytes chunk[0]! chunk[1]!).flatMap toBeBytes
      = data := by
  induction k generalizing data with
  | zero =>
    have hnil : data = [] := List.eq_nil_of_length_eq_zero (by omega)
    rw [hnil, chunksExact, if_neg fun hfull => Nat.not_lt.mpr hfull.2 Nat.two_pos]
    rfl
  | succ k ih =>
    rw [chunksExact, if_pos ⟨Nat.two_pos, by omega⟩, List.map_cons, List.flatMap_cons,
      ih (by rw [List.length_drop]; omega)]
    show toBeBytes (fromBeBytes (data.take 2)[0]! (data.take 2)[1]!) ++ data.drop 2 = data
    have htake : ∀ i < 2, (data.take 2)[i]! = data[i]! := fun i hi => by
      rw [getElem!_pos (data.take 2) i (by rw [List.length_take]; omega),
        getElem!_pos data i (by omega), List.getElem_take]
    rw [htake 0 Nat.two_pos, htake 1 Nat.one_lt_two]
    exact word_append_drop (i := 0) (by omega)

/-- Pieces that are not empty and none of which starts another can be told apart in a string of
them. -/
theorem flatMap_inj {α β : Type} {wire : α → List β} (hne : ∀ a, wire a ≠ [])
    (hfree : ∀ a b x y, wire a ++ x = wire b ++ y → a = b ∧ x = y) {as bs : List α}
    (h : as.flatMap wire = bs.flatMap wire) : as = bs := by
  induction as generalizing bs with
  | nil =>
    cases bs with
    | nil => rfl
    | cons b bs =>
      rw [List.flatMap_cons] at h
      exact absurd (List.append_eq_nil_iff.mp h.symm).1 (hne b)
  | cons a as ih =>
    cases bs with
    | nil =>
      rw [List.flatMap_cons] at h
      exact absurd (List.append_eq_nil_iff.mp h).1 (hne a)
    | cons b bs =>
      rw [List.flatMap_cons, List.flatMap_cons] at h
      obtain ⟨hab, hrest⟩ := hfree a b _ _ h
      rw [hab, ih hrest]

/-! ## Buffers -/

/-- Copy `bs` into the buffer at offset `off`: `buf[off..off + n].copy_from_slice(bs)`. -/
def writeAt {α : Type} (off : Nat) (bs buf : List α) : List α :=
  buf.take off ++ bs ++ buf.drop (off + bs.length)

/-- A write right behind what has been written so far extends it. -/
theorem writeAt_append {off : Nat} {pre bs rest : List α} (hpre : pre.length = off) :
    writeAt off bs (pre ++ rest) = pre ++ bs ++ rest.drop bs.length := by
  subst hpre
  simp [writeAt, List.drop_append]

/-- Writing into the part of a buffer that exists keeps its length. -/
theorem writeAt_length {off : Nat} {bs buf : List α} (h : off + bs.length ≤ buf.length) :
    (writeAt off bs buf).length = buf.length := by
  simp only [writeAt, List.length_append, List.length_take, List.length_drop]
  omega

/-- Writing as many bytes as the buffer has replaces it. -/
theorem writeAt_zero {bs buf : List α} (h : bs.length = buf.length) : writeAt 0 bs buf = bs := by
  rw [writeAt, List.take_zero, List.nil_append, Nat.zero_add, h, List.drop_length, List.append_nil]

/-- Where a write reaches, its values stand; elsewhere nothing changes. -/
theorem getElem?_writeAt {off : Nat} {bs buf : List α} (h : off + bs.length ≤ buf.length) (i : Nat)
    :
    (writeAt off bs buf)[i]? =
      if off ≤ i ∧ i < off + bs.length then bs[i - off]? else buf[i]? := by
  have htake : (buf.take off).length = off := by
    rw [List.length_take]
    omega
  rw [writeAt, List.append_assoc]
  by_cases hlow : i < off
  · rw [List.getElem?_append_left (by omega), List.getElem?_take_of_lt hlow, if_neg (by omega)]
  · rw [List.getElem?_append_right (by omega), htake]
    by_cases hhigh : i < off + bs.length
    · rw [List.getElem?_append_left (by omega), if_pos (by omega)]
    · rw [List.getElem?_append_right (by omega), List.getElem?_drop, if_neg (by omega)]
      congr 1
      omega

theorem writeAt_singleton {l : List α} (h : i < l.length) (v : α) :
    writeAt i [v] l = l.set i v := by
  rw [writeAt, List.set_eq_take_append_cons_drop, if_pos h, List.append_assoc]
  rfl

/-! ## Byte arrays -/

theorem toList_loop_eq (b : ByteArray) (i : Nat) (front : List UInt8) :
    ByteArray.toList.loop b i front = front.reverse ++ b.data.toList.drop i := by
  induction hn : b.size - i generalizing i front with
  | zero =>
    have hi : ¬i < b.size := by omega
    rw [ByteArray.toList.loop, if_neg hi, List.drop_of_length_le (Nat.not_lt.mp hi),
      List.append_nil]
  | succ n ih =>
    have hi : i < b.size := by omega
    rw [ByteArray.toList.loop, if_pos hi, ih _ _ (by omega), List.drop_eq_getElem_cons hi]
    simp [ByteArray.get!, hi]

theorem toByteArray_toList (b : ByteArray) : b.toList.toByteArray = b := by
  refine ByteArray.ext ?_
  rw [List.data_toByteArray, ByteArray.toList, toList_loop_eq]
  rfl

end Wire
