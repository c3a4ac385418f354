import RustyModbus.EndToEnd.Tables
import RustyModbus.Server.Memory

/-!
# The in-memory store keeps the tables

The store packs its bits into bytes and answers in wire format. Read through `tables` it is
four plain arrays, and each of its methods is the read or write of an array: one pair of
lemmas per method, one for a range inside the table and one for a range that leaves it.
-/

namespace RustyModbus.Server

open Wire Interaction EndToEnd InMemoryStore

/-! ## Arrays -/

theorem getElem?_readAt {α : Type} {table : List α} {a n i : Nat} (hi : i < n) :
    (readAt a n table)[i]? = table[a + i]? := by
  rw [readAt, List.getElem?_take_of_lt hi, List.getElem?_drop]

theorem length_readAt {α : Type} {table : List α} {a n : Nat} (h : a + n ≤ table.length) :
    (readAt a n table).length = n := by
  rw [readAt, List.length_take, List.length_drop]
  omega

theorem BitTable.Written.toBools_eq {len start : Nat} {packed : List UInt8} {values : List Bool}
    {t t' : BitTable len} (h : Written start values.length packed t t')
    (hvalues : CarriesBits values packed) (hin : start + values.length ≤ len) :
    t'.toBools = writeAt start values t.toBools :=
  Overwritten.toBools_eq (fun i => by rw [h i, hvalues]) hin

theorem toList_overwrite {n : Nat} (registers : Vector UInt16 n) {start : Nat}
    {values : List UInt16} (h : start + values.length ≤ n) :
    (overwrite registers start values).toList = writeAt start values registers.toList := by
  apply List.ext_getElem?
  intro i
  rw [getElem?_writeAt (by rwa [Vector.length_toList]), Vector.getElem?_toList, Vector.getElem?_toList,
    overwrite, Vector.getElem?_mapIdx]
  by_cases hi : i < n
  · rw [Vector.getElem?_eq_getElem hi, Option.map_some]
    by_cases hlow : start ≤ i
    · by_cases hhigh : i < start + values.length
      · rw [if_pos hlow, if_pos ⟨hlow, hhigh⟩, List.getD_eq_getElem?_getD,
          List.getElem?_eq_getElem (by omega), Option.getD_some]
      · rw [if_pos hlow, if_neg (by omega), List.getD_eq_getElem?_getD,
          List.getElem?_eq_none (by omega), Option.getD_none]
    · rw [if_neg hlow, if_neg (by omega)]
  · rw [Vector.getElem?_eq_none (by omega), if_neg (by omega)]
    rfl

theorem toList_set {n : Nat} (registers : Vector UInt16 n) {i : Nat} (h : i < n) (v : UInt16) :
    (registers.set i v h).toList = writeAt i [v] registers.toList := by
  rw [writeAt_singleton (by rwa [Vector.length_toList]), Vector.toList_set]

/-! ## The methods -/

/-- What the store holds, as plain arrays. -/
def InMemoryStore.tables {config : StoreConfig} (s : InMemoryStore config) : Tables where
  coils := s.coils.toBools
  discreteInputs := s.discreteInputs.toBools
  holdingRegisters := s.holdingRegisters.toList
  inputRegisters := s.inputRegisters.toList

/-- The tables of a store fit the address space. -/
theorem InMemoryStore.bounds {config : StoreConfig} (s : InMemoryStore config) :
    config.coilCount ≤ 65536 ∧ config.discreteInputCount ≤ 65536 ∧
      config.holdingRegisterCount ≤ 65536 ∧ config.inputRegisterCount ≤ 65536 := by
  have h := s.valid
  simp only [StoreConfig.validate, check_bind_eq_ok, validateTableSize, rejectIf_eq_ok,
    Nat.not_lt] at h
  exact h

variable {out : List UInt8}

/-- A packed read gives the bits of the array, and zeros behind them. -/
theorem BitTable.readPacked_inside {len : Nat} (t : BitTable len) {a q : UInt16}
    (h : a.toNat + q.toNat ≤ t.toBools.length) (hout : out.length = (q.toNat + 7) / 8) :
    ∃ r, t.readPacked a q out = .ok r ∧ r.1 = q.toNat ∧
      CarriesBits (readAt a.toNat q.toNat t.toBools) r.2.val := by
  have hlen := length_readAt h
  rw [length_toBools] at h
  obtain ⟨packed, hread, hbits⟩ := readPacked_inRange t h hout
  refine ⟨_, hread, rfl, fun i => ?_⟩
  rw [hbits]
  by_cases hi : i < q.toNat
  · rw [decide_eq_true hi, Bool.true_and, getElem?_readAt hi, getElem?_toBools t (by omega),
      Option.getD_some]
  · rw [decide_eq_false hi, Bool.false_and, List.getElem?_eq_none (by omega), Option.getD_none]

theorem BitTable.readPacked_outside {len : Nat} (t : BitTable len) {a q : UInt16}
    (h : ¬a.toNat + q.toNat ≤ t.toBools.length) :
    t.readPacked a q out = .error .illegalDataAddress :=
  t.readPacked_outOfRange (Nat.not_le.mp (t.length_toBools ▸ h))

theorem readRegistersBe_inside {n : Nat} (registers : Vector UInt16 n) {a q : UInt16}
    (h : a.toNat + q.toNat ≤ registers.toList.length) (hout : out.length = q.toNat * 2) :
    ∃ r, readRegistersBe registers a q out = .ok r ∧ r.1 = q.toNat ∧
      r.2.val = (readAt a.toNat q.toNat registers.toList).flatMap toBeBytes := by
  have hlen := length_readAt h
  rw [Vector.length_toList] at h
  obtain ⟨packed, hpack, hval⟩ := packRegistersBe_fits ((congrArg (· * 2) hlen).trans hout.symm)
  refine ⟨(q.toNat, packed), ?_, rfl, hval⟩
  rw [readRegistersBe, checkRange_inside h, registersAt, ← readAt, hpack]
  rfl

theorem readRegistersBe_outside {n : Nat} (registers : Vector UInt16 n) {a q : UInt16}
    (h : ¬a.toNat + q.toNat ≤ registers.toList.length) :
    readRegistersBe registers a q out = .error .illegalDataAddress := by
  rw [Vector.length_toList] at h
  rw [readRegistersBe, checkRange_outside h]
  rfl

/-! ## What a call does

A call on the store has one of two outcomes. If every place it names is in the table, it
succeeds; if not, it fails with `IllegalDataAddress` and the store stays as it is. -/

variable {config : StoreConfig} {α β : Type}

/-- The outcome of a call made on `s`: inside the table it leaves the arrays `t` and a value with
the property `Q`. -/
structure Performs (outcome : Except ExceptionCode α × InMemoryStore config)
    (s : InMemoryStore config) (inside : Prop) (t : Tables) (Q : α → Prop) : Prop where
  done : inside → ∃ a s', outcome = (.ok a, s') ∧ s'.tables = t ∧ Q a
  refused : ¬inside → outcome = (.error .illegalDataAddress, s)

section

variable {s : InMemoryStore config} {inside : Prop} {t : Tables} {Q : α → Prop}

theorem Performs.check_bind {x : Except ExceptionCode β}
    {f : β → StoreM config α}
    (hok : inside → ∃ b a s', x = .ok b ∧ (f b).run s = .ok a s' ∧ s'.tables = t ∧ Q a)
    (herror : ¬inside → x = .error .illegalDataAddress) :
    Performs (replyOf ((check x >>= f).run s)) s inside t Q := by
  constructor
  case done =>
    intro hin
    obtain ⟨b, a, s', hx, hrun, h⟩ := hok hin
    refine ⟨a, s', ?_, h⟩
    rw [run_check_bind, hx]
    exact congrArg replyOf hrun
  case refused =>
    intro hout
    rw [run_check_bind, herror hout]
    rfl

/-- A method that checks the range of a table of `n` places and goes on if it is inside. -/
theorem Performs.checkRange_bind {a : UInt16} {count n : Nat}
    {f : PLift (a.toNat + count ≤ n) → StoreM config α}
    (hinside : inside ↔ a.toNat + count ≤ n)
    (h : ∀ hin, ∃ a s', (f ⟨hin⟩).run s = .ok a s' ∧ s'.tables = t ∧ Q a) :
    Performs (replyOf ((check (checkRange a count n) >>= f).run s)) s inside t Q := by
  refine .check_bind (fun hin => ?_) fun hout => checkRange_outside (mt hinside.mpr hout)
  have hin := hinside.mp hin
  obtain ⟨b, s', h⟩ := h hin
  exact ⟨⟨hin⟩, b, s', checkRange_inside hin, h⟩

theorem Performs.look {f : InMemoryStore config → Except ExceptionCode α}
    (hok : inside → ∃ a, f s = .ok a ∧ Q a)
    (herror : ¬inside → f s = .error .illegalDataAddress) :
    Performs (replyOf ((look f).run s)) s inside s.tables Q := by
  rw [replyOf_look]
  refine ⟨fun hin => ?_, fun hout => congrArg (·, s) (herror hout)⟩
  obtain ⟨a, ha, hQ⟩ := hok hin
  exact ⟨a, s, congrArg (·, s) ha, rfl, hQ⟩

end

section

variable (s : InMemoryStore config) {a q : UInt16} {packed : List UInt8} {values : List UInt16}

theorem length_coils : s.tables.coils.length = config.coilCount := s.coils.length_toBools

theorem length_holdingRegisters : s.tables.holdingRegisters.length = config.holdingRegisterCount :=
  s.holdingRegisters.length_toList

theorem performs_writeCoil (a : UInt16) (v : Bool) :
    Performs (memoryStore config (.writeCoil a v) s) s (a.toNat + 1 ≤ s.tables.coils.length)
      { s.tables with coils := writeAt a.toNat [v] s.tables.coils } fun _ => True := by
  rw [memoryStore, serve, writeCoil, run_get_bind]
  refine .checkRange_bind (by rw [length_coils]) fun hin => ⟨(), _, rfl, ?_, trivial⟩
  exact congrArg (fun c => { s.tables with coils := c }) (s.coils.toBools_set hin v)

theorem performs_writeRegister (a v : UInt16) :
    Performs (memoryStore config (.writeRegister a v) s) s
      (a.toNat + 1 ≤ s.tables.holdingRegisters.length)
      { s.tables with holdingRegisters := writeAt a.toNat [v] s.tables.holdingRegisters }
      fun _ => True := by
  rw [memoryStore, serve, writeRegister, run_get_bind]
  refine .checkRange_bind (by rw [length_holdingRegisters]) fun hin => ⟨(), _, rfl, ?_, trivial⟩
  exact congrArg (fun r => { s.tables with holdingRegisters := r })
    (toList_set s.holdingRegisters hin v)

theorem performs_atomicMaskWriteRegister (a am om : UInt16) :
    Performs (memoryStore config (.atomicMaskWriteRegister a am om) s) s
      (a.toNat + 1 ≤ s.tables.holdingRegisters.length)
      { s.tables with
        holdingRegisters := writeAt a.toNat
          [(s.tables.holdingRegisters[a.toNat]! &&& am) ||| (om &&& ~~~am)]
          s.tables.holdingRegisters }
      fun _ => True := by
  rw [memoryStore, serve, atomicMaskWriteRegister, run_get_bind]
  refine .checkRange_bind (by rw [length_holdingRegisters]) fun hin => ⟨(), _, rfl, ?_, trivial⟩
  have hcurrent : s.tables.holdingRegisters[a.toNat]! = s.holdingRegisters[a.toNat] := by
    rw [getElem!_pos s.tables.holdingRegisters _ (by rwa [length_holdingRegisters])]
    exact Vector.getElem_toList _
  rw [hcurrent]
  exact congrArg (fun r => { s.tables with holdingRegisters := r })
    (toList_set s.holdingRegisters hin _)

theorem validatePackedCoils_eq_ok (hq : InRange q maxWriteCoils)
    (hlen : packed.length = (q.toNat + 7) / 8) :
    validatePackedCoils q packed = .ok ⟨q.toNat, hlen⟩ := by
  rw [validatePackedCoils, if_neg hq, dif_neg (not_not_intro hlen)]

theorem performs_writeCoilsPacked {values : List Bool} (hq : InRange q maxWriteCoils)
    (hcount : q.toNat = values.length) (hlen : packed.length = (q.toNat + 7) / 8)
    (hvalues : CarriesBits values packed) :
    Performs (memoryStore config (.writeCoilsPacked a q packed) s) s
      (a.toNat + values.length ≤ s.tables.coils.length)
      { s.tables with coils := writeAt a.toNat values s.tables.coils } fun _ => True := by
  rw [memoryStore, serve, writeCoilsPacked,
    run_check_bind, validatePackedCoils_eq_ok hq hlen, length_coils]
  dsimp only
  rw [run_get_bind]
  refine .check_bind (fun hin => ?_) fun hout =>
    s.coils.writePacked_outOfRange hlen (hcount ▸ Nat.not_le.mp hout)
  obtain ⟨t', hwrite, hwritten⟩ := s.coils.writePacked_inRange hlen (hcount ▸ hin)
  rw [hcount] at hwritten
  exact ⟨t', (), _, hwrite, rfl,
    congrArg (fun c => { s.tables with coils := c }) (hwritten.toBools_eq hvalues hin), trivial⟩

/-- The registers a write carries as bytes. -/
theorem take_registersOf :
    (registersOf (values.flatMap toBeBytes)).take values.length = values := by
  rw [registersOf, map_chunksExact_flatMap, List.take_length]

theorem validateRegisterValuesBe_eq_ok (hq : InRange q maxWriteRegisters)
    (hcount : q.toNat = values.length) :
    validateRegisterValuesBe q (values.flatMap toBeBytes) = .ok values.length := by
  rw [validateRegisterValuesBe, rejectIf_neg hq, rejectIf_neg, hcount]
  · rfl
  · rw [length_flatMap_toBeBytes, hcount]
    exact not_not_intro rfl

theorem performs_writeRegistersBe (hq : InRange q maxWriteRegisters)
    (hcount : q.toNat = values.length) :
    Performs (memoryStore config (.writeRegistersBe a q (values.flatMap toBeBytes)) s) s
      (a.toNat + values.length ≤ s.tables.holdingRegisters.length)
      { s.tables with holdingRegisters := writeAt a.toNat values s.tables.holdingRegisters }
      fun _ => True := by
  rw [memoryStore, serve, writeRegistersBe,
    run_check_bind, validateRegisterValuesBe_eq_ok hq hcount]
  dsimp only
  rw [run_get_bind, take_registersOf]
  refine .checkRange_bind (by rw [length_holdingRegisters]) fun hin => ⟨(), _, rfl, ?_, trivial⟩
  exact congrArg (fun r => { s.tables with holdingRegisters := r })
    (toList_overwrite s.holdingRegisters hin)

variable {out : List UInt8} {ra rq wa wq : UInt16}

theorem validateAtomicReadWriteBuffers_eq_ok (hrq : InRange rq maxRwRead)
    (hwq : InRange wq maxRwWrite) (hcount : wq.toNat = values.length)
    (hout : out.length = rq.toNat * 2) :
    validateAtomicReadWriteBuffers rq wq (values.flatMap toBeBytes) out
      = .ok (rq.toNat, values.length) := by
  have hquantities : ¬(rq = 0 ∨ rq > maxRwRead ∨ wq = 0 ∨ wq > maxRwWrite) := by
    rintro (h | h | h)
    · exact hrq (Or.inl h)
    · exact hrq (Or.inr h)
    · exact hwq h
  have hbuffers : ¬((values.flatMap toBeBytes).length ≠ wq.toNat * 2 ∨ out.length < rq.toNat * 2) := by
    rw [length_flatMap_toBeBytes, hcount, hout]
    omega
  rw [validateAtomicReadWriteBuffers, rejectIf_neg hquantities]
  dsimp only
  rw [rejectIf_neg hbuffers, hcount]
  rfl

/-- The read of a read/write call sees what its write has written. -/
theorem performs_atomicReadWriteRegistersBe (hrq : InRange rq maxRwRead)
    (hwq : InRange wq maxRwWrite) (hcount : wq.toNat = values.length)
    (hout : out.length = rq.toNat * 2) :
    Performs
      (memoryStore config (.atomicReadWriteRegistersBe ra rq wa wq (values.flatMap toBeBytes) out) s)
      s
      (ra.toNat + rq.toNat ≤ s.tables.holdingRegisters.length ∧
        wa.toNat + values.length ≤ s.tables.holdingRegisters.length)
      { s.tables with holdingRegisters := writeAt wa.toNat values s.tables.holdingRegisters }
      fun r => r.1 = rq.toNat ∧ r.2.val = (readAt ra.toNat rq.toNat
        (writeAt wa.toNat values s.tables.holdingRegisters)).flatMap toBeBytes := by
  rw [memoryStore, serve, atomicReadWriteRegistersBe,
    run_check_bind, validateAtomicReadWriteBuffers_eq_ok hrq hwq hcount hout,
    length_holdingRegisters]
  dsimp only
  rw [run_get_bind, take_registersOf]
  by_cases hwrite : wa.toNat + values.length ≤ config.holdingRegisterCount
  · rw [run_check_bind, checkRange_inside hwrite]
    refine .checkRange_bind (and_iff_left hwrite) fun hread => ?_
    have htables := toList_overwrite s.holdingRegisters hwrite
    have hlen := @length_readAt _ (overwrite s.holdingRegisters wa.toNat values).toList ra.toNat
      rq.toNat (by rwa [Vector.length_toList])
    obtain ⟨packed, hpack, hval⟩ := packRegistersBe_fits ((congrArg (· * 2) hlen).trans hout.symm)
    refine ⟨(rq.toNat, packed),
      { s with holdingRegisters := overwrite s.holdingRegisters wa.toNat values }, ?_,
      congrArg (fun r => { s.tables with holdingRegisters := r }) htables, rfl, ?_⟩
    · rw [run_set_bind, registersAt, ← readAt, hpack]
      rfl
    · rw [hval, htables]
      rfl
  · refine .check_bind (fun hin => absurd hin.2 hwrite) fun _ => checkRange_outside hwrite

end

end RustyModbus.Server
