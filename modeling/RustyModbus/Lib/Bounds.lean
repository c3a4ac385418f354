import RustyModbus.Lib.Codec

/-!
# Indexes in bounds

A read out of bounds ends a program, which a decoder in `Except ε` does not show: its `data[i]!` is
some byte whatever `i` is. Here are the reads that fault instead. A decoder written with them is
`InBounds` if it returns what the decoder without faults returns, so that none of its reads faults.
The proof follows the text of the decoder, and at each read it uses the checks that are behind it.
-/

namespace Wire

section

variable {ε α β : Type}

/-- A part of a computation that reads nothing. -/
def Fault.lift (x : Except ε α) : Except (Fault ε) α := x.mapError .error

/-- `&list[start..]`. -/
def sliceFrom (l : List α) (start : Nat) : Except (Fault ε) (List α) :=
  if start ≤ l.length then .ok (l.drop start) else .error .panic

/-- `&list[start..finish]`. -/
def slice (l : List α) (start finish : Nat) : Except (Fault ε) (List α) :=
  if start ≤ finish ∧ finish ≤ l.length then .ok ((l.take finish).drop start) else .error .panic

/-- `u16::from_be_bytes([data[i], data[i + 1]])`. -/
def readWord (data : List UInt8) (i : Nat) : Except (Fault ε) UInt16 := do
  let high ← index data i
  let low ← index data (i + 1)
  return fromBeBytes high low

/-- The computation has no fault and is `x`. -/
def InBounds (checked : Except (Fault ε) α) (x : Except ε α) : Prop := checked = Fault.lift x

/-! ## Reads -/

theorem index_eq_ok [Inhabited α] {l : List α} {i : Nat} (h : i < l.length) :
    index (ε := ε) l i = .ok l[i]! := by
  rw [index, List.getElem?_eq_getElem h, getElem!_pos l i h]
  rfl

theorem index_bind [Inhabited α] {l : List α} {i : Nat} (h : i < l.length)
    (f : α → Except (Fault ε) β) : (index l i >>= f) = f l[i]! := by
  rw [index_eq_ok h]
  rfl

theorem readWord_bind {data : List UInt8} {i : Nat} (h : i + 1 < data.length)
    (f : UInt16 → Except (Fault ε) β) : (readWord data i >>= f) = f (wordAt data i) := by
  rw [readWord, index_bind (Nat.lt_of_succ_lt h), index_bind h]
  rfl

theorem sliceFrom_bind {l : List α} {start : Nat} (h : start ≤ l.length)
    (f : List α → Except (Fault ε) β) : (sliceFrom l start >>= f) = f (l.drop start) := by
  rw [sliceFrom, if_pos h]
  rfl

theorem slice_bind {l : List α} {start finish : Nat} (hle : start ≤ finish)
    (h : finish ≤ l.length) (f : List α → Except (Fault ε) β) :
    (slice l start finish >>= f) = f ((l.take finish).drop start) := by
  rw [slice, if_pos ⟨hle, h⟩]
  rfl

/-! ## Rules -/

namespace InBounds

theorem lift (x : Except ε α) : InBounds (Fault.lift x) x := rfl

theorem pure (a : α) : InBounds (ε := ε) (.ok a) (.ok a) := rfl

/-- The rest of a computation may use what its first part has established. -/
theorem bind {checked : Except (Fault ε) α} {x : Except ε α} {f : α → Except (Fault ε) β}
    {g : α → Except ε β} (hx : InBounds checked x) (hf : ∀ a, x = .ok a → InBounds (f a) (g a)) :
    InBounds (checked >>= f) (x >>= g) := by
  rw [InBounds] at hx
  subst hx
  cases x with
  | error e => rfl
  | ok a => exact hf a rfl

theorem lift_bind {x : Except ε α} {f : α → Except (Fault ε) β} {g : α → Except ε β}
    (hf : ∀ a, x = .ok a → InBounds (f a) (g a)) : InBounds (Fault.lift x >>= f) (x >>= g) :=
  bind (lift x) hf

theorem reject {c : Prop} [Decidable c] {e : ε} {f : Except (Fault ε) β} {g : Except ε β}
    (h : ¬c → InBounds f g) :
    InBounds (do Fault.lift (rejectIf c e); f) (do rejectIf c e; g) :=
  lift_bind fun _ hc => h (rejectIf_eq_ok.mp hc)

theorem map {checked : Except (Fault ε) α} {x : Except ε α} (hx : InBounds checked x)
    (f : α → β) : InBounds (checked.map f) (x.map f) := by
  rw [InBounds] at hx
  subst hx
  cases x <;> rfl

theorem mapM {l : List α} {f : α → Except (Fault ε) β} {g : α → β}
    (h : ∀ a ∈ l, InBounds (f a) (.ok (g a))) : InBounds (l.mapM f) (.ok (l.map g)) := by
  induction l with
  | nil => exact pure _
  | cons a l ih =>
    have ha : f a = .ok (g a) := h a List.mem_cons_self
    have hl : l.mapM f = .ok (l.map g) := ih fun b hb => h b (List.mem_cons_of_mem a hb)
    rw [List.mapM_cons, ha]
    show (l.mapM f >>= fun bs => Except.ok (g a :: bs)) = _
    rw [hl]
    rfl

end InBounds

end

end Wire
