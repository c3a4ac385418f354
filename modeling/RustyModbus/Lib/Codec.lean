import RustyModbus.Lib.Bytes

/-!
# Decoders and encoders of byte messages

A decoder is a sequence of guards and field reads in `Except`; what its success
establishes is read off guard by guard with `bind_eq_ok` and `rejectIf_eq_ok`.

An encoder works on a caller's buffer. It is a state-and-error computation in
which an error *keeps* the buffer as it is at that moment, so nothing about the
order of checks and writes is built in: that a refused call leaves the buffer
alone is a statement about each encoder. `Emits` is that statement together with
what a successful call does, and it is proved by following the encoder's text:
one rule per check, one per write, one for the final `return`.
-/

namespace Wire

/-! ## Guards -/

section Guards

variable {ε α β : Type}

/-- Refuse with `e` when `c` holds: `if c { return Err(e) }`. -/
def rejectIf (c : Prop) [Decidable c] (e : ε) : Except ε Unit :=
  if c then .error e else .ok ()

/-- The value of an option, or the error `e`: `opt.ok_or(e)`. -/
def okOr (o : Option α) (e : ε) : Except ε α :=
  match o with
  | some a => .ok a
  | none => .error e

/-- A check made only when `c` holds. -/
def checkWhen (c : Prop) [Decidable c] (x : Except ε Unit) : Except ε Unit :=
  if c then x else .ok ()

/-- The ways a call can end without a result: it panics or it returns an error. -/
inductive Fault (ε : Type)
  | panic
  | error (e : ε)
deriving DecidableEq, Repr

/-- `list[i]`, which panics out of bounds. -/
def index (l : List α) (i : Nat) : Except (Fault ε) α := okOr l[i]? .panic

variable {c : Prop}

theorem rejectIf_pos [Decidable c] (h : c) (e : ε) : rejectIf c e = .error e :=
  if_pos h

theorem rejectIf_neg [Decidable c] (h : ¬c) (e : ε) : rejectIf c e = .ok () :=
  if_neg h

@[simp] theorem rejectIf_eq_ok [Decidable c] {e : ε} {u : Unit} : rejectIf c e = .ok u ↔ ¬c := by
  unfold rejectIf
  split <;> simp_all

theorem rejectIf_eq_error [Decidable c] {e e' : ε} : rejectIf c e = .error e' ↔ c ∧ e = e' := by
  unfold rejectIf
  split <;> simp_all

@[simp] theorem checkWhen_eq_ok [Decidable c] {x : Except ε Unit} {u : Unit} :
    checkWhen c x = .ok u ↔ (c → x = .ok ()) := by
  unfold checkWhen
  split <;> simp_all

@[simp] theorem okOr_eq_ok {o : Option α} {e : ε} {a : α} : okOr o e = .ok a ↔ o = some a := by
  cases o <;> simp [okOr]

@[simp] theorem okOr_some (a : α) (e : ε) : okOr (some a) e = .ok a := rfl

variable {x : Except ε α} {f : α → Except ε β}

/-- A sequence succeeds when its first part does and the rest does on its result. -/
theorem bind_eq_ok {b : β} : (x >>= f) = .ok b ↔ ∃ a, x = .ok a ∧ f a = .ok b := by
  cases x <;> simp [bind, Except.bind]

/-- The same for a first part that only checks. -/
theorem check_bind_eq_ok {x : Except ε Unit} {f : Unit → Except ε β} {b : β} :
    (x >>= f) = .ok b ↔ x = .ok () ∧ f () = .ok b := by
  rw [bind_eq_ok]
  exact ⟨fun ⟨_, h⟩ => h, fun h => ⟨(), h⟩⟩

/-- The same for a lookup. -/
theorem okOr_bind_eq_ok {o : Option α} {e : ε} {b : β} :
    (okOr o e >>= f) = .ok b ↔ ∃ a, o = some a ∧ f a = .ok b := by
  simp only [bind_eq_ok, okOr_eq_ok]

/-- A sequence fails when its first part does, or the rest on its result. -/
theorem bind_eq_error {e : ε} :
    (x >>= f) = .error e ↔ x = .error e ∨ ∃ a, x = .ok a ∧ f a = .error e := by
  cases x <;> simp [bind, Except.bind]

theorem pure_eq_ok {a b : α} : (pure a : Except ε α) = .ok b ↔ a = b := by
  simp [pure, Except.pure]

theorem map_eq_ok {f : α → β} {b : β} : x.map f = .ok b ↔ ∃ a, x = .ok a ∧ f a = b := by
  cases x <;> simp [Except.map]

/-- A loop of checks succeeds when every check does. -/
theorem forM_eq_ok {l : List α} {f : α → Except ε PUnit} {u : PUnit} :
    forM l f = .ok u ↔ ∀ a ∈ l, f a = .ok () := by
  induction l with
  | nil => simp [pure, Except.pure]
  | cons a l ih =>
    rw [List.forM_cons, check_bind_eq_ok, ih, List.forall_mem_cons]

end Guards

/-! ## Encoders -/

/-- A computation on the caller's buffer that can fail with an `ε`. -/
abbrev Encoder (ε : Type) := EStateM ε (List UInt8)

namespace Encoder

variable {ε : Type}

/-- Fail unless the buffer has at least `len` bytes; the error is told how many
there are. -/
def reserve (len : Nat) (tooSmall : Nat → ε) : Encoder ε Unit := do
  let buf ← get
  if buf.length < len then throw (tooSmall buf.length)

/-- Run a check that does not touch the buffer. -/
def check (c : Except ε Unit) : Encoder ε Unit :=
  match c with
  | .ok () => pure ()
  | .error e => throw e

/-- Copy bytes into the buffer at an offset. -/
def put (off : Nat) (bs : List UInt8) : Encoder ε Unit :=
  modify (writeAt off bs)

/-- What an encoder is for: with a buffer of at least `len` bytes and a message
that may be sent it writes `wire` to the front of the buffer, keeps the rest and
returns `len`; in every other case it fails and the buffer is as it was. -/
structure Emits (m : Encoder ε Nat) (len : Nat) (Sendable : Prop) (wire : List UInt8) : Prop where
  tooSmall : ∀ buf, buf.length < len → ∃ e, m buf = .error e buf
  refused : ∀ buf, ¬Sendable → ∃ e, m buf = .error e buf
  written : ∀ buf, len ≤ buf.length → Sendable → m buf = .ok len (wire ++ buf.drop len)
  length : Sendable → wire.length = len

/-- The part of an encoder behind its buffer check. -/
structure Fills (m : Encoder ε Nat) (len : Nat) (Sendable : Prop) (wire : List UInt8) : Prop where
  refused : ∀ buf, ¬Sendable → ∃ e, m buf = .error e buf
  written : ∀ buf, len ≤ buf.length → Sendable → m buf = .ok len (wire ++ buf.drop len)
  length : Sendable → wire.length = len

/-- The writes of an encoder: with `pre` already in front of the buffer they
complete `wire`. -/
structure Writes (m : Encoder ε Nat) (len : Nat) (pre wire : List UInt8) : Prop where
  run : ∀ buf : List UInt8, len ≤ buf.length →
    m (pre ++ buf.drop pre.length) = .ok len (wire ++ buf.drop len)
  length : wire.length = len

variable {m : Encoder ε Nat} {len : Nat} {f : Nat → ε}

theorem reserve_bind_of_lt {buf : List UInt8} (h : buf.length < len) :
    (do reserve len f; m) buf = .error (f buf.length) buf := by
  have hreserve : reserve len f buf = .error (f buf.length) buf := by
    show (if buf.length < len then throw (f buf.length) else pure () : Encoder ε Unit) buf = _
    rw [if_pos h]
    rfl
  show EStateM.bind (reserve len f) (fun _ => m) buf = _
  rw [EStateM.bind, hreserve]

theorem reserve_bind_of_le {buf : List UInt8} (h : len ≤ buf.length) :
    (do reserve len f; m) buf = m buf := by
  have hreserve : reserve len f buf = .ok () buf := by
    show (if buf.length < len then throw (f buf.length) else pure () : Encoder ε Unit) buf = _
    rw [if_neg (Nat.not_lt.mpr h)]
    rfl
  show EStateM.bind (reserve len f) (fun _ => m) buf = _
  rw [EStateM.bind, hreserve]

variable {wire : List UInt8}

theorem Emits.of_reserve {Sendable : Prop} (hm : Fills m len Sendable wire) :
    Emits (do reserve len f; m) len Sendable wire := by
  refine ⟨fun buf hbuf => ⟨_, reserve_bind_of_lt hbuf⟩, fun buf hno => ?_, fun buf hbuf hok => ?_,
    hm.length⟩
  · by_cases hbuf : buf.length < len
    · exact ⟨_, reserve_bind_of_lt hbuf⟩
    · rw [reserve_bind_of_le (Nat.not_lt.mp hbuf)]
      exact hm.refused buf hno
  · rw [reserve_bind_of_le hbuf]
    exact hm.written buf hbuf hok

/-- A check in front of an encoder adds its condition; the rest only has to be
right for messages that passed. -/
theorem Fills.check {c : Except ε Unit} {P Sendable : Prop} (hc : c = .ok () ↔ P)
    (hm : P → Fills m len Sendable wire) :
    Fills (do check c; m) len (P ∧ Sendable) wire := by
  cases c with
  | ok u =>
    have hP : P := hc.mp rfl
    refine ⟨fun buf hno => ?_, fun buf hbuf hok => (hm hP).written buf hbuf hok.2,
      fun hok => (hm hP).length hok.2⟩
    exact (hm hP).refused buf (fun hok => hno ⟨hP, hok⟩)
  | error e =>
    have hP : ¬P := fun h => nomatch hc.mpr h
    exact ⟨fun buf _ => ⟨e, rfl⟩, fun _ _ hok => absurd hok.1 hP,
      fun hok => absurd hok.1 hP⟩

theorem Fills.of_writes (hm : Writes m len [] wire) : Fills m len True wire :=
  ⟨fun _ hno => absurd trivial hno, fun buf hbuf _ => hm.run buf hbuf, fun _ => hm.length⟩

/-- Writing right behind the bytes written so far. -/
theorem Writes.put {off len : Nat} {pre bs wire : List UInt8} (hm : Writes m len (pre ++ bs) wire)
    (hoff : pre.length = off := by rfl) : Writes (do put off bs; m) len pre wire := by
  refine ⟨fun buf hbuf => ?_, hm.length⟩
  have hput : (do Encoder.put off bs; m) (pre ++ buf.drop pre.length)
      = m (writeAt off bs (pre ++ buf.drop pre.length)) := rfl
  rw [hput, writeAt_append hoff, List.drop_drop, ← List.length_append]
  exact hm.run buf hbuf

theorem Writes.ret (hlen : wire.length = len := by rfl) :
    Writes (pure len : Encoder ε Nat) len wire wire := by
  refine ⟨fun buf _ => ?_, hlen⟩
  rw [hlen]
  rfl

/-- Restate what has to hold for a message to be sent. -/
theorem Emits.congr {P Q : Prop} (h : Emits m len P wire) (hPQ : P ↔ Q) : Emits m len Q wire := by
  rwa [propext hPQ] at h

/-- A fact known beforehand may be added to it. -/
theorem Emits.and_of {P Q : Prop} (h : Emits m len P wire) (hQ : Q) : Emits m len (P ∧ Q) wire :=
  h.congr (and_iff_left hQ).symm

end Encoder

end Wire
