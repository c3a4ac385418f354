import RustyModbus.Lib.Erasure
import RustyModbus.Rtu.Segmentation

/-!
# What holds of the assembler under any calls

Here the caller keeps no rules: times may go back, callbacks may be early, late or of deadlines
that were never set, and the clock and the numbers of the deadlines may run out. A call is then
one of a few things (`Called`): it is refused, or it is a stale callback, and changes counters
only; or it stores a byte, ignores one, or comes to rest. `Valid` is kept by each of them and rules
out every panic.

The counters are written and never read (`Blind`), so calls that change nothing else can be erased
from a sequence of calls without a trace.
-/

namespace RustyModbus.Rtu

open Wire

namespace RtuFrameAssembler

/-- The assembler apart from its counters. -/
def uncounted (a : RtuFrameAssembler) : RtuFrameAssembler := { a with diagnostics := {} }

/-- A state that waits for a silence since the time `last` is waiting for the deadline that was
planned last, at the right time, and has seen nothing from before `last` since. -/
structure Awaits (a : RtuFrameAssembler) (last : Timestamp) (d : AssemblerDeadline) : Prop where
  dueAt : d.dueAt = last + a.timing.t3_5
  sequence : d.sequence = a.deadlineSequence
  observed : ∃ t, a.lastObserved = some t ∧ last ≤ t

structure Valid (a : RtuFrameAssembler) : Prop where
  length : ∀ len last d, a.state = .collecting len last d → 1 ≤ len ∧ len ≤ maxRtuAduSize
  collecting : ∀ len last d, a.state = .collecting len last d → a.Awaits last d
  quarantined : ∀ last d, a.state = .quarantined last d → a.Awaits last d

theorem valid_new (timing : RtuTiming) : (new timing).Valid :=
  ⟨fun _ _ _ h => State.noConfusion h, fun _ _ _ h => State.noConfusion h,
    fun _ _ h => State.noConfusion h⟩

section

variable {a a' : RtuFrameAssembler} {last : Timestamp} {d : AssemblerDeadline}

theorem state_of_uncounted (h : a'.uncounted = a.uncounted) : a'.state = a.state :=
  show a'.uncounted.state = a.uncounted.state from h ▸ rfl

theorem deadlineSequence_of_uncounted (h : a'.uncounted = a.uncounted) :
    a'.deadlineSequence = a.deadlineSequence :=
  show a'.uncounted.deadlineSequence = a.uncounted.deadlineSequence from h ▸ rfl

theorem timing_of_uncounted (h : a'.uncounted = a.uncounted) : a'.timing = a.timing :=
  show a'.uncounted.timing = a.uncounted.timing from h ▸ rfl

theorem Awaits.of_uncounted (h : a.Awaits last d) (hsame : a'.uncounted = a.uncounted) :
    a'.Awaits last d := by
  have h' : a'.uncounted.Awaits last d := hsame ▸ ⟨h.dueAt, h.sequence, h.observed⟩
  exact ⟨h'.dueAt, h'.sequence, h'.observed⟩

/-- Validity does not depend on counters. -/
theorem Valid.of_uncounted (h : a.Valid) (hsame : a'.uncounted = a.uncounted) : a'.Valid := by
  have hstate := state_of_uncounted hsame
  refine ⟨fun len last d hs => ?_, fun len last d hs => ?_, fun last d hs => ?_⟩
  · exact h.length len last d (hstate ▸ hs)
  · exact (h.collecting len last d (hstate ▸ hs)).of_uncounted hsame
  · exact (h.quarantined last d (hstate ▸ hs)).of_uncounted hsame

end

section

variable {a : RtuFrameAssembler} {t last : Timestamp} {b : UInt8} {len : Nat}
  {d : AssemblerDeadline}

theorem Valid.counted (h : a.Valid) (c : Counter) : (a.counted c).Valid := h.of_uncounted rfl

theorem Valid.collected (hlen : len < maxRtuAduSize) : (a.collected len hlen t b).Valid := by
  refine ⟨fun _ _ _ hs => ?_, fun _ _ _ hs => ?_, fun _ _ hs => State.noConfusion hs⟩
  · cases hs
    exact ⟨Nat.succ_pos len, hlen⟩
  · cases hs
    exact ⟨rfl, rfl, t, rfl, Nat.le_refl t⟩

theorem Valid.ignored : (a.ignored t).Valid := by
  refine ⟨fun _ _ _ hs => State.noConfusion hs, fun _ _ _ hs => State.noConfusion hs,
    fun _ _ hs => ?_⟩
  cases hs
  exact ⟨rfl, rfl, t, rfl, Nat.le_refl t⟩

theorem Valid.rested : (a.rested t).Valid :=
  ⟨fun _ _ _ hs => State.noConfusion hs, fun _ _ _ hs => State.noConfusion hs,
    fun _ _ hs => State.noConfusion hs⟩

/-- A time that has not gone back lies behind the time the state waits from. -/
theorem Awaits.le (h : a.Awaits last d)
    (hord : ∀ previous, a.lastObserved = some previous → previous ≤ t) : last ≤ t := by
  obtain ⟨previous, hp, hle⟩ := h.observed
  exact Nat.le_trans hle (hord previous hp)

/-! ## Refusals -/

theorem planDeadline_refused (h : ¬(a.deadlineSequence + 1 ≤ u64Max ∧
    t + a.timing.t3_5 ≤ u64Max)) : ∃ e, (planDeadline t).run a = .error (.error e) a := by
  unfold planDeadline
  rw [run_get_bind]
  dsimp only
  split
  next => exact ⟨.deadlineGenerationOverflow, rfl⟩
  next hsequence =>
    have hover : t + a.timing.t3_5 > u64Max :=
      Nat.not_le.mp fun hle => h ⟨Nat.not_lt.mp hsequence, hle⟩
    refine ⟨.timestampOverflow t, ?_⟩
    show (ite _ _ _ : Assembly _).run a = _
    rw [if_pos hover]
    rfl

/-- A deadline is planned before anything is changed. -/
theorem receiveByte_refused (hv : a.Valid)
    (hord : ∀ previous, a.lastObserved = some previous → previous ≤ t) {e : AssemblerError}
    (h : (planDeadline t).run a = .error (.error e) a) (b : UInt8) :
    (receiveByte a t b).run a = .error (.error e) a := by
  unfold receiveByte
  cases hs : a.state with
  | idle => exact run_bind_error h
  | collecting len last d =>
    dsimp only
    rw [run_bind (elapsed_run ((hv.collecting len last d hs).le hord))]
    split
    · exact run_bind_error h
    · split
      · exact run_bind_error h
      · split
        · exact run_bind_error h
        · exact run_bind_error h
  | quarantined last d =>
    dsimp only
    rw [run_bind (elapsed_run ((hv.quarantined last d hs).le hord))]
    exact run_bind_error h

end

/-! ## The counters are not read -/

section Blind

variable {α β : Type}

/-- What a program does, seen apart from the counters. -/
def erased : EStateM.Result (Fault AssemblerError) RtuFrameAssembler α →
    EStateM.Result (Fault AssemblerError) RtuFrameAssembler α
  | .ok r a => .ok r a.uncounted
  | .error e a => .error e a.uncounted

/-- A program that does not look at the counters. -/
def Blind (x : Assembly α) : Prop := ∀ a, erased (x.run a) = erased (x.run a.uncounted)

theorem Blind.pure (r : α) : Blind (Pure.pure r : Assembly α) := fun _ => rfl

theorem Blind.throw (e : Fault AssemblerError) : Blind (throw e : Assembly α) := fun _ => rfl

theorem Blind.modify {f : RtuFrameAssembler → RtuFrameAssembler}
    (h : ∀ a, (f a).uncounted = (f a.uncounted).uncounted) : Blind (modify f : Assembly Unit) :=
  fun a => congrArg (EStateM.Result.ok ()) (h a)

theorem Blind.count (c : Counter) : Blind (count c) := .modify fun _ => rfl

theorem Blind.bind {x : Assembly α} {f : α → Assembly β} (hx : Blind x) (hf : ∀ r, Blind (f r)) :
    Blind (x >>= f) := by
  intro a
  have hsame := hx a
  cases hrun : x.run a with
  | ok r s =>
    cases hrun' : x.run a.uncounted with
    | ok r' s' =>
      rw [hrun, hrun'] at hsame
      obtain ⟨rfl, hs⟩ := EStateM.Result.ok.inj hsame
      rw [run_bind hrun, run_bind hrun', hf r s, hf r s', hs]
    | error e s' =>
      rw [hrun, hrun'] at hsame
      cases hsame
  | error e s =>
    cases hrun' : x.run a.uncounted with
    | ok r' s' =>
      rw [hrun, hrun'] at hsame
      cases hsame
    | error e' s' =>
      rw [hrun, hrun'] at hsame
      rw [run_bind_error hrun, run_bind_error hrun']
      exact congrArg₂ EStateM.Result.error (EStateM.Result.error.inj hsame).1
        (EStateM.Result.error.inj hsame).2

/-- Looking at the state is harmless if what follows would be the same without the counters. -/
theorem Blind.get_bind {f : RtuFrameAssembler → Assembly β} (hsame : ∀ a, f a = f a.uncounted)
    (hf : ∀ a, Blind (f a)) : Blind (get >>= f) := by
  intro a
  rw [run_get_bind, run_get_bind, hf a a, hsame a]

theorem Blind.ite {c : Prop} [Decidable c] {x y : Assembly α} (hx : Blind x) (hy : Blind y) :
    Blind (if c then x else y) := by
  split
  · exact hx
  · exact hy

theorem blind_checkTimestamp (t : Timestamp) : Blind (checkTimestamp t) := by
  refine .get_bind (fun _ => rfl) fun a => ?_
  cases a.lastObserved with
  | none => exact .pure _
  | some previous => exact .ite (.bind (.count _) fun _ => .throw _) (.pure _)

theorem blind_planDeadline (t : Timestamp) : Blind (planDeadline t) := by
  refine .get_bind (fun _ => rfl) fun a => ?_
  exact .ite (.bind (.throw _) fun _ => .ite (.bind (.throw _) fun _ => .pure _) (.pure _))
    (.ite (.bind (.throw _) fun _ => .pure _) (.pure _))

theorem blind_elapsed (t last : Timestamp) : Blind (elapsed t last) :=
  .ite (.pure _) (.throw _)

theorem blind_storeByte (index : Nat) (byte : UInt8) : Blind (storeByte index byte) := by
  unfold storeByte
  split
  · exact .modify fun _ => rfl
  · exact .throw _

theorem blind_startCandidate (t : Timestamp) (byte : UInt8) (d : AssemblerDeadline) (n : Nat) :
    Blind (startCandidate t byte d n) :=
  .bind (blind_storeByte 0 byte) fun _ => .modify fun _ => rfl

theorem blind_enterQuarantine (t : Timestamp) (d : AssemblerDeadline) (n : Nat) :
    Blind (enterQuarantine t d n) :=
  .modify fun _ => rfl

theorem blind_finishCandidate (len : Nat) : Blind (finishCandidate len) := by
  refine .ite (.bind (.count _) fun _ => .pure _) ?_
  refine .ite (.bind (.throw _) fun _ => ?rest) ?rest
  refine .get_bind (fun _ => rfl) fun a => ?_
  exact .ite (.bind (.count _) fun _ => .pure _) (.bind (.count _) fun _ => .pure _)

theorem blind_receiveByte (a : RtuFrameAssembler) (t : Timestamp) (b : UInt8) :
    Blind (receiveByte a t b) := by
  unfold receiveByte
  cases a.state with
  | idle =>
    exact .bind (blind_planDeadline t) fun p =>
      .bind (blind_startCandidate t b p.1 p.2) fun _ => .pure _
  | collecting len last d =>
    refine .bind (blind_elapsed t last) fun gap => .ite ?_ (.ite ?_ (.ite ?_ ?_))
    · exact .bind (blind_planDeadline t) fun p => .bind (blind_finishCandidate len) fun _ =>
        .bind (blind_startCandidate t b p.1 p.2) fun _ => .pure _
    · exact .bind (blind_planDeadline t) fun p => .bind (.count _) fun _ =>
        .bind (blind_enterQuarantine t p.1 p.2) fun _ => .pure _
    · exact .bind (blind_planDeadline t) fun p => .bind (.count _) fun _ =>
        .bind (blind_enterQuarantine t p.1 p.2) fun _ => .pure _
    · exact .bind (blind_planDeadline t) fun p => .bind (blind_storeByte len b) fun _ =>
        .bind (.modify fun _ => rfl) fun _ => .pure _
  | quarantined last d =>
    refine .bind (blind_elapsed t last) fun gap => .bind (blind_planDeadline t) fun p =>
      .ite ?_ ?_
    · exact .bind (blind_startCandidate t b p.1 p.2) fun _ => .bind (.count _) fun _ => .pure _
    · exact .bind (blind_enterQuarantine t p.1 p.2) fun _ => .pure _

theorem blind_observeByte (t : Timestamp) (byte : UInt8) : Blind (observeByte t byte) :=
  .bind (.count _) fun _ => .bind (blind_checkTimestamp t) fun _ =>
    .get_bind (fun _ => rfl) fun a => blind_receiveByte a t byte

theorem blind_observeDeadline (d : AssemblerDeadline) (t : Timestamp) :
    Blind (observeDeadline d t) := by
  refine .get_bind (fun _ => rfl) fun a => .ite (.bind (.count _) fun _ => .pure _) ?_
  refine .bind (blind_checkTimestamp t) fun _ => ?_
  refine .ite (.bind (.count _) fun _ => .bind (.throw _) fun _ => ?rest) ?rest
  refine .get_bind (fun _ => rfl) fun a => ?_
  cases a.state with
  | idle => exact .throw _
  | collecting len last d =>
    exact .bind (blind_finishCandidate len) fun _ => .bind (.modify fun _ => rfl) fun _ => .pure _
  | quarantined last d =>
    exact .bind (.modify fun _ => rfl) fun _ => .bind (.count _) fun _ => .pure _

end Blind

end RtuFrameAssembler

/-! ## Calls -/

open RtuFrameAssembler

/-- Results and the rest of the state do not depend on the counters. -/
theorem determines_uncounted :
    Erasure.Determines (fun a e => (Event.result e a, Event.next e a)) uncounted := by
  intro a a' e hsame
  have hblind : Blind e.observe := by
    cases e with
    | byte t b => exact blind_observeByte t b
    | deadline d t => exact blind_observeDeadline d t
  have hrun : erased (e.observe.run a) = erased (e.observe.run a') := by
    rw [hblind a, hblind a', hsame]
  show e.result a = e.result a' ∧ (e.next a).uncounted = (e.next a').uncounted
  unfold Event.result Event.next
  cases h : e.observe.run a with
  | ok r s =>
    cases h' : e.observe.run a' with
    | ok r' s' =>
      rw [h, h'] at hrun
      obtain ⟨hr, hs⟩ := EStateM.Result.ok.inj hrun
      exact ⟨congrArg _ hr, hs⟩
    | error err s' =>
      rw [h, h'] at hrun
      cases hrun
  | error err s =>
    cases h' : e.observe.run a' with
    | ok r' s' =>
      rw [h, h'] at hrun
      cases hrun
    | error err' s' =>
      rw [h, h'] at hrun
      obtain ⟨hr, hs⟩ := EStateM.Result.error.inj hrun
      exact ⟨congrArg _ hr, hs⟩

/-- All that a call can do to a valid assembler. -/
inductive Called (a : RtuFrameAssembler) :
    Event → Except (Fault AssemblerError) AssemblerOutcome → RtuFrameAssembler → Prop
  | refused {e error a'} (hsame : a'.uncounted = a.uncounted) :
    Called a e (.error (.error error)) a'
  | stale {d t a'} (hsame : a'.uncounted = a.uncounted) :
    Called a (.deadline d t) (.ok .staleDeadline) a'
  | collected {t b o a' len} (hlen : len < maxRtuAduSize) (ho : o ≠ .staleDeadline)
    (hnext : a'.uncounted = (a.collected len hlen t b).uncounted) :
    Called a (.byte t b) (.ok o) a'
  | ignored {t b o a'} (ho : o ≠ .staleDeadline) (hnext : a'.uncounted = (a.ignored t).uncounted) :
    Called a (.byte t b) (.ok o) a'
  | rested {d t o a'} (ho : o ≠ .staleDeadline) (hnext : a'.uncounted = (a.rested t).uncounted) :
    Called a (.deadline d t) (.ok o) a'

theorem closing_ne_staleDeadline (a : RtuFrameAssembler) (len : Nat) :
    a.closing len ≠ .staleDeadline := by
  unfold closing
  cases a.fault len <;> simp

variable {a : RtuFrameAssembler}

theorem called_receiveByte (hv : a.Valid) {t : Timestamp} (hready : a.Ready t) (b : UInt8) :
    ∃ o a', (receiveByte a t b).run a = .ok o a' ∧ Called a (.byte t b) (.ok o) a' := by
  cases hs : a.state with
  | idle => exact ⟨_, _, receiveByte_idle hready hs, .collected (by decide) (by simp) rfl⟩
  | collecting len last d =>
    have hle := (hv.collecting len last d hs).le hready.ordered
    have hlen := (hv.length len last d hs).2
    by_cases hboundary : a.timing.t3_5 ≤ t - last
    · exact ⟨_, _, receiveByte_boundary hready hs hle hlen hboundary,
        .collected (by decide) (closing_ne_staleDeadline a len) rfl⟩
    · by_cases hgap : a.timing.t1_5 < t - last
      · exact ⟨_, _, receiveByte_gap hready hs hle hboundary hgap, .ignored (by simp) rfl⟩
      · by_cases hfull : len = maxRtuAduSize
        · exact ⟨_, _, receiveByte_overlength hready hs hle hboundary hgap hfull,
            .ignored (by simp) rfl⟩
        · exact ⟨_, _, receiveByte_next hready hs hle hboundary hgap
            (Nat.lt_of_le_of_ne hlen hfull), .collected _ (by simp) rfl⟩
  | quarantined last d =>
    have hle := (hv.quarantined last d hs).le hready.ordered
    by_cases hboundary : a.timing.t3_5 ≤ t - last
    · exact ⟨_, _, receiveByte_recover hready hs hle hboundary, .collected (by decide) (by simp) rfl⟩
    · exact ⟨_, _, receiveByte_noise hready hs hle hboundary, .ignored (by simp) rfl⟩

theorem Called.of_uncounted {a c : RtuFrameAssembler} (hsame : c.uncounted = a.uncounted)
    {e : Event} {r : Except (Fault AssemblerError) AssemblerOutcome} {a' : RtuFrameAssembler}
    (h : Called c e r a') : Called a e r a' := by
  cases h with
  | refused h => exact .refused (h.trans hsame)
  | stale h => exact .stale (h.trans hsame)
  | collected hlen ho h =>
    refine .collected hlen ho (h.trans ?_)
    show (c.uncounted.collected _ hlen _ _).uncounted = (a.uncounted.collected _ hlen _ _).uncounted
    rw [hsame]
  | @ignored t b _ _ ho h =>
    refine .ignored ho (h.trans ?_)
    show (c.uncounted.ignored t).uncounted = (a.uncounted.ignored t).uncounted
    rw [hsame]
  | @rested d t _ _ ho h =>
    refine .rested ho (h.trans ?_)
    show (c.uncounted.rested t).uncounted = (a.uncounted.rested t).uncounted
    rw [hsame]

theorem called_byte (hv : a.Valid) (t : Timestamp) (b : UInt8) :
    Called a (.byte t b) (Event.result (.byte t b) a) (Event.next (.byte t b) a) := by
  have hv' := hv.counted .bytesObserved
  by_cases hord : ∀ previous, a.lastObserved = some previous → previous ≤ t
  · have hord' : ∀ previous, (a.counted .bytesObserved).lastObserved = some previous →
        previous ≤ t := hord
    have hobserve : (observeByte t b).run a = (receiveByte (a.counted .bytesObserved) t b).run
        (a.counted .bytesObserved) := by
      unfold observeByte
      rw [run_count_bind, run_bind (checkTimestamp_run hord'), run_get_bind]
    by_cases hplan : (a.counted .bytesObserved).deadlineSequence + 1 ≤ u64Max ∧
        t + (a.counted .bytesObserved).timing.t3_5 ≤ u64Max
    · obtain ⟨o, a', hrun, hcalled⟩ := called_receiveByte hv' ⟨hord', hplan.1, hplan.2⟩ b
      obtain ⟨hres, hnext⟩ := Event.of_ok (e := .byte t b) (hobserve.trans hrun)
      rw [hres, hnext]
      have hsame : (a.counted .bytesObserved).uncounted = a.uncounted := rfl
      exact hcalled.of_uncounted hsame
    · obtain ⟨error, herror⟩ := planDeadline_refused hplan
      obtain ⟨hres, hnext⟩ := Event.of_error (e := .byte t b)
        (hobserve.trans (receiveByte_refused hv' hord' herror b))
      rw [hres, hnext]
      exact .refused rfl
  · obtain ⟨p, hl, hlt⟩ := later_of_not_ordered hord
    have hl' : (a.counted .bytesObserved).lastObserved = some p := hl
    have hrun : (observeByte t b).run a = .error (.error (.timestampRegression p t))
        ((a.counted .bytesObserved).counted .timestampRegressions) := by
      unfold observeByte
      rw [run_count_bind]
      exact run_bind_error (checkTimestamp_regression hl' hlt)
    obtain ⟨hres, hnext⟩ := Event.of_error (e := .byte t b) hrun
    rw [hres, hnext]
    exact .refused rfl

theorem called_deadline (hv : a.Valid) (d : AssemblerDeadline) (t : Timestamp) :
    Called a (.deadline d t) (Event.result (.deadline d t) a) (Event.next (.deadline d t) a) := by
  by_cases hactive : a.state.deadline = some d
  · by_cases hgood : (∀ previous, a.lastObserved = some previous → previous ≤ t) ∧ d.dueAt ≤ t
    · obtain ⟨hord, hdue⟩ := hgood
      cases hs : a.state with
      | idle =>
        rw [hs] at hactive
        cases hactive
      | collecting len last d' =>
        rw [hs] at hactive
        obtain rfl : d' = d := Option.some.inj hactive
        obtain ⟨hres, hnext⟩ := Event.of_ok (e := .deadline d' t)
          (observeDeadline_collecting hs hord (hv.length len last d' hs).2 hdue)
        rw [hres, hnext]
        exact .rested (closing_ne_staleDeadline a len) rfl
      | quarantined last d' =>
        rw [hs] at hactive
        obtain rfl : d' = d := Option.some.inj hactive
        obtain ⟨hres, hnext⟩ := Event.of_ok (e := .deadline d' t)
          (observeDeadline_quarantined hs hord hdue)
        rw [hres, hnext]
        exact .rested (by simp) rfl
    · obtain ⟨error, c, -, hrun⟩ := observeDeadline_refused hactive hgood
      obtain ⟨hres, hnext⟩ := Event.of_error (e := .deadline d t) hrun
      rw [hres, hnext]
      exact .refused rfl
  · obtain ⟨hres, hnext⟩ := Event.of_ok (e := .deadline d t) (observeDeadline_stale hactive)
    rw [hres, hnext]
    exact .stale rfl

theorem called (hv : a.Valid) (e : Event) : Called a e (e.result a) (e.next a) := by
  cases e with
  | byte t b => exact called_byte hv t b
  | deadline d t => exact called_deadline hv d t

theorem Called.valid {a a' : RtuFrameAssembler} (hv : a.Valid) {e : Event}
    {r : Except (Fault AssemblerError) AssemblerOutcome} (h : Called a e r a') : a'.Valid := by
  cases h with
  | refused hsame | stale hsame => exact hv.of_uncounted hsame
  | collected hlen _ hnext => exact (Valid.collected hlen).of_uncounted hnext
  | ignored _ hnext => exact Valid.ignored.of_uncounted hnext
  | rested _ hnext => exact Valid.rested.of_uncounted hnext

theorem Valid.next (hv : a.Valid) (e : Event) : (e.next a).Valid :=
  (called hv e).valid hv

/-! ## Runs -/

theorem Valid.run (hv : a.Valid) (es : List Event) : (run a es).2.Valid := by
  induction es generalizing a with
  | nil => exact hv
  | cons e es ih => exact ih (Valid.next hv e)

/-- The deadline that a call has set: every byte that is not refused sets one. -/
def Event.issued (e : Event) (a : RtuFrameAssembler) : Option AssemblerDeadline :=
  match e, e.result a with
  | .byte _ _, .ok _ => (e.next a).state.deadline
  | _, _ => none

/-- The deadlines set along a sequence of calls. -/
def issued (a : RtuFrameAssembler) : List Event → List AssemblerDeadline
  | [] => []
  | e :: es => (e.issued a).toList ++ issued (e.next a) es

/-- A call sets a deadline with the next number, or leaves the active one or none. -/
theorem issued_step (hv : a.Valid) (e : Event) :
    (e.issued a = none ∧ (e.next a).deadlineSequence = a.deadlineSequence ∧
      ∀ d, (e.next a).state.deadline = some d → a.state.deadline = some d) ∨
    ∃ d, e.issued a = some d ∧ a.deadlineSequence < d.sequence ∧
      (e.next a).deadlineSequence = d.sequence ∧ (e.next a).state.deadline = some d := by
  have hcalled := called hv e
  unfold Event.issued
  generalize e.result a = r, e.next a = a' at hcalled ⊢
  cases hcalled with
  | refused hsame =>
    refine Or.inl ⟨?_, deadlineSequence_of_uncounted hsame, fun d hd => ?_⟩
    · cases e <;> rfl
    · rwa [state_of_uncounted hsame] at hd
  | stale hsame =>
    refine Or.inl ⟨rfl, deadlineSequence_of_uncounted hsame, fun d hd => ?_⟩
    rwa [state_of_uncounted hsame] at hd
  | @collected t b o _ len hlen ho hnext | @ignored t b o _ ho hnext =>
    have hactive : a'.state.deadline = some (a.planned t) := by
      rw [state_of_uncounted hnext]
      rfl
    refine Or.inr ⟨_, hactive, Nat.lt_succ_self _, ?_, hactive⟩
    rw [deadlineSequence_of_uncounted hnext]
    rfl
  | rested ho hnext =>
    refine Or.inl ⟨rfl, ?_, fun d hd => ?_⟩
    · rw [deadlineSequence_of_uncounted hnext]
      rfl
    · rw [state_of_uncounted hnext] at hd
      cases hd

/-- The numbers of the deadlines go up, from behind the last one used before. -/
theorem issued_increasing (hv : a.Valid) (es : List Event) :
    (issued a es).Pairwise (·.sequence < ·.sequence) ∧
      ∀ d ∈ issued a es, a.deadlineSequence < d.sequence := by
  induction es generalizing a with
  | nil => exact ⟨.nil, List.forall_mem_nil _⟩
  | cons e es ih =>
    obtain ⟨hpairwise, habove⟩ := ih (Valid.next hv e)
    rcases issued_step hv e with ⟨hnone, hsame, -⟩ | ⟨d, hsome, hlt, hnext, -⟩
    · rw [issued, hnone]
      exact ⟨hpairwise, fun d hd => hsame ▸ habove d hd⟩
    · rw [issued, hsome]
      refine ⟨List.pairwise_cons.mpr ⟨fun d' hd' => hnext ▸ habove d' hd', hpairwise⟩, ?_⟩
      intro d' hd'
      rcases List.mem_cons.mp hd' with rfl | hd'
      · exact hlt
      · exact Nat.lt_trans hlt (hnext ▸ habove d' hd')

/-- What is active at the end was active at the start and nothing has been set since, or it is
what was set last. -/
theorem active_issued (hv : a.Valid) (es : List Event) {d : AssemblerDeadline}
    (hd : (run a es).2.state.deadline = some d) :
    (issued a es = [] ∧ a.state.deadline = some d) ∨ (issued a es).getLast? = some d := by
  induction es generalizing a with
  | nil => exact Or.inl ⟨rfl, hd⟩
  | cons e es ih =>
    rw [issued]
    rcases ih (Valid.next hv e) hd with ⟨hnil, hactive⟩ | hlast
    · rw [hnil, List.append_nil]
      rcases issued_step hv e with ⟨hnone, -, hsame⟩ | ⟨d', hsome, -, -, hactive'⟩
      · exact Or.inl ⟨by rw [hnone]; rfl, hsame d hactive⟩
      · refine Or.inr ?_
        rw [hsome, ← hactive, hactive']
        rfl
    · refine Or.inr ?_
      rw [List.getLast?_append, hlast]
      rfl

theorem timing_run (a : RtuFrameAssembler) (hv : a.Valid) (es : List Event) :
    (run a es).2.timing = a.timing := by
  induction es generalizing a with
  | nil => rfl
  | cons e es ih =>
    refine (ih (e.next a) (Valid.next hv e)).trans ?_
    have hcalled := called hv e
    generalize e.result a = r, e.next a = a' at hcalled ⊢
    cases hcalled with
    | refused hsame | stale hsame => exact timing_of_uncounted hsame
    | collected _ _ hnext | ignored _ hnext | rested _ hnext =>
      rw [timing_of_uncounted hnext]
      rfl

/-- What holds after any calls `es` of a new assembler. -/
structure AssemblerLaw (timing : RtuTiming) (es : List Event) : Prop where
  steady : (run (.new timing) es).2.timing = timing
  /-- The invariant of the states. -/
  valid : (run (.new timing) es).2.Valid
  increasing : (issued (.new timing) es).Pairwise (·.sequence < ·.sequence)
  /-- Only the deadline that was set last can be active. -/
  active : ∀ d, (run (.new timing) es).2.state.deadline = some d →
    (issued (.new timing) es).getLast? = some d
  /-- No subtraction underflows, no index is out of bounds, and no unreachable arm is reached:
  the next call, whatever it is, does not panic. -/
  noPanic : ∀ e : Event, e.result (run (.new timing) es).2 ≠ .error .panic

theorem assembler_lawful (timing : RtuTiming) (es : List Event) : AssemblerLaw timing es where
  steady := timing_run _ (valid_new timing) es
  valid := Valid.run (valid_new timing) es
  increasing := (issued_increasing (valid_new timing) es).1
  active d hd := by
    rcases active_issued (valid_new timing) es hd with ⟨-, hidle⟩ | hlast
    · cases hidle
    · exact hlast
  noPanic e := by
    intro hpanic
    have hcalled := called (Valid.run (valid_new timing) es) e
    rw [hpanic] at hcalled
    cases hcalled

/-! ## Erasing calls -/

/-- A call was refused, or it was a stale callback. -/
def isIdle : Except (Fault AssemblerError) AssemblerOutcome → Bool
  | .error _ | .ok .staleDeadline => true
  | .ok _ => false

theorem uncounted_of_isIdle (hv : a.Valid) {e : Event} (h : isIdle (e.result a) = true) :
    (e.next a).uncounted = a.uncounted := by
  have hcalled := called hv e
  generalize e.result a = r, e.next a = a' at hcalled h ⊢
  have habsurd {o : AssemblerOutcome} (ho : o ≠ .staleDeadline) (h : isIdle (.ok o) = true) :
      False := by
    cases o with
    | staleDeadline => exact ho rfl
    | _ => cases h
  cases hcalled with
  | refused hsame | stale hsame => exact hsame
  | collected _ ho _ | ignored ho _ | rested ho _ => exact (habsurd ho h).elim

theorem zip_run (a : RtuFrameAssembler) (es : List Event) :
    es.zip (run a es).1 = Erasure.trace (fun a e => (Event.result e a, Event.next e a)) a es := by
  induction es generalizing a with
  | nil => rfl
  | cons e es ih => exact congrArg _ (ih (e.next a))

theorem run_eq_trace (a : RtuFrameAssembler) (es : List Event) :
    run a es = ((Erasure.trace (fun a e => (Event.result e a, Event.next e a)) a es).map Prod.snd,
      Erasure.final (fun a e => (Event.result e a, Event.next e a)) a es) := by
  induction es generalizing a with
  | nil => rfl
  | cons e es ih => rw [run, ih (e.next a)]; rfl

/-- Calls that fail, and stale callbacks, leave no trace in an assembler but in its counters. -/
structure Transactional (a : RtuFrameAssembler) : Prop where
  unchanged : ∀ e : Event, isIdle (e.result a) = true → (e.next a).uncounted = a.uncounted
  /-- `kept` is any sequence of calls with their results that has all calls of `es` but some of
  these. The calls kept have the same results without the others, and lead to the same state. -/
  erase : ∀ (es : List Event) (kept : List (Event × Except (Fault AssemblerError) AssemblerOutcome)),
    kept.Sublist (es.zip (run a es).1) →
    kept.filter (!isIdle ·.2) = (es.zip (run a es).1).filter (!isIdle ·.2) →
    (run a (kept.map Prod.fst)).1 = kept.map Prod.snd ∧
      (run a (kept.map Prod.fst)).2.uncounted = (run a es).2.uncounted

theorem assembler_transactional (timing : RtuTiming) (before : List Event) :
    Transactional (run (.new timing) before).2 where
  unchanged e := uncounted_of_isIdle (Valid.run (valid_new timing) before)
  erase es kept hsub hkept := by
    have hv := Valid.run (valid_new timing) before
    generalize (run (.new timing) before).2 = a at hv hsub hkept ⊢
    rw [zip_run] at hsub hkept
    obtain ⟨htrace, hfinal⟩ := Erasure.trace_kept determines_uncounted (I := Valid)
      (fun a e hv => Valid.next hv e) (fun a e hv h => uncounted_of_isIdle hv h) hv rfl hsub hkept
    rw [run_eq_trace, run_eq_trace]
    exact ⟨congrArg (List.map Prod.snd) htrace, hfinal⟩

end RustyModbus.Rtu
