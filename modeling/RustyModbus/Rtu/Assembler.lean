import RustyModbus.Frame.Crc
import RustyModbus.Frame.Mbap

/-!
# The RTU frame assembler

On a serial line a frame ends with a silence of `t3.5`; a silence above `t1.5` inside a frame
spoils it. The assembler is a state machine over timestamped bytes and the callbacks of a
deadline it sets itself. It has three states: idle, collecting the bytes of a candidate, and
quarantined after a spoiled one until the line has been silent for `t3.5`.

A call returns an outcome or an error and leaves the machine in its next state; the calls are
programs of the state monad `Assembly`, in which an error keeps the state reached so far, as the
`&mut self` methods do. Timestamps are nanoseconds. What the source does with unchecked
arithmetic, with an array index or with `unreachable!` raises `Fault.panic`.
-/

namespace RustyModbus.Rtu

open Wire

def u64Max : Nat := 18446744073709551615

/-- Nanoseconds from an epoch of the caller's choice. -/
abbrev Timestamp := Nat

inductive RtuTimingError
  | t1_5OutOfRange
  | t3_5OutOfRange
  | invalidTiming
deriving DecidableEq, Repr

structure RtuTiming where
  t1_5 : Nat
  t3_5 : Nat
  pos : 0 < t1_5
  lt : t1_5 < t3_5
  bounded : t3_5 ≤ u64Max

def RtuTiming.new (t1_5 t3_5 : Nat) : Except RtuTimingError RtuTiming :=
  if _ : t1_5 > u64Max then .error .t1_5OutOfRange
  else if _ : t3_5 > u64Max then .error .t3_5OutOfRange
  else if _ : t1_5 = 0 ∨ t1_5 ≥ t3_5 then .error .invalidTiming
  else .ok { t1_5, t3_5, pos := by omega, lt := by omega, bounded := by omega }

/-- A deadline with the number that tells it from older ones. -/
structure AssemblerDeadline where
  dueAt : Timestamp
  sequence : Nat
deriving DecidableEq, Repr

inductive AssemblerDiscardReason
  | interCharacterGap
  | overlength
  | tooShort
  | crcMismatch
deriving DecidableEq, Repr

inductive AssemblerRecovery
  | idle
  | candidateStarted
deriving DecidableEq, Repr

structure OwnedRtuAdu where
  bytes : Vector UInt8 maxRtuAduSize
  len : Nat
deriving DecidableEq, Repr

def OwnedRtuAdu.asBytes (adu : OwnedRtuAdu) : List UInt8 := adu.bytes.toList.take adu.len

inductive AssemblerOutcome
  | progress
  | frameReady (adu : OwnedRtuAdu)
  | discarded (reason : AssemblerDiscardReason)
  | recovered (recovery : AssemblerRecovery)
  | staleDeadline
deriving DecidableEq, Repr

inductive AssemblerError
  | timestampRegression (previous observed : Timestamp)
  | deadlineNotDue (deadline : AssemblerDeadline) (observed : Timestamp)
  | timestampOverflow (timestamp : Timestamp)
  | deadlineGenerationOverflow
deriving DecidableEq, Repr

/-! ## Counters -/

inductive Counter
  | bytesObserved | validFrames | interCharacterDiscards | overlengthDiscards
  | tooShortDiscards | crcMismatchDiscards | staleDeadlines | earlyDeadlines
  | timestampRegressions | quarantineRecoveries
deriving DecidableEq, Repr

/-- The counter of a discard class. -/
def AssemblerDiscardReason.counter : AssemblerDiscardReason → Counter
  | interCharacterGap => .interCharacterDiscards
  | overlength => .overlengthDiscards
  | tooShort => .tooShortDiscards
  | crcMismatch => .crcMismatchDiscards

structure AssemblerDiagnostics where
  bytesObserved : Nat := 0
  validFrames : Nat := 0
  interCharacterDiscards : Nat := 0
  overlengthDiscards : Nat := 0
  tooShortDiscards : Nat := 0
  crcMismatchDiscards : Nat := 0
  staleDeadlines : Nat := 0
  earlyDeadlines : Nat := 0
  timestampRegressions : Nat := 0
  quarantineRecoveries : Nat := 0
deriving DecidableEq, Repr

def saturatingIncrement (counter : Nat) : Nat := min (counter + 1) u64Max

namespace AssemblerDiagnostics

def get (d : AssemblerDiagnostics) : Counter → Nat
  | .bytesObserved => d.bytesObserved
  | .validFrames => d.validFrames
  | .interCharacterDiscards => d.interCharacterDiscards
  | .overlengthDiscards => d.overlengthDiscards
  | .tooShortDiscards => d.tooShortDiscards
  | .crcMismatchDiscards => d.crcMismatchDiscards
  | .staleDeadlines => d.staleDeadlines
  | .earlyDeadlines => d.earlyDeadlines
  | .timestampRegressions => d.timestampRegressions
  | .quarantineRecoveries => d.quarantineRecoveries

def increment (d : AssemblerDiagnostics) : Counter → AssemblerDiagnostics
  | .bytesObserved => { d with bytesObserved := saturatingIncrement d.bytesObserved }
  | .validFrames => { d with validFrames := saturatingIncrement d.validFrames }
  | .interCharacterDiscards =>
    { d with interCharacterDiscards := saturatingIncrement d.interCharacterDiscards }
  | .overlengthDiscards =>
    { d with overlengthDiscards := saturatingIncrement d.overlengthDiscards }
  | .tooShortDiscards => { d with tooShortDiscards := saturatingIncrement d.tooShortDiscards }
  | .crcMismatchDiscards =>
    { d with crcMismatchDiscards := saturatingIncrement d.crcMismatchDiscards }
  | .staleDeadlines => { d with staleDeadlines := saturatingIncrement d.staleDeadlines }
  | .earlyDeadlines => { d with earlyDeadlines := saturatingIncrement d.earlyDeadlines }
  | .timestampRegressions =>
    { d with timestampRegressions := saturatingIncrement d.timestampRegressions }
  | .quarantineRecoveries =>
    { d with quarantineRecoveries := saturatingIncrement d.quarantineRecoveries }

theorem get_increment (d : AssemblerDiagnostics) (c c' : Counter) :
    (d.increment c).get c' = if c' = c then saturatingIncrement (d.get c') else d.get c' := by
  cases c <;> cases c' <;> rfl

end AssemblerDiagnostics

/-! ## The machine -/

inductive State
  | idle
  | collecting (len : Nat) (lastByte : Timestamp) (deadline : AssemblerDeadline)
  | quarantined (lastNoise : Timestamp) (deadline : AssemblerDeadline)
deriving DecidableEq, Repr

def State.deadline : State → Option AssemblerDeadline
  | .idle => none
  | .collecting _ _ deadline | .quarantined _ deadline => some deadline

structure RtuFrameAssembler where
  timing : RtuTiming
  candidate : Vector UInt8 maxRtuAduSize
  state : State
  lastObserved : Option Timestamp
  deadlineSequence : Nat
  diagnostics : AssemblerDiagnostics

def RtuFrameAssembler.new (timing : RtuTiming) : RtuFrameAssembler :=
  { timing, candidate := Vector.replicate maxRtuAduSize 0, state := .idle, lastObserved := none,
    deadlineSequence := 0, diagnostics := {} }

/-- Programs of the assembler. An error keeps the state it was raised in. -/
abbrev Assembly := EStateM (Fault AssemblerError) RtuFrameAssembler

def count (c : Counter) : Assembly Unit :=
  modify fun a => { a with diagnostics := a.diagnostics.increment c }

def checkTimestamp (observed : Timestamp) : Assembly Unit := do
  match (← get).lastObserved with
  | some previous =>
    if observed < previous then
      count .timestampRegressions
      throw (.error (.timestampRegression previous observed))
  | none => return ()

def planDeadline (timestamp : Timestamp) : Assembly (AssemblerDeadline × Nat) := do
  let a ← get
  if a.deadlineSequence + 1 > u64Max then throw (.error .deadlineGenerationOverflow)
  let sequence := a.deadlineSequence + 1
  if timestamp + a.timing.t3_5 > u64Max then throw (.error (.timestampOverflow timestamp))
  let dueAt := timestamp + a.timing.t3_5
  return ({ dueAt, sequence }, sequence)

/-- `timestamp.as_nanos() - earlier.as_nanos()`. -/
def elapsed (timestamp earlier : Timestamp) : Assembly Nat :=
  if earlier ≤ timestamp then return timestamp - earlier else throw .panic

/-- `self.candidate[index] = byte`. -/
def storeByte (index : Nat) (byte : UInt8) : Assembly Unit :=
  if h : index < maxRtuAduSize then
    modify fun a => { a with candidate := a.candidate.set index byte h }
  else throw .panic

def startCandidate (timestamp : Timestamp) (byte : UInt8) (deadline : AssemblerDeadline)
    (sequence : Nat) : Assembly Unit := do
  storeByte 0 byte
  modify fun a =>
    { a with
      state := .collecting 1 timestamp deadline
      deadlineSequence := sequence
      lastObserved := some timestamp }

def enterQuarantine (timestamp : Timestamp) (deadline : AssemblerDeadline) (sequence : Nat) :
    Assembly Unit :=
  modify fun a =>
    { a with
      state := .quarantined timestamp deadline
      deadlineSequence := sequence
      lastObserved := some timestamp }

def finishCandidate (len : Nat) : Assembly AssemblerOutcome := do
  if len < 4 then
    count .tooShortDiscards
    return .discarded .tooShort
  if len > maxRtuAduSize then throw .panic
  let candidate := (← get).candidate
  if !verifyCrc (candidate.toList.take len) then
    count .crcMismatchDiscards
    return .discarded .crcMismatch
  let bytes := Vector.ofFn fun i => if i.val < len then candidate.get i else 0
  count .validFrames
  return .frameReady { bytes, len }

/-- `observe_byte` behind its checks: the match on the state. -/
def receiveByte (a : RtuFrameAssembler) (timestamp : Timestamp) (byte : UInt8) :
    Assembly AssemblerOutcome := do
  match a.state with
  | .idle =>
    let (deadline, sequence) ← planDeadline timestamp
    startCandidate timestamp byte deadline sequence
    return .progress
  | .collecting len lastByte _ =>
    let gap ← elapsed timestamp lastByte
    if gap ≥ a.timing.t3_5 then
      let (deadline, sequence) ← planDeadline timestamp
      let outcome ← finishCandidate len
      startCandidate timestamp byte deadline sequence
      return outcome
    if gap > a.timing.t1_5 then
      let (deadline, sequence) ← planDeadline timestamp
      count .interCharacterDiscards
      enterQuarantine timestamp deadline sequence
      return .discarded .interCharacterGap
    if len = maxRtuAduSize then
      let (deadline, sequence) ← planDeadline timestamp
      count .overlengthDiscards
      enterQuarantine timestamp deadline sequence
      return .discarded .overlength
    let (deadline, sequence) ← planDeadline timestamp
    storeByte len byte
    modify fun a =>
      { a with
        state := .collecting (len + 1) timestamp deadline
        deadlineSequence := sequence
        lastObserved := some timestamp }
    return .progress
  | .quarantined lastNoise _ =>
    let gap ← elapsed timestamp lastNoise
    let (deadline, sequence) ← planDeadline timestamp
    if gap ≥ a.timing.t3_5 then
      startCandidate timestamp byte deadline sequence
      count .quarantineRecoveries
      return .recovered .candidateStarted
    else
      enterQuarantine timestamp deadline sequence
      return .progress

def observeByte (timestamp : Timestamp) (byte : UInt8) : Assembly AssemblerOutcome := do
  count .bytesObserved
  checkTimestamp timestamp
  receiveByte (← get) timestamp byte

def observeDeadline (deadline : AssemblerDeadline) (observedAt : Timestamp) :
    Assembly AssemblerOutcome := do
  if (← get).state.deadline ≠ some deadline then
    count .staleDeadlines
    return .staleDeadline
  checkTimestamp observedAt
  if observedAt < deadline.dueAt then
    count .earlyDeadlines
    throw (.error (.deadlineNotDue deadline observedAt))
  match (← get).state with
  | .collecting len _ _ =>
    let outcome ← finishCandidate len
    modify fun a => { a with state := .idle, lastObserved := some observedAt }
    return outcome
  | .quarantined _ _ =>
    modify fun a => { a with state := .idle, lastObserved := some observedAt }
    count .quarantineRecoveries
    return .recovered .idle
  | .idle => throw .panic

/-! ## What a call does

Under the conditions a caller keeps (`Ready`) each call succeeds. The equations below give its
outcome and the next state, one for each way through the code; later proofs use these and do not
unfold the programs. -/

namespace RtuFrameAssembler

/-- The next byte may come at this time: time has not gone back, and a deadline can be set. -/
structure Ready (a : RtuFrameAssembler) (timestamp : Timestamp) : Prop where
  ordered : ∀ previous, a.lastObserved = some previous → previous ≤ timestamp
  sequence : a.deadlineSequence + 1 ≤ u64Max
  representable : timestamp + a.timing.t3_5 ≤ u64Max

def counted (a : RtuFrameAssembler) (c : Counter) : RtuFrameAssembler :=
  { a with diagnostics := a.diagnostics.increment c }

/-- The deadline set by a byte at this time. -/
def planned (a : RtuFrameAssembler) (timestamp : Timestamp) : AssemblerDeadline :=
  { dueAt := timestamp + a.timing.t3_5, sequence := a.deadlineSequence + 1 }

/-- The byte is the `len`-th of a candidate. -/
def collected (a : RtuFrameAssembler) (len : Nat) (h : len < maxRtuAduSize)
    (timestamp : Timestamp) (byte : UInt8) : RtuFrameAssembler :=
  { a with
    candidate := a.candidate.set len byte h
    state := .collecting (len + 1) timestamp (a.planned timestamp)
    deadlineSequence := a.deadlineSequence + 1
    lastObserved := some timestamp }

/-- The byte is noise. -/
def ignored (a : RtuFrameAssembler) (timestamp : Timestamp) : RtuFrameAssembler :=
  { a with
    state := .quarantined timestamp (a.planned timestamp)
    deadlineSequence := a.deadlineSequence + 1
    lastObserved := some timestamp }

def rested (a : RtuFrameAssembler) (observedAt : Timestamp) : RtuFrameAssembler :=
  { a with state := .idle, lastObserved := some observedAt }

/-- The owned copy of the first `len` bytes of the candidate. -/
def adu (a : RtuFrameAssembler) (len : Nat) : OwnedRtuAdu :=
  { bytes := Vector.ofFn fun i => if i.val < len then a.candidate.get i else 0, len }

/-- Why the first `len` bytes of the candidate are no frame, if they are none. -/
def fault (a : RtuFrameAssembler) (len : Nat) : Option AssemblerDiscardReason :=
  if len < 4 then some .tooShort
  else if verifyCrc (a.candidate.toList.take len) then none
  else some .crcMismatch

def closing (a : RtuFrameAssembler) (len : Nat) : AssemblerOutcome :=
  match a.fault len with
  | none => .frameReady (a.adu len)
  | some reason => .discarded reason

def closingCounter (a : RtuFrameAssembler) (len : Nat) : Counter :=
  match a.fault len with
  | none => .validFrames
  | some reason => reason.counter

section Runs

variable {α β : Type} {a a' : RtuFrameAssembler}

theorem run_bind {x : Assembly α} {f : α → Assembly β} {r : α} (h : x.run a = .ok r a') :
    (x >>= f).run a = (f r).run a' := by
  show EStateM.bind x f a = _
  rw [EStateM.bind, show x a = _ from h]
  rfl

theorem run_bind_error {x : Assembly α} {f : α → Assembly β} {e : Fault AssemblerError}
    (h : x.run a = .error e a') : (x >>= f).run a = .error e a' := by
  show EStateM.bind x f a = _
  rw [EStateM.bind, show x a = _ from h]

theorem run_get_bind {f : RtuFrameAssembler → Assembly β} : (get >>= f).run a = (f a).run a := rfl

theorem run_count_bind {c : Counter} {f : Unit → Assembly β} :
    (count c >>= f).run a = (f ()).run (a.counted c) := rfl

end Runs

variable {a : RtuFrameAssembler} {t lastByte : Timestamp} {b : UInt8} {len : Nat}
  {d : AssemblerDeadline}

theorem checkTimestamp_run (h : ∀ previous, a.lastObserved = some previous → previous ≤ t) :
    (checkTimestamp t).run a = .ok () a := by
  unfold checkTimestamp
  rw [run_get_bind]
  cases hl : a.lastObserved with
  | none => rfl
  | some p =>
    dsimp only
    rw [if_neg (Nat.not_lt.mpr (h p hl))]
    rfl

theorem checkTimestamp_regression {p : Timestamp} (hp : a.lastObserved = some p) (hlt : t < p) :
    (checkTimestamp t).run a
      = .error (.error (.timestampRegression p t)) (a.counted .timestampRegressions) := by
  unfold checkTimestamp
  rw [run_get_bind, hp]
  dsimp only
  rw [if_pos hlt]
  rfl

theorem planDeadline_run (h : a.Ready t) :
    (planDeadline t).run a = .ok (a.planned t, a.deadlineSequence + 1) a := by
  unfold planDeadline
  rw [run_get_bind]
  dsimp only
  rw [if_neg (Nat.not_lt.mpr h.sequence), if_neg (Nat.not_lt.mpr h.representable)]
  rfl

theorem elapsed_run (h : lastByte ≤ t) : (elapsed t lastByte).run a = .ok (t - lastByte) a := by
  rw [elapsed, if_pos h]
  rfl

theorem finishCandidate_run (h : len ≤ 256) :
    (finishCandidate len).run a = .ok (a.closing len) (a.counted (a.closingCounter len)) := by
  have h256 : ¬len > maxRtuAduSize := Nat.not_lt.mpr h
  unfold finishCandidate closing closingCounter fault
  by_cases h4 : len < 4
  · simp only [if_pos h4]
    rfl
  · simp only [if_neg h4, if_neg h256]
    rw [run_get_bind]
    by_cases hcrc : verifyCrc (a.candidate.toList.take len) = true
    · simp only [hcrc, if_true]
      rfl
    · simp only [hcrc]
      rfl

theorem Ready.counted (h : a.Ready t) (c : Counter) : (a.counted c).Ready t :=
  ⟨h.ordered, h.sequence, h.representable⟩

theorem observeByte_run (h : a.Ready t) :
    (observeByte t b).run a
      = (receiveByte (a.counted .bytesObserved) t b).run (a.counted .bytesObserved) := by
  unfold observeByte
  rw [run_count_bind, run_bind (checkTimestamp_run (h.counted _).ordered), run_get_bind]

theorem receiveByte_idle (h : a.Ready t) (hs : a.state = .idle) :
    (receiveByte a t b).run a = .ok .progress (a.collected 0 (by decide) t b) := by
  unfold receiveByte
  rw [hs]
  dsimp only
  rw [run_bind (planDeadline_run h)]
  rfl

/-- After a silence of `t3.5` the byte closes the candidate and starts the next. -/
theorem receiveByte_boundary (h : a.Ready t) (hs : a.state = .collecting len lastByte d)
    (hle : lastByte ≤ t) (hlen : len ≤ 256) (hgap : a.timing.t3_5 ≤ t - lastByte) :
    (receiveByte a t b).run a = .ok (a.closing len)
      ((a.counted (a.closingCounter len)).collected 0 (by decide) t b) := by
  unfold receiveByte
  rw [hs]
  dsimp only
  rw [run_bind (elapsed_run hle), if_pos hgap, run_bind (planDeadline_run h)]
  dsimp only
  rw [run_bind (finishCandidate_run hlen)]
  rfl

/-- A silence above `t1.5` spoils the candidate. -/
theorem receiveByte_gap (h : a.Ready t) (hs : a.state = .collecting len lastByte d)
    (hle : lastByte ≤ t) (hlt : ¬a.timing.t3_5 ≤ t - lastByte)
    (hgap : a.timing.t1_5 < t - lastByte) :
    (receiveByte a t b).run a = .ok (.discarded .interCharacterGap)
      ((a.counted .interCharacterDiscards).ignored t) := by
  unfold receiveByte
  rw [hs]
  dsimp only
  rw [run_bind (elapsed_run hle), if_neg hlt, if_pos hgap, run_bind (planDeadline_run h)]
  rfl

/-- So does a byte behind a full candidate. -/
theorem receiveByte_overlength (h : a.Ready t) (hs : a.state = .collecting len lastByte d)
    (hle : lastByte ≤ t) (hlt : ¬a.timing.t3_5 ≤ t - lastByte)
    (hgap : ¬a.timing.t1_5 < t - lastByte) (hlen : len = maxRtuAduSize) :
    (receiveByte a t b).run a = .ok (.discarded .overlength)
      ((a.counted .overlengthDiscards).ignored t) := by
  unfold receiveByte
  rw [hs]
  dsimp only
  rw [run_bind (elapsed_run hle), if_neg hlt, if_neg hgap, if_pos hlen,
    run_bind (planDeadline_run h)]
  rfl

theorem receiveByte_next (h : a.Ready t) (hs : a.state = .collecting len lastByte d)
    (hle : lastByte ≤ t) (hlt : ¬a.timing.t3_5 ≤ t - lastByte)
    (hgap : ¬a.timing.t1_5 < t - lastByte) (hlen : len < maxRtuAduSize) :
    (receiveByte a t b).run a = .ok .progress (a.collected len hlen t b) := by
  unfold receiveByte
  rw [hs]
  dsimp only
  rw [run_bind (elapsed_run hle), if_neg hlt, if_neg hgap, if_neg (Nat.ne_of_lt hlen),
    run_bind (planDeadline_run h)]
  dsimp only
  rw [storeByte, dif_pos hlen]
  rfl

theorem receiveByte_recover (h : a.Ready t) (hs : a.state = .quarantined lastByte d)
    (hle : lastByte ≤ t) (hgap : a.timing.t3_5 ≤ t - lastByte) :
    (receiveByte a t b).run a = .ok (.recovered .candidateStarted)
      ((a.collected 0 (by decide) t b).counted .quarantineRecoveries) := by
  unfold receiveByte
  rw [hs]
  dsimp only
  rw [run_bind (elapsed_run hle), run_bind (planDeadline_run h)]
  dsimp only
  rw [if_pos hgap]
  rfl

theorem receiveByte_noise (h : a.Ready t) (hs : a.state = .quarantined lastByte d)
    (hle : lastByte ≤ t) (hgap : ¬a.timing.t3_5 ≤ t - lastByte) :
    (receiveByte a t b).run a = .ok .progress (a.ignored t) := by
  unfold receiveByte
  rw [hs]
  dsimp only
  rw [run_bind (elapsed_run hle), run_bind (planDeadline_run h)]
  dsimp only
  rw [if_neg hgap]
  rfl

/-- A callback of a deadline that is not active is only counted. -/
theorem observeDeadline_stale (h : a.state.deadline ≠ some d) :
    (observeDeadline d t).run a = .ok .staleDeadline (a.counted .staleDeadlines) := by
  unfold observeDeadline
  rw [run_get_bind, if_pos h]
  rfl

theorem later_of_not_ordered (h : ¬∀ previous, a.lastObserved = some previous → previous ≤ t) :
    ∃ previous, a.lastObserved = some previous ∧ t < previous := by
  cases hl : a.lastObserved with
  | none => exact absurd (fun p hp => by rw [hl] at hp; cases hp) h
  | some p =>
    refine ⟨p, rfl, Nat.not_le.mp fun hle => h fun q hq => ?_⟩
    rw [hl] at hq
    cases hq
    exact hle

/-- A callback that comes out of order or before the deadline is due is refused and only
counted. -/
theorem observeDeadline_refused (h : a.state.deadline = some d)
    (hbad : ¬((∀ previous, a.lastObserved = some previous → previous ≤ t) ∧ d.dueAt ≤ t)) :
    ∃ e c, (c = .timestampRegressions ∨ c = .earlyDeadlines) ∧
      (observeDeadline d t).run a = .error (.error e) (a.counted c) := by
  unfold observeDeadline
  rw [run_get_bind, if_neg (not_not_intro h)]
  by_cases hord : ∀ previous, a.lastObserved = some previous → previous ≤ t
  · refine ⟨.deadlineNotDue d t, .earlyDeadlines, Or.inr rfl, ?_⟩
    rw [run_bind (checkTimestamp_run hord), if_pos (Nat.not_le.mp fun hle => hbad ⟨hord, hle⟩)]
    rfl
  · obtain ⟨p, hl, hlt⟩ := later_of_not_ordered hord
    exact ⟨_, _, Or.inl rfl, run_bind_error (checkTimestamp_regression hl hlt)⟩

/-- A callback before the deadline is due is refused and only counted. -/
theorem observeDeadline_early (h : a.state.deadline = some d) (hearly : t < d.dueAt) :
    ∃ e c, (c = .timestampRegressions ∨ c = .earlyDeadlines) ∧
      (observeDeadline d t).run a = .error e (a.counted c) := by
  obtain ⟨e, c, hc, hrun⟩ := observeDeadline_refused (t := t) h
    fun hgood => Nat.not_le.mpr hearly hgood.2
  exact ⟨.error e, c, hc, hrun⟩

theorem observeDeadline_collecting (hs : a.state = .collecting len lastByte d)
    (hord : ∀ previous, a.lastObserved = some previous → previous ≤ t) (hlen : len ≤ 256)
    (hdue : d.dueAt ≤ t) :
    (observeDeadline d t).run a
      = .ok (a.closing len) ((a.counted (a.closingCounter len)).rested t) := by
  unfold observeDeadline
  rw [run_get_bind, if_neg (not_not_intro (by rw [hs]; rfl)), run_bind (checkTimestamp_run hord),
    if_neg (Nat.not_lt.mpr hdue), run_get_bind, hs]
  dsimp only
  rw [run_bind (finishCandidate_run hlen)]
  rfl

theorem observeDeadline_quarantined (hs : a.state = .quarantined lastByte d)
    (hord : ∀ previous, a.lastObserved = some previous → previous ≤ t) (hdue : d.dueAt ≤ t) :
    (observeDeadline d t).run a
      = .ok (.recovered .idle) ((a.rested t).counted .quarantineRecoveries) := by
  unfold observeDeadline
  rw [run_get_bind, if_neg (not_not_intro (by rw [hs]; rfl)), run_bind (checkTimestamp_run hord),
    if_neg (Nat.not_lt.mpr hdue), run_get_bind, hs]
  rfl

end RtuFrameAssembler

end RustyModbus.Rtu
