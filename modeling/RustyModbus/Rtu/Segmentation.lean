import Mathlib.Data.List.SplitBy
import RustyModbus.Rtu.Assembler

/-!
# What the assembler makes of a timed byte string

The purpose of the assembler, stated without its states: cut the bytes wherever the line was
silent for `t3.5` or longer (`runs`), and give each run its `verdict`. A run is a frame if it has
no inner silence above `t1.5`, a legal length and a correct checksum; any other run is
discarded for the first violation met in it.

The machine reaches these verdicts although the callbacks of its deadline race with the bytes.
`Phase` ties a state to the bytes of the current run. Each event adds to the run or closes it,
and emits what then becomes certain (`Phase.byte`, `Phase.deadline`). What is still to come is
`pending`, a function of the state and the bytes ahead; an event moves emissions from the front
of it and changes nothing else, which gives the result for whole schedules by induction.
-/

namespace RustyModbus.Rtu

open Wire RtuFrameAssembler

/-! ## Events -/

inductive Event
  | byte (timestamp : Timestamp) (byte : UInt8)
  | deadline (deadline : AssemblerDeadline) (observedAt : Timestamp)
deriving DecidableEq, Repr

namespace Event

def observe : Event → Assembly AssemblerOutcome
  | byte timestamp b => observeByte timestamp b
  | deadline d observedAt => observeDeadline d observedAt

def result (e : Event) (a : RtuFrameAssembler) : Except (Fault AssemblerError) AssemblerOutcome :=
  match e.observe.run a with
  | .ok outcome _ => .ok outcome
  | .error err _ => .error err

def next (e : Event) (a : RtuFrameAssembler) : RtuFrameAssembler :=
  match e.observe.run a with
  | .ok _ a' => a'
  | .error _ a' => a'

end Event

/-- The results of a sequence of calls and the assembler afterwards. -/
def run (a : RtuFrameAssembler) :
    List Event → List (Except (Fault AssemblerError) AssemblerOutcome) × RtuFrameAssembler
  | [] => ([], a)
  | e :: es => (e.result a :: (run (e.next a) es).1, (run (e.next a) es).2)

abbrev TimedByte := Timestamp × UInt8

def bytesOf : List Event → List TimedByte
  | [] => []
  | .byte timestamp b :: es => (timestamp, b) :: bytesOf es
  | .deadline _ _ :: es => bytesOf es

/-! ## The verdicts on a timed byte string -/

/-- The maximal runs without a silence of `t3.5`. -/
def runs (timing : RtuTiming) (bs : List TimedByte) : List (List TimedByte) :=
  bs.splitBy fun p q => decide (q.1 - p.1 < timing.t3_5)

/-- A run that is a frame. -/
def Clean (timing : RtuTiming) (r : List TimedByte) : Prop :=
  r.IsChain (fun p q => q.1 - p.1 ≤ timing.t1_5) ∧ (4 ≤ r.length ∧ r.length ≤ 256) ∧
    verifyCrc (r.map Prod.snd) = true

instance (timing : RtuTiming) (r : List TimedByte) : Decidable (Clean timing r) :=
  inferInstanceAs (Decidable (_ ∧ _ ∧ _))

/-- The first violation at a byte, the first byte being the `n`-th of its run. -/
def firstViolation (timing : RtuTiming) : Nat → List TimedByte → Option AssemblerDiscardReason
  | n, p :: q :: rest =>
    if timing.t1_5 < q.1 - p.1 then some .interCharacterGap
    else if n = 256 then some .overlength
    else firstViolation timing (n + 1) (q :: rest)
  | _, _ => none

def discardReason (timing : RtuTiming) (r : List TimedByte) : AssemblerDiscardReason :=
  match firstViolation timing 1 r with
  | some violation => violation
  | none => if r.length < 4 then .tooShort else .crcMismatch

inductive Emission
  | frame (bytes : List UInt8)
  | discard (reason : AssemblerDiscardReason)
deriving DecidableEq, Repr

def verdict (timing : RtuTiming) (r : List TimedByte) : Emission :=
  if Clean timing r then .frame (r.map Prod.snd) else .discard (discardReason timing r)

def emission : Except (Fault AssemblerError) AssemblerOutcome → Option Emission
  | .ok (.frameReady adu) => some (.frame adu.asBytes)
  | .ok (.discarded reason) => some (.discard reason)
  | _ => none

/-! ## Violations and runs -/

section Spec

variable {timing : RtuTiming}

variable {p : TimedByte}

/-- Without a violation the silences are short and the run is not too long. -/
theorem firstViolation_eq_none {n : Nat} (hn : n ≤ 256) {rest : List TimedByte} :
    firstViolation timing n (p :: rest) = none ↔
      (p :: rest).IsChain (fun p q => q.1 - p.1 ≤ timing.t1_5) ∧ n + rest.length ≤ 256 := by
  induction rest generalizing p n with
  | nil => simp [firstViolation, hn]
  | cons q rest ih =>
    rw [firstViolation, List.isChain_cons_cons, List.length_cons]
    by_cases hgap : timing.t1_5 < q.1 - p.1
    · rw [if_pos hgap]
      simp [Nat.not_le.mpr hgap]
    · rw [if_neg hgap]
      by_cases hfull : n = 256
      · rw [if_pos hfull]
        refine iff_of_false nofun fun h => ?_
        omega
      · rw [if_neg hfull, ih (by omega)]
        refine ⟨fun ⟨hc, hl⟩ => ⟨⟨by omega, hc⟩, by omega⟩, fun ⟨⟨_, hc⟩, hl⟩ => ⟨hc, by omega⟩⟩

variable {r : List TimedByte}

theorem length_le_of_firstViolation (h : firstViolation timing 1 r = none) : r.length ≤ 256 := by
  cases r with
  | nil => exact Nat.zero_le _
  | cons p rest =>
    have := ((firstViolation_eq_none (by decide)).mp h).2
    rw [List.length_cons]
    omega

/-- The violation at one more byte counts only if there was none before. -/
theorem firstViolation_snoc (p q : TimedByte) : ∀ (r : List TimedByte) (n : Nat),
    firstViolation timing n (r ++ [p, q]) =
      (firstViolation timing n (r ++ [p])).or
        (if timing.t1_5 < q.1 - p.1 then some .interCharacterGap
         else if n + r.length = 256 then some .overlength else none)
  | [], n => by simp [firstViolation]
  | [x], n => by
    simp only [List.cons_append, List.nil_append, firstViolation, List.length_singleton]
    split
    · rfl
    · split
      · rfl
      · rfl
  | x :: y :: r, n => by
    have ih := firstViolation_snoc p q (y :: r) (n + 1)
    simp only [List.cons_append, firstViolation, List.length_cons] at ih ⊢
    split
    · rfl
    · split
      · rfl
      · rw [ih]
        simp [Nat.add_assoc, Nat.add_comm 1]

/-- A violation stays the first one, whatever follows. -/
theorem firstViolation_append {v : AssemblerDiscardReason} (more : List TimedByte) {n : Nat}
    (h : firstViolation timing n r = some v) :
    firstViolation timing n (r ++ more) = some v := by
  induction r generalizing n with
  | nil => cases h
  | cons p r ih =>
    cases r with
    | nil => cases h
    | cons q r =>
      simp only [List.cons_append, firstViolation] at h ih ⊢
      split
      · next hgap => rwa [if_pos hgap] at h
      · next hgap =>
          rw [if_neg hgap] at h
          split
          · next hfull => rwa [if_pos hfull] at h
          · next hfull =>
              rw [if_neg hfull] at h
              exact ih h

theorem firstViolation_concat (hlast : r.getLast? = some p) (q : TimedByte) :
    firstViolation timing 1 (r ++ [q]) =
      (firstViolation timing 1 r).or
        (if timing.t1_5 < q.1 - p.1 then some .interCharacterGap
         else if r.length = 256 then some .overlength else none) := by
  obtain ⟨r, rfl⟩ := List.getLast?_eq_some_iff.mp hlast
  rw [List.append_assoc, List.singleton_append, firstViolation_snoc, List.length_append,
    List.length_singleton, Nat.add_comm 1]

theorem verdict_of_violation {v : AssemblerDiscardReason} (h : firstViolation timing 1 r = some v) :
    verdict timing r = .discard v := by
  have hnot : ¬Clean timing r := by
    intro ⟨hchain, ⟨_, h256⟩, _⟩
    cases r with
    | nil => cases h
    | cons p rest =>
      rw [List.length_cons, Nat.add_comm] at h256
      rw [(firstViolation_eq_none (by decide)).mpr ⟨hchain, h256⟩] at h
      cases h
  rw [verdict, if_neg hnot, discardReason, h]

/-- Without a violation at a byte the length and the checksum decide. -/
theorem verdict_of_none (hr : r ≠ []) (h : firstViolation timing 1 r = none) :
    verdict timing r =
      if r.length < 4 then .discard .tooShort
      else if verifyCrc (r.map Prod.snd) then .frame (r.map Prod.snd)
      else .discard .crcMismatch := by
  obtain ⟨p, rest, rfl⟩ := List.exists_cons_of_ne_nil hr
  obtain ⟨hchain, hlen⟩ := (firstViolation_eq_none (by decide)).mp h
  rw [verdict, discardReason, h]
  by_cases h4 : (p :: rest).length < 4
  · rw [if_neg fun hc => Nat.not_le.mpr h4 hc.2.1.1, if_pos h4, if_pos h4]
  · rw [if_neg h4, if_neg h4]
    by_cases hcrc : verifyCrc ((p :: rest).map Prod.snd) = true
    · rw [if_pos hcrc, if_pos ⟨hchain, ⟨Nat.not_lt.mp h4, by rw [List.length_cons]; omega⟩, hcrc⟩]
    · rw [if_neg hcrc, if_neg fun hc => hcrc hc.2.2]

/-- A run ends where the silence before the next byte is `t3.5` or longer. -/
theorem runs_append {r bs : List TimedByte} (hlast : r.getLast? = some p)
    (hchain : r.IsChain fun p q => q.1 - p.1 < timing.t3_5)
    (hgap : ∀ q ∈ bs.head?, timing.t3_5 ≤ q.1 - p.1) :
    runs timing (r ++ bs) = r :: runs timing bs := by
  have hne : r ≠ [] := fun h => by simp [h] at hlast
  unfold runs
  rw [List.splitBy_append, List.splitBy_of_isChain hne (by simpa using hchain)]
  · rfl
  · intro x hx q hq
    obtain rfl : p = x := by simpa [hlast] using hx
    simpa using hgap q hq

theorem isChain_concat {R : TimedByte → TimedByte → Prop} {p q : TimedByte}
    (hlast : r.getLast? = some p) (hchain : r.IsChain R) (hpq : R p q) : (r ++ [q]).IsChain R := by
  refine List.isChain_append.mpr ⟨hchain, List.isChain_singleton q, ?_⟩
  intro x hx y hy
  obtain rfl : p = x := by simpa [hlast] using hx
  obtain rfl : q = y := by simpa using hy
  exact hpq

/-- The first run of a stream that starts inside a run starts with what is there of it. -/
theorem runs_prefix (hlast : r.getLast? = some p)
    (hchain : r.IsChain fun p q => q.1 - p.1 < timing.t3_5) (bs : List TimedByte) :
    ∃ more rest, runs timing (r ++ bs) = (r ++ more) :: rest := by
  induction bs generalizing r p with
  | nil => exact ⟨[], [], by rw [runs_append hlast hchain (by simp), List.append_nil]; rfl⟩
  | cons q bs ih =>
    by_cases hgap : timing.t3_5 ≤ q.1 - p.1
    · refine ⟨[], runs timing (q :: bs), ?_⟩
      rw [runs_append hlast hchain (by simpa using hgap), List.append_nil]
    · obtain ⟨more, rest, h⟩ :=
        ih List.getLast?_concat (isChain_concat (q := q) hlast hchain (Nat.not_le.mp hgap))
      refine ⟨q :: more, rest, ?_⟩
      simpa using h

end Spec

/-! ## The state and the current run -/

/-- What a state remembers of the current run `r`. -/
inductive Phase (a : RtuFrameAssembler) : List TimedByte → Prop
  | idle (hs : a.state = .idle) : Phase a []
  | collecting {r p d} (hs : a.state = .collecting r.length p.1 d) (hlast : r.getLast? = some p)
    (hdue : d.dueAt = p.1 + a.timing.t3_5) (hobs : a.lastObserved = some p.1)
    (hcand : a.candidate.toList.take r.length = r.map Prod.snd)
    (hnone : firstViolation a.timing 1 r = none) : Phase a r
  | quarantined {r p d v} (hs : a.state = .quarantined p.1 d) (hlast : r.getLast? = some p)
    (hdue : d.dueAt = p.1 + a.timing.t3_5) (hobs : a.lastObserved = some p.1)
    (hchain : r.IsChain fun p q => q.1 - p.1 < a.timing.t3_5)
    (hviol : firstViolation a.timing 1 r = some v) : Phase a r

/-- What is still to be emitted in a state inside the run `r` with the bytes `bs` ahead. In
quarantine the verdict on the current run is out. -/
def pending (a : RtuFrameAssembler) (r bs : List TimedByte) : List Emission :=
  match a.state with
  | .quarantined _ _ => ((runs a.timing (r ++ bs)).map (verdict a.timing)).tail
  | _ => (runs a.timing (r ++ bs)).map (verdict a.timing)

def Emission.counter : Emission → Counter
  | frame _ => .validFrames
  | discard reason => reason.counter

/-- The counters of frames and discards. -/
def Counter.Classifies : Counter → Prop
  | validFrames | interCharacterDiscards | overlengthDiscards | tooShortDiscards
  | crcMismatchDiscards => True
  | _ => False

/-- The counters of frames and discards after an emission or without one. -/
def Records (d d' : AssemblerDiagnostics) (em : Option Emission) : Prop :=
  ∀ c : Counter, c.Classifies → d'.get c =
    if em.map Emission.counter = some c then saturatingIncrement (d.get c) else d.get c

theorem records_none {d : AssemblerDiagnostics} {c : Counter} (h : ¬c.Classifies) :
    Records d (d.increment c) none := by
  intro c' hc'
  have hne : c' ≠ c := fun heq => h (heq ▸ hc')
  rw [d.get_increment, if_neg hne]
  rfl

theorem records_some {d d' : AssemblerDiagnostics} (h : Records d d' none) (em : Emission) :
    Records d (d'.increment em.counter) (some em) := by
  intro c hc
  have hc' : d'.get c = d.get c := h c hc
  rw [d'.get_increment, hc', Option.map_some]
  by_cases heq : c = em.counter
  · rw [if_pos heq, if_pos (by rw [heq])]
  · rw [if_neg heq, if_neg fun h => heq (Option.some.inj h).symm]

theorem asBytes_adu (a : RtuFrameAssembler) (len : Nat) :
    (a.adu len).asBytes = a.candidate.toList.take len := by
  rw [OwnedRtuAdu.asBytes]
  refine List.ext_getElem (by simp [adu]) fun i hi _ => ?_
  have hlt : i < len := by
    simp only [adu, List.length_take] at hi
    omega
  simp [adu, hlt]
  rfl

variable {r : List TimedByte}

/-- Closing a candidate without violation gives the verdict on its run. -/
theorem closing_eq {a : RtuFrameAssembler} (hr : r ≠ [])
    (hcand : a.candidate.toList.take r.length = r.map Prod.snd)
    (hnone : firstViolation a.timing 1 r = none) :
    emission (.ok (a.closing r.length)) = some (verdict a.timing r) ∧
      a.closingCounter r.length = (verdict a.timing r).counter := by
  unfold closing closingCounter fault
  rw [verdict_of_none hr hnone, hcand]
  by_cases h4 : r.length < 4
  · simp only [if_pos h4]
    exact ⟨rfl, rfl⟩
  · simp only [if_neg h4]
    by_cases hcrc : verifyCrc (r.map Prod.snd) = true
    · simp only [if_pos hcrc]
      refine ⟨?_, rfl⟩
      rw [emission, asBytes_adu, hcand]
    · simp only [if_neg hcrc]
      exact ⟨rfl, rfl⟩

theorem records_refl (d : AssemblerDiagnostics) : Records d d none := fun _ _ => rfl

theorem records_closing {a : RtuFrameAssembler} (hr : r ≠ [])
    (hcand : a.candidate.toList.take r.length = r.map Prod.snd)
    (hnone : firstViolation a.timing 1 r = none) :
    Records a.diagnostics (a.counted (a.closingCounter r.length)).diagnostics
      (emission (.ok (a.closing r.length))) := by
  obtain ⟨hem, hcounter⟩ := closing_eq hr hcand hnone
  rw [hem, hcounter]
  exact records_some (records_refl _) _

/-! ## One event -/

section Step

variable {a : RtuFrameAssembler} {r : List TimedByte} {t : Timestamp} {b : UInt8}

/-- Short silences are no silences of `t3.5`. -/
theorem isChain_of_firstViolation (h : firstViolation a.timing 1 r = none) :
    r.IsChain fun p q => q.1 - p.1 < a.timing.t3_5 := by
  cases r with
  | nil => exact List.isChain_nil
  | cons p rest =>
    have hlt := a.timing.lt
    exact ((firstViolation_eq_none (by decide)).mp h).1.imp fun _ _ hle => by omega

theorem Phase.counted (h : Phase a r) (c : Counter) : Phase (a.counted c) r := by
  cases h with
  | idle hs => exact .idle hs
  | collecting hs hlast hdue hobs hcand hnone => exact .collecting hs hlast hdue hobs hcand hnone
  | quarantined hs hlast hdue hobs hchain hviol =>
    exact .quarantined hs hlast hdue hobs hchain hviol

theorem Phase.collected {len : Nat} (hlen : len < maxRtuAduSize) (hr : r.length = len)
    (hcand : a.candidate.toList.take len = r.map Prod.snd)
    (hnone : firstViolation a.timing 1 (r ++ [(t, b)]) = none) :
    Phase (a.collected len hlen t b) (r ++ [(t, b)]) := by
  subst hr
  refine .collecting (p := (t, b)) (d := a.planned t) ?_ List.getLast?_concat rfl rfl ?_ hnone
  · rw [List.length_append]
    rfl
  · have hlt : r.length < a.candidate.toList.length := by rwa [Vector.length_toList]
    rw [List.length_append, List.map_append, ← hcand, RtuFrameAssembler.collected,
      Vector.toList_set, List.length_singleton, List.take_add_one,
      List.take_set_of_le (Nat.le_refl _), List.getElem?_set_self hlt]
    rfl

/-- A byte that starts a candidate starts a run. -/
theorem Phase.started (hlen : 0 < maxRtuAduSize) : Phase (a.collected 0 hlen t b) [(t, b)] :=
  Phase.collected (r := []) hlen rfl rfl rfl

theorem Phase.ignored {v : AssemblerDiscardReason}
    (hchain : (r ++ [(t, b)]).IsChain fun p q => q.1 - p.1 < a.timing.t3_5)
    (hviol : firstViolation a.timing 1 (r ++ [(t, b)]) = some v) :
    Phase (a.ignored t) (r ++ [(t, b)]) :=
  .quarantined (p := (t, b)) (d := a.planned t) rfl List.getLast?_concat rfl rfl hchain hviol

/-- What a byte does to a state inside the run `r`. -/
structure Accepts (a : RtuFrameAssembler) (r : List TimedByte) (t : Timestamp) (b : UInt8)
    (o : AssemblerOutcome) (a' : RtuFrameAssembler) (r' : List TimedByte) : Prop where
  run : (receiveByte a t b).run a = .ok o a'
  phase : Phase a' r'
  timing : a'.timing = a.timing
  observed : a'.lastObserved = some t
  sequence : a'.deadlineSequence = a.deadlineSequence + 1
  records : Records a.diagnostics a'.diagnostics (emission (.ok o))
  emits : ∀ bs, (emission (.ok o)).toList ++ pending a' r' bs = pending a r ((t, b) :: bs)

section Pending

variable {lastByte : Timestamp} {d : AssemblerDeadline} {len : Nat}

theorem pending_idle (hs : a.state = .idle) (r bs : List TimedByte) :
    pending a r bs = (runs a.timing (r ++ bs)).map (verdict a.timing) := by
  rw [pending, hs]

theorem pending_collecting (hs : a.state = .collecting len lastByte d) (r bs : List TimedByte) :
    pending a r bs = (runs a.timing (r ++ bs)).map (verdict a.timing) := by
  rw [pending, hs]

theorem pending_quarantined (hs : a.state = .quarantined lastByte d) (r bs : List TimedByte) :
    pending a r bs = ((runs a.timing (r ++ bs)).map (verdict a.timing)).tail := by
  rw [pending, hs]

end Pending

/-- A spoiled run: the verdict is certain before the run has ended. -/
theorem verdict_cons_tail {p : TimedByte} {v : AssemblerDiscardReason} {timing : RtuTiming}
    (hlast : r.getLast? = some p) (hchain : r.IsChain fun p q => q.1 - p.1 < timing.t3_5)
    (hviol : firstViolation timing 1 r = some v) (bs : List TimedByte) :
    .discard v :: ((runs timing (r ++ bs)).map (verdict timing)).tail
      = (runs timing (r ++ bs)).map (verdict timing) := by
  obtain ⟨more, rest, h⟩ := runs_prefix hlast hchain bs
  rw [h, List.map_cons, verdict_of_violation (firstViolation_append more hviol), List.tail_cons]

/-- A byte that spoils the run it belongs to. -/
theorem Accepts.spoiled {len : Nat} {lastByte : Timestamp} {d : AssemblerDeadline}
    {v : AssemblerDiscardReason} (hs : a.state = .collecting len lastByte d)
    (hchain : (r ++ [(t, b)]).IsChain fun p q => q.1 - p.1 < a.timing.t3_5)
    (hviol : firstViolation a.timing 1 (r ++ [(t, b)]) = some v)
    (hrun : (receiveByte a t b).run a = .ok (.discarded v) ((a.counted v.counter).ignored t)) :
    Accepts a r t b (.discarded v) ((a.counted v.counter).ignored t) (r ++ [(t, b)]) := by
  refine ⟨hrun, Phase.ignored hchain hviol, rfl, rfl, rfl,
    records_some (records_refl _) (.discard v), fun bs => ?_⟩
  rw [pending_collecting hs, List.append_cons r (t, b) bs,
    ← verdict_cons_tail List.getLast?_concat hchain hviol bs]
  rfl

theorem Phase.receive (h : Phase a r) (hready : a.Ready t) :
    ∃ o a' r', Accepts a r t b o a' r' := by
  cases h with
  | idle hs =>
    refine ⟨_, _, [(t, b)], receiveByte_idle hready hs,
      Phase.started _, rfl, rfl, rfl, records_refl _, fun bs => ?_⟩
    rw [pending_idle hs]
    rfl
  | @collecting _ p d hs hlast hdue hobs hcand hnone =>
    have hne : r ≠ [] := fun h => by simp [h] at hlast
    have hle := hready.ordered p.1 hobs
    have hlen := length_le_of_firstViolation hnone
    have hchain := isChain_of_firstViolation hnone
    have hmore : firstViolation a.timing 1 (r ++ [(t, b)]) = _ := firstViolation_concat hlast (t, b)
    rw [hnone, Option.none_or] at hmore
    by_cases hboundary : a.timing.t3_5 ≤ t - p.1
    · -- the run is over, and the byte starts the next one
      refine ⟨_, _, [(t, b)],
        receiveByte_boundary hready hs hle hlen hboundary,
        Phase.started _, rfl, rfl, rfl, records_closing hne hcand hnone, fun bs => ?_⟩
      rw [pending_collecting hs, runs_append hlast hchain (by simpa using hboundary),
        (closing_eq hne hcand hnone).1]
      rfl
    have hchain' := isChain_concat (q := (t, b)) hlast hchain (Nat.not_le.mp hboundary)
    by_cases hgap : a.timing.t1_5 < t - p.1
    · rw [if_pos hgap] at hmore
      exact ⟨_, _, _, .spoiled hs hchain' hmore
        (receiveByte_gap hready hs hle hboundary hgap)⟩
    rw [if_neg hgap] at hmore
    by_cases hfull : r.length = 256
    · rw [if_pos hfull] at hmore
      exact ⟨_, _, _, .spoiled hs hchain' hmore
        (receiveByte_overlength hready hs hle hboundary hgap hfull)⟩
    · rw [if_neg hfull] at hmore
      have hlt : r.length < maxRtuAduSize := by
        show r.length < 256
        omega
      refine ⟨_, _, r ++ [(t, b)],
        receiveByte_next hready hs hle hboundary hgap hlt,
        Phase.collected _ rfl hcand hmore, rfl, rfl, rfl, records_refl _, fun bs => ?_⟩
      rw [pending_collecting hs, List.append_cons r (t, b) bs]
      rfl
  | @quarantined _ p d v hs hlast hdue hobs hchain hviol =>
    have hle := hready.ordered p.1 hobs
    by_cases hboundary : a.timing.t3_5 ≤ t - p.1
    · refine ⟨_, _, [(t, b)],
        receiveByte_recover hready hs hle hboundary,
        (Phase.started _).counted _, rfl, rfl, rfl,
        records_none id, fun bs => ?_⟩
      rw [pending_quarantined hs, runs_append hlast hchain (by simpa using hboundary)]
      rfl
    · -- noise belongs to the spoiled run
      have hchain' := isChain_concat (q := (t, b)) hlast hchain (Nat.not_le.mp hboundary)
      refine ⟨_, _, r ++ [(t, b)],
        receiveByte_noise hready hs hle hboundary,
        Phase.ignored hchain' (firstViolation_append [(t, b)] hviol), rfl, rfl, rfl,
        records_refl _, fun bs => ?_⟩
      rw [pending_quarantined hs, List.append_cons r (t, b) bs]
      rfl

theorem Event.of_ok {e : Event} {o : AssemblerOutcome} {a' : RtuFrameAssembler}
    (h : e.observe.run a = .ok o a') : e.result a = .ok o ∧ e.next a = a' := by
  rw [Event.result, Event.next, h]
  exact ⟨rfl, rfl⟩

theorem Event.of_error {e : Event} {err : Fault AssemblerError} {a' : RtuFrameAssembler}
    (h : e.observe.run a = .error err a') : e.result a = .error err ∧ e.next a = a' := by
  rw [Event.result, Event.next, h]
  exact ⟨rfl, rfl⟩

theorem records_trans {d d' d'' : AssemblerDiagnostics} {em : Option Emission}
    (h : Records d d' none) (h' : Records d' d'' em) : Records d d'' em := by
  intro c hc
  have hd : d'.get c = d.get c := h c hc
  rw [h' c hc, hd]

/-- What an event does to a state inside the run `r`, apart from what it emits. -/
structure Advance (a : RtuFrameAssembler) (e : Event) (r' : List TimedByte) : Prop where
  phase : Phase (e.next a) r'
  timing : (e.next a).timing = a.timing
  records : Records a.diagnostics (e.next a).diagnostics (emission (e.result a))

theorem Event.advance {e : Event} {o : AssemblerOutcome} {a' : RtuFrameAssembler}
    {r' : List TimedByte} (h : e.observe.run a = .ok o a') (hphase : Phase a' r')
    (htiming : a'.timing = a.timing)
    (hrecords : Records a.diagnostics a'.diagnostics (emission (.ok o))) : Advance a e r' := by
  obtain ⟨hres, hnext⟩ := Event.of_ok h
  refine ⟨hnext ▸ hphase, hnext ▸ htiming, ?_⟩
  rwa [hnext, hres]

theorem Phase.byte (h : Phase a r) (hready : a.Ready t) (b : UInt8) :
    ∃ r', Advance a (.byte t b) r' ∧ (Event.next (.byte t b) a).lastObserved = some t ∧
      (Event.next (.byte t b) a).deadlineSequence = a.deadlineSequence + 1 ∧
      ∀ bs, (emission (Event.result (.byte t b) a)).toList ++
        pending (Event.next (.byte t b) a) r' bs = pending a r ((t, b) :: bs) := by
  obtain ⟨o, a', r', hacc⟩ :=
    (h.counted .bytesObserved).receive (b := b) (hready.counted .bytesObserved)
  have hrun := (observeByte_run hready).trans hacc.run
  obtain ⟨hres, hnext⟩ := Event.of_ok (e := .byte t b) hrun
  refine ⟨r', Event.advance hrun hacc.phase hacc.timing
    (records_trans (records_none (c := .bytesObserved) id) hacc.records), ?_, ?_, fun bs => ?_⟩
  · rw [hnext, hacc.observed]
  · rw [hnext, hacc.sequence]
    rfl
  · rw [hnext, hres, hacc.emits]
    rfl

/-- The callback is one of the active deadline and not before its time. -/
def Due (a : RtuFrameAssembler) (d : AssemblerDeadline) (observedAt : Timestamp) : Prop :=
  a.state.deadline = some d ∧ d.dueAt ≤ observedAt

/-- A callback that is not due changes no more than a counter. -/
theorem Event.deadline_not_due {d : AssemblerDeadline} {observedAt : Timestamp}
    (h : ¬Due a d observedAt) : ∃ c : Counter, ¬c.Classifies ∧
      Event.next (.deadline d observedAt) a = a.counted c ∧
      emission (Event.result (.deadline d observedAt) a) = none := by
  by_cases hactive : a.state.deadline = some d
  · obtain ⟨err, c, hc, hrun⟩ := observeDeadline_early hactive
      (Nat.not_le.mp fun hle => h ⟨hactive, hle⟩)
    obtain ⟨hres, hnext⟩ := Event.of_error (e := .deadline d observedAt) hrun
    refine ⟨c, ?_, hnext, by rw [hres]; rfl⟩
    rcases hc with rfl | rfl
    · exact id
    · exact id
  · obtain ⟨hres, hnext⟩ := Event.of_ok (e := .deadline d observedAt)
      (observeDeadline_stale hactive)
    exact ⟨.staleDeadlines, id, hnext, by rw [hres]; rfl⟩

/-- Where a deadline is active, it is set by the last byte of the run. -/
theorem Phase.last {d : AssemblerDeadline} (h : Phase a r) (hactive : a.state.deadline = some d) :
    ∃ p, r.getLast? = some p ∧ d.dueAt = p.1 + a.timing.t3_5 ∧ a.lastObserved = some p.1 ∧
      r.IsChain fun p q => q.1 - p.1 < a.timing.t3_5 := by
  cases h with
  | idle hs => cases hs ▸ hactive
  | collecting hs hlast hdue hobs _ hnone =>
    cases hs ▸ hactive
    exact ⟨_, hlast, hdue, hobs, isChain_of_firstViolation hnone⟩
  | quarantined hs hlast hdue hobs hchain =>
    cases hs ▸ hactive
    exact ⟨_, hlast, hdue, hobs, hchain⟩

/-- A due callback ends the current run and leaves the machine idle. -/
theorem Phase.due {d : AssemblerDeadline} {observedAt : Timestamp} (h : Phase a r)
    (hdue : Due a d observedAt) :
    Advance a (.deadline d observedAt) [] ∧
      (Event.next (.deadline d observedAt) a).state = .idle ∧
      (Event.next (.deadline d observedAt) a).lastObserved = some observedAt ∧
      (Event.next (.deadline d observedAt) a).deadlineSequence = a.deadlineSequence ∧
      ∀ bs : List TimedByte, (∀ q ∈ bs.head?, observedAt ≤ q.1) →
        (emission (Event.result (.deadline d observedAt) a)).toList ++
          pending (Event.next (.deadline d observedAt) a) [] bs = pending a r bs := by
  obtain ⟨hactive, hle⟩ := hdue
  obtain ⟨p, hlast, hd, hobs, hchain⟩ := h.last hactive
  have hpast : p.1 + a.timing.t3_5 ≤ observedAt := hd ▸ hle
  have hord : ∀ q, a.lastObserved = some q → q ≤ observedAt := by
    intro q hq
    cases hobs.symm.trans hq
    exact Nat.le_trans (Nat.le_add_right _ _) hpast
  have hruns {bs : List TimedByte} (hbs : ∀ q ∈ bs.head?, observedAt ≤ q.1) :
      runs a.timing (r ++ bs) = r :: runs a.timing bs :=
    runs_append hlast hchain fun q hq => Nat.le_sub_of_add_le' (Nat.le_trans hpast (hbs q hq))
  cases h with
  | idle hs => cases hs ▸ hactive
  | collecting hs _ _ _ hcand hnone =>
    cases hs ▸ hactive
    have hne : r ≠ [] := fun h => by simp [h] at hlast
    have hrun := observeDeadline_collecting hs hord
      (length_le_of_firstViolation hnone) hle
    obtain ⟨hres, hnext⟩ := Event.of_ok (e := .deadline d observedAt) hrun
    rw [hnext, hres]
    refine ⟨Event.advance hrun (.idle rfl) rfl (records_closing hne hcand hnone), rfl, rfl, rfl,
      fun bs hbs => ?_⟩
    rw [(closing_eq hne hcand hnone).1, pending_collecting hs, hruns hbs]
    rfl
  | quarantined hs =>
    cases hs ▸ hactive
    have hrun := observeDeadline_quarantined hs hord hle
    obtain ⟨hres, hnext⟩ := Event.of_ok (e := .deadline d observedAt) hrun
    rw [hnext, hres]
    refine ⟨Event.advance hrun (.idle rfl) rfl (records_none (c := .quarantineRecoveries) id),
      rfl, rfl, rfl, fun bs hbs => ?_⟩
    rw [pending_quarantined hs, hruns hbs]
    rfl

end Step

/-! ## Schedules -/

/-- The frames and discards among the results of a run, in order. -/
def emissions (a : RtuFrameAssembler) (es : List Event) : List Emission :=
  (run a es).1.filterMap emission

/-- A sequence of events that may follow in a state: bytes in the order of time whose
deadlines can be set, and callbacks. A callback that is due comes before the next byte;
any other is stale or early and comes at any time. -/
structure Schedule (a : RtuFrameAssembler) (es : List Event) : Prop where
  sorted : (bytesOf es).Pairwise fun p q => p.1 ≤ q.1
  representable : ∀ p ∈ bytesOf es, p.1 + a.timing.t3_5 ≤ u64Max
  ordered : ∀ previous, a.lastObserved = some previous → ∀ p ∈ bytesOf es, previous ≤ p.1
  sequence : a.deadlineSequence + (bytesOf es).length ≤ u64Max
  callbacks : ∀ pre d observedAt post, es = pre ++ .deadline d observedAt :: post →
    Due (run a pre).2 d observedAt → ∀ q ∈ (bytesOf post).head?, observedAt ≤ q.1

/-- The last event is a due callback. -/
def EndsDue (a : RtuFrameAssembler) (es : List Event) : Prop :=
  ∃ pre d observedAt, es = pre ++ [.deadline d observedAt] ∧ Due (run a pre).2 d observedAt

section Runs

variable {a : RtuFrameAssembler} {r : List TimedByte} {es : List Event} {t : Timestamp} {b : UInt8}

theorem Schedule.ready (h : Schedule a (.byte t b :: es)) : a.Ready t := by
  refine ⟨fun p hp => h.ordered p hp (t, b) List.mem_cons_self, ?_,
    h.representable (t, b) List.mem_cons_self⟩
  have := h.sequence
  rw [bytesOf, List.length_cons] at this
  omega

theorem Schedule.callbacks_tail {e : Event} (h : Schedule a (e :: es)) :
    ∀ pre d observedAt post, es = pre ++ .deadline d observedAt :: post →
      Due (run (e.next a) pre).2 d observedAt → ∀ q ∈ (bytesOf post).head?, observedAt ≤ q.1 :=
  fun pre d observedAt post heq => h.callbacks (e :: pre) d observedAt post (by rw [heq]; rfl)

theorem Schedule.after_byte (h : Schedule a (.byte t b :: es)) (hphase : Phase a r) :
    Schedule (Event.next (.byte t b) a) es := by
  obtain ⟨r', hadv, hobs, hseq, -⟩ := hphase.byte h.ready b
  obtain ⟨hfirst, hsorted⟩ := List.pairwise_cons.mp h.sorted
  refine ⟨hsorted, ?_, ?_, ?_, h.callbacks_tail⟩
  · rw [hadv.timing]
    exact fun p hp => h.representable p (List.mem_cons_of_mem _ hp)
  · intro previous hprev p hp
    rw [hobs] at hprev
    cases hprev
    exact hfirst p hp
  · have := h.sequence
    rw [bytesOf, List.length_cons] at this
    rw [hseq]
    omega

/-- In a sorted string what comes before the first byte comes before all of them. -/
theorem le_of_le_head {bs : List TimedByte} (hsorted : bs.Pairwise fun p q => p.1 ≤ q.1)
    (hhead : ∀ q ∈ bs.head?, t ≤ q.1) : ∀ q ∈ bs, t ≤ q.1 := by
  cases bs with
  | nil => exact nofun
  | cons p bs =>
    have hp := hhead p rfl
    exact List.forall_mem_cons.mpr
      ⟨hp, fun q hq => Nat.le_trans hp ((List.pairwise_cons.mp hsorted).1 q hq)⟩

theorem Schedule.after_deadline {d : AssemblerDeadline} {observedAt : Timestamp}
    (h : Schedule a (.deadline d observedAt :: es)) (hphase : Phase a r) :
    Schedule (Event.next (.deadline d observedAt) a) es := by
  by_cases hdue : Due a d observedAt
  · obtain ⟨hadv, -, hobs, hseq, -⟩ := hphase.due hdue
    refine ⟨h.sorted, ?_, ?_, ?_, h.callbacks_tail⟩
    · rw [hadv.timing]
      exact h.representable
    · intro previous hprev
      rw [hobs] at hprev
      cases hprev
      exact le_of_le_head h.sorted (h.callbacks [] d observedAt es rfl hdue)
    · rw [hseq]
      exact h.sequence
  · obtain ⟨c, -, hnext, -⟩ := Event.deadline_not_due hdue
    refine ⟨h.sorted, ?_, ?_, ?_, h.callbacks_tail⟩ <;> rw [hnext]
    exacts [h.representable, h.ordered, h.sequence]

/-- One event of a schedule: the machine stays in step with the runs, and what the event
emits is what was pending. -/
theorem Schedule.step {e : Event} (h : Schedule a (e :: es)) (hphase : Phase a r) :
    ∃ r', Advance a e r' ∧ Schedule (e.next a) es ∧
      (emission (e.result a)).toList ++ pending (e.next a) r' (bytesOf es)
        = pending a r (bytesOf (e :: es)) := by
  cases e with
  | byte t b =>
    obtain ⟨r', hadv, -, -, hemits⟩ := hphase.byte h.ready b
    exact ⟨r', hadv, h.after_byte hphase, hemits (bytesOf es)⟩
  | deadline d observedAt =>
    by_cases hdue : Due a d observedAt
    · obtain ⟨hadv, -, -, -, hemits⟩ := hphase.due hdue
      exact ⟨[], hadv, h.after_deadline hphase,
        hemits (bytesOf es) (h.callbacks [] d observedAt es rfl hdue)⟩
    · obtain ⟨c, hc, hnext, hem⟩ := Event.deadline_not_due hdue
      refine ⟨r, ⟨?_, ?_, ?_⟩, h.after_deadline hphase, ?_⟩
      · rw [hnext]
        exact hphase.counted c
      · rw [hnext]
        rfl
      · rw [hnext, hem]
        exact records_none hc
      · rw [hnext, hem]
        rfl

theorem emissions_cons (e : Event) :
    emissions a (e :: es) = (emission (e.result a)).toList ++ emissions (e.next a) es := by
  rw [emissions, run, List.filterMap_cons]
  cases emission (e.result a) with
  | none => rfl
  | some em => rfl

/-- Along a schedule the machine emits what was pending at its start. -/
theorem Schedule.emissions_eq (h : Schedule a es) (hphase : Phase a r) :
    ∃ r', Phase (run a es).2 r' ∧
      emissions a es ++ pending (run a es).2 r' [] = pending a r (bytesOf es) := by
  induction es generalizing a r with
  | nil => exact ⟨r, hphase, rfl⟩
  | cons e es ih =>
    obtain ⟨r₁, hadv, htail, hemits⟩ := h.step hphase
    obtain ⟨r', hphase', hrest⟩ := ih htail hadv.phase
    refine ⟨r', hphase', ?_⟩
    rw [emissions_cons, List.append_assoc, ← hemits, ← hrest]
    rfl

/-- After a due callback the machine is idle. -/
theorem Schedule.idle_of_endsDue (h : Schedule a es) (hphase : Phase a r) (hend : EndsDue a es) :
    (run a es).2.state = .idle := by
  induction es generalizing a r with
  | nil =>
    obtain ⟨pre, d, observedAt, heq, -⟩ := hend
    simp at heq
  | cons e es ih =>
    obtain ⟨r₁, hadv, htail, -⟩ := h.step hphase
    obtain ⟨pre, d, observedAt, heq, hdue⟩ := hend
    cases pre with
    | nil =>
      obtain ⟨rfl, rfl⟩ := List.cons.inj heq
      exact (hphase.due hdue).2.1
    | cons e' pre =>
      obtain ⟨rfl, htl⟩ := List.cons.inj heq
      exact ih htail hadv.phase ⟨pre, d, observedAt, htl, hdue⟩

/-- The counters of frames and discards count the emissions. -/
theorem Schedule.get_counter (h : Schedule a es) (hphase : Phase a r) {c : Counter}
    (hc : c.Classifies) (hmax : a.diagnostics.get c ≤ u64Max) :
    (run a es).2.diagnostics.get c
      = min (a.diagnostics.get c + (emissions a es).countP (·.counter = c)) u64Max := by
  induction es generalizing a r with
  | nil => exact (Nat.min_eq_left hmax).symm
  | cons e es ih =>
    obtain ⟨r₁, hadv, htail, -⟩ := h.step hphase
    have hrec := hadv.records c hc
    rw [emissions_cons, List.countP_append]
    show (run (e.next a) es).2.diagnostics.get c = _
    cases hem : emission (e.result a) with
    | none =>
      rw [hem] at hrec
      have hget : (e.next a).diagnostics.get c = a.diagnostics.get c := hrec
      rw [ih htail hadv.phase (hget ▸ hmax), hget]
      simp
    | some em =>
      rw [hem, Option.map_some] at hrec
      have hstep : (e.next a).diagnostics.get c
          = min (a.diagnostics.get c + [em].countP (·.counter = c)) u64Max := by
        rw [hrec, List.countP_singleton]
        by_cases heq : em.counter = c
        · simp [heq, saturatingIncrement]
        · simp [heq, Nat.min_eq_left hmax]
      rw [ih htail hadv.phase (hstep ▸ Nat.min_le_right _ _), hstep]
      simp only [Option.toList_some]
      omega

end Runs

/-! ## The result -/

theorem counter_injective {v w : AssemblerDiscardReason} (h : v.counter = w.counter) : v = w := by
  cases v <;> cases w <;> first | rfl | cases h

theorem verdict_counter_validFrames {timing : RtuTiming} :
    (verdict timing r).counter = .validFrames ↔ Clean timing r := by
  rw [verdict]
  split
  · next h => exact iff_of_true rfl h
  · next h =>
      refine iff_of_false (fun heq => ?_) h
      cases hreason : discardReason timing r <;> rw [hreason] at heq <;> cases heq

theorem verdict_counter_discard {timing : RtuTiming} {reason : AssemblerDiscardReason} :
    (verdict timing r).counter = reason.counter ↔
      ¬Clean timing r ∧ discardReason timing r = reason := by
  rw [verdict]
  split
  · next h =>
      refine iff_of_false (fun heq => ?_) fun hnot => hnot.1 h
      cases reason <;> cases heq
  · next h => exact ⟨fun heq => ⟨h, counter_injective heq⟩, fun heq =>
      congrArg AssemblerDiscardReason.counter heq.2⟩

theorem length_le_flatten {l : List (List TimedByte)} (h : [] ∉ l) :
    l.length ≤ l.flatten.length := by
  induction l with
  | nil => exact Nat.le_refl _
  | cons r l ih =>
    have hr : r ≠ [] := fun heq => h (heq ▸ List.mem_cons_self)
    have hl := ih fun hmem => h (List.mem_cons_of_mem r hmem)
    have := List.length_pos_iff.mpr hr
    rw [List.length_cons, List.flatten_cons, List.length_append]
    omega

/-- There are no more runs than bytes. -/
theorem length_runs_le (timing : RtuTiming) (bs : List TimedByte) :
    (runs timing bs).length ≤ bs.length := by
  have h := length_le_flatten (List.nil_notMem_splitBy
    (fun p q : TimedByte => decide (q.1 - p.1 < timing.t3_5)) bs)
  rwa [List.flatten_splitBy] at h

section Result

variable {timing : RtuTiming} {es : List Event}

theorem emissions_new (h : Schedule (.new timing) es) (hend : EndsDue (.new timing) es) :
    emissions (.new timing) es = (runs timing (bytesOf es)).map (verdict timing) := by
  have hphase : Phase (.new timing) [] := .idle rfl
  have hidle := h.idle_of_endsDue hphase hend
  obtain ⟨r', hphase', hemits⟩ := h.emissions_eq hphase
  cases hphase' with
  | idle hs =>
    rw [pending_idle hs, pending_idle rfl] at hemits
    exact (List.append_nil _).symm.trans hemits
  | collecting hs | quarantined hs => simp [hidle] at hs

/-- Each counter of frames and discards is the number of runs with its verdict. -/
theorem counters_new (h : Schedule (.new timing) es) (hend : EndsDue (.new timing) es)
    {c : Counter} (hc : c.Classifies) :
    (run (.new timing) es).2.diagnostics.get c
      = (runs timing (bytesOf es)).countP (fun r => (verdict timing r).counter = c) := by
  have hzero : (RtuFrameAssembler.new timing).diagnostics.get c = 0 := by cases c <;> rfl
  have hcount := h.get_counter (.idle rfl) hc (by rw [hzero]; exact Nat.zero_le _)
  have hle : (runs timing (bytesOf es)).countP (fun r => (verdict timing r).counter = c) ≤ u64Max :=
    Nat.le_trans List.countP_le_length
      (Nat.le_trans (length_runs_le timing _) (Nat.le_trans (Nat.le_add_left _ _) h.sequence))
  rw [hcount, hzero, emissions_new h hend, List.countP_map, Nat.zero_add]
  exact Nat.min_eq_left hle

/-- What the assembler makes of a schedule depends on the bytes and their times only. The
frames and discards are the verdicts on the runs, in order, and the counters count them. -/
theorem segmentation (h : Schedule (.new timing) es) (hend : EndsDue (.new timing) es) :
    emissions (.new timing) es = (runs timing (bytesOf es)).map (verdict timing) ∧
    (run (.new timing) es).2.diagnostics.validFrames
      = (runs timing (bytesOf es)).countP (fun r => Clean timing r) ∧
    (∀ reason : AssemblerDiscardReason,
      (run (.new timing) es).2.diagnostics.get reason.counter
        = (runs timing (bytesOf es)).countP
            (fun r => ¬Clean timing r ∧ discardReason timing r = reason)) ∧
    ∀ es', Schedule (.new timing) es' → EndsDue (.new timing) es' → bytesOf es' = bytesOf es →
      emissions (.new timing) es' = emissions (.new timing) es := by
  refine ⟨emissions_new h hend, ?_, fun reason => ?_, fun es' h' hend' heq => ?_⟩
  · have hcount := counters_new (c := .validFrames) h hend trivial
    simp only [verdict_counter_validFrames] at hcount
    exact hcount
  · have hcount := counters_new (c := reason.counter) h hend (by cases reason <;> trivial)
    simp only [verdict_counter_discard] at hcount
    exact hcount
  · rw [emissions_new h' hend', emissions_new h hend, heq]

end Result

/-- A request in four bytes at the permitted distance, closed by its deadline. -/
theorem segmentation_request :
    emissions (.new ⟨10, 20, by decide, by decide, by decide⟩)
        [.byte 0 1, .byte 10 7, .byte 20 0x41, .byte 30 0xE2, .deadline ⟨50, 4⟩ 50]
      = [.frame [1, 7, 0x41, 0xE2]] := by
  refine (segmentation ⟨?_, ?_, nofun, ?_, ?_⟩ ?_).1.trans ?_
  · decide
  · decide
  · decide
  · intro pre d observedAt post heq
    rcases pre with _ | ⟨_, _ | ⟨_, _ | ⟨_, _ | ⟨_, _ | ⟨_, pre⟩⟩⟩⟩⟩ <;> simp at heq
    simp [heq.2.2.2.2.2, bytesOf]
  · exact ⟨[.byte 0 1, .byte 10 7, .byte 20 0x41, .byte 30 0xE2], ⟨50, 4⟩, 50, rfl, rfl, by decide⟩
  · decide +kernel

end RustyModbus.Rtu
