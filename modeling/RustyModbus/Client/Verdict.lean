/-!
# The verdict on a session

Whether the connection of a client may be used again after it. The authority is one atomic
byte that every part of the client can write: `retire` replaces whatever is not yet a reason,
`mark_clean_shutdown` replaces only the initial value. `SessionReuseSafety` is that byte,
`SessionReuseVerdict` what it stands for, and the two updates are the same on both.
-/

namespace RustyModbus.Client

inductive SessionRetirementReason
  | aborted
  | finalOwnerDropped
  | shutdownDeadlineExceeded
  | shutdownIncomplete
  | backgroundTaskFailed
  | dispatchCancelled
  | requestTimedOut
  | sendFailed
  | responseExpired
  | unexpectedResponseUnit
  | unexpectedResponseFunction
  | malformedResponse
  | unknownOrDuplicateResponse
  | responseChannelClosed
  | readerDisconnected
  | readerTransportFailed
  | typedResponseDataInvalid
  | typedResponseEchoMismatch
deriving DecidableEq, Repr

/-- The reasons of `finish_typed_response`. -/
def SessionRetirementReason.IsTyped : SessionRetirementReason → Prop
  | .typedResponseDataInvalid | .typedResponseEchoMismatch => True
  | _ => False

inductive SessionReuseVerdict
  | notQuiescent
  | reuseEligible
  | retire (reason : SessionRetirementReason)
deriving DecidableEq, Repr

/-! ## The byte -/

def SessionReuseSafety.notQuiescent : UInt8 := 0
def SessionReuseSafety.reuseEligible : UInt8 := 1
def SessionReuseSafety.retiredBase : UInt8 := 2

open SessionReuseSafety (retiredBase)

def SessionRetirementReason.state (reason : SessionRetirementReason) : UInt8 :=
  retiredBase +
    match reason with
    | .aborted => 0
    | .finalOwnerDropped => 1
    | .shutdownDeadlineExceeded => 2
    | .shutdownIncomplete => 3
    | .backgroundTaskFailed => 4
    | .dispatchCancelled => 5
    | .requestTimedOut => 6
    | .sendFailed => 7
    | .responseExpired => 8
    | .unexpectedResponseUnit => 9
    | .unexpectedResponseFunction => 10
    | .malformedResponse => 11
    | .unknownOrDuplicateResponse => 12
    | .responseChannelClosed => 13
    | .readerDisconnected => 14
    | .readerTransportFailed => 15
    | .typedResponseDataInvalid => 16
    | .typedResponseEchoMismatch => 17

/-- A byte that is no reason is unreachable in the source. -/
def SessionRetirementReason.fromState (state : UInt8) : Option SessionRetirementReason :=
  match state - retiredBase with
  | 0 => some .aborted
  | 1 => some .finalOwnerDropped
  | 2 => some .shutdownDeadlineExceeded
  | 3 => some .shutdownIncomplete
  | 4 => some .backgroundTaskFailed
  | 5 => some .dispatchCancelled
  | 6 => some .requestTimedOut
  | 7 => some .sendFailed
  | 8 => some .responseExpired
  | 9 => some .unexpectedResponseUnit
  | 10 => some .unexpectedResponseFunction
  | 11 => some .malformedResponse
  | 12 => some .unknownOrDuplicateResponse
  | 13 => some .responseChannelClosed
  | 14 => some .readerDisconnected
  | 15 => some .readerTransportFailed
  | 16 => some .typedResponseDataInvalid
  | 17 => some .typedResponseEchoMismatch
  | _ => none

namespace SessionReuseSafety

def new : UInt8 := notQuiescent

def verdict (state : UInt8) : Option SessionReuseVerdict :=
  if state = notQuiescent then some .notQuiescent
  else if state = reuseEligible then some .reuseEligible
  else (SessionRetirementReason.fromState state).map .retire

/-- The loop of compare-and-exchange, which ends with the first value it did not have to
retry. -/
def retire (state : UInt8) (reason : SessionRetirementReason) : UInt8 :=
  if state ≥ retiredBase then state else reason.state

def markCleanShutdown (state : UInt8) : UInt8 :=
  if state = notQuiescent then reuseEligible else state

end SessionReuseSafety

/-! ## The verdict it stands for -/

namespace SessionReuseVerdict

def retireWith (v : SessionReuseVerdict) (reason : SessionRetirementReason) : SessionReuseVerdict :=
  match v with
  | .retire first => .retire first
  | _ => .retire reason

def markCleanShutdown (v : SessionReuseVerdict) : SessionReuseVerdict :=
  match v with
  | .notQuiescent => .reuseEligible
  | v => v

def IsRetired : SessionReuseVerdict → Prop
  | .retire _ => True
  | _ => False

instance (v : SessionReuseVerdict) : Decidable v.IsRetired := by
  cases v <;> unfold IsRetired <;> infer_instance

@[simp] theorem isRetired_retireWith (v : SessionReuseVerdict) (r : SessionRetirementReason) :
    (v.retireWith r).IsRetired := by
  cases v <;> trivial

theorem IsRetired.markCleanShutdown_eq {v : SessionReuseVerdict} (h : v.IsRetired) :
    v.markCleanShutdown = v := by
  cases v with
  | notQuiescent | reuseEligible => exact absurd h id
  | retire r => rfl

theorem IsRetired.retireWith_eq {v : SessionReuseVerdict} (h : v.IsRetired)
    (r : SessionRetirementReason) : v.retireWith r = v := by
  cases v with
  | notQuiescent | reuseEligible => exact absurd h id
  | retire first => rfl

end SessionReuseVerdict

/-! ## The byte implements the verdict -/

open SessionReuseSafety (verdict)

theorem SessionRetirementReason.retiredBase_le_state (r : SessionRetirementReason) :
    retiredBase ≤ r.state := by
  cases r <;> decide

/-- The bytes the authority can hold, one for each verdict. -/
def SessionReuseVerdict.byte : SessionReuseVerdict → UInt8
  | .notQuiescent => SessionReuseSafety.notQuiescent
  | .reuseEligible => SessionReuseSafety.reuseEligible
  | .retire r => r.state

theorem verdict_byte (v : SessionReuseVerdict) : verdict v.byte = some v := by
  cases v with
  | notQuiescent | reuseEligible => rfl
  | retire r => cases r <;> rfl

theorem retire_byte (v : SessionReuseVerdict) (r : SessionRetirementReason) :
    SessionReuseSafety.retire v.byte r = (v.retireWith r).byte := by
  cases v with
  | notQuiescent | reuseEligible => rfl
  | retire first => exact if_pos (SessionRetirementReason.retiredBase_le_state first)

theorem markCleanShutdown_byte (v : SessionReuseVerdict) :
    SessionReuseSafety.markCleanShutdown v.byte = v.markCleanShutdown.byte := by
  cases v with
  | notQuiescent | reuseEligible => rfl
  | retire r => cases r <;> rfl

/-! ## Any number of writers -/

/-- What the parts of a client do to the byte, in the order in which their exchanges succeed. -/
inductive ReuseUpdate
  | retire (reason : SessionRetirementReason)
  | markCleanShutdown
deriving DecidableEq

def ReuseUpdate.apply (state : UInt8) : ReuseUpdate → UInt8
  | .retire reason => SessionReuseSafety.retire state reason
  | .markCleanShutdown => SessionReuseSafety.markCleanShutdown state

/-- The first reason, else the clean shutdown if there was one. -/
def SessionReuseVerdict.after (v : SessionReuseVerdict) (us : List ReuseUpdate) :
    SessionReuseVerdict :=
  match us.findSome? fun | .retire r => some r | .markCleanShutdown => none with
  | some r => v.retireWith r
  | none => if .markCleanShutdown ∈ us then v.markCleanShutdown else v

theorem foldl_apply_byte (us : List ReuseUpdate) (v : SessionReuseVerdict) :
    us.foldl ReuseUpdate.apply v.byte = (v.after us).byte := by
  induction us generalizing v with
  | nil => rfl
  | cons u us ih =>
    cases u with
    | retire r =>
      rw [List.foldl_cons, ReuseUpdate.apply, retire_byte, ih]
      congr 1
      have hkeep := v.isRetired_retireWith r
      simp only [SessionReuseVerdict.after, List.findSome?_cons, hkeep.retireWith_eq,
        hkeep.markCleanShutdown_eq, ite_self]
      split <;> rfl
    | markCleanShutdown =>
      rw [List.foldl_cons, ReuseUpdate.apply, markCleanShutdown_byte, ih]
      congr 1
      simp only [SessionReuseVerdict.after, List.findSome?_cons, List.mem_cons]
      cases v <;> split <;>
        simp [SessionReuseVerdict.markCleanShutdown, SessionReuseVerdict.retireWith]

/-- The authority is one-way and its first reason wins, whatever the order of the updates. -/
theorem verdict_updates (us : List ReuseUpdate) :
    verdict (us.foldl ReuseUpdate.apply SessionReuseSafety.new) =
      some (SessionReuseVerdict.notQuiescent.after us) :=
  (congrArg verdict (foldl_apply_byte us .notQuiescent)).trans (verdict_byte _)

end RustyModbus.Client
