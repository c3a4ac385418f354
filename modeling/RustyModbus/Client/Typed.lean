import RustyModbus.Client.Reuse

/-!
# When a typed method checks its response

A typed method checks the shape or the echo of its response behind `send_with_retry`, and so
behind the drop of the guard that keeps the coordinator waiting. Here is what that leaves open:
the coordinator may publish a clean verdict while a response is still to be checked, and the
verdict then falls to the check. `findingToCome` is what decides whether it will.
-/

namespace RustyModbus.Client.Concurrent

/-! ## What is still to be found -/

/-- The typed method has a response that it has not checked. -/
def SendStage.isUnvalidated : SendStage → Bool
  | .returned (some (.ok _)) => true
  | _ => false

/-- What the typed method finds wrong with the response it has or is about to get. -/
def SendWithRetry.findingToCome (o : SendWithRetry) : Option SessionRetirementReason :=
  match o.stage with
  | .returning (some (.ok response)) | .returned (some (.ok response)) =>
    finishTypedResponse (o.request.validate response)
  | _ => none

namespace Operation

def isUnvalidated : Operation → Bool
  | .unicast o => o.stage.isUnvalidated
  | .broadcast _ => false

def findingToCome : Operation → Option SessionRetirementReason
  | .unicast o => o.findingToCome
  | .broadcast _ => none

/-- The check of a response that a typed method has finds what was to be found. -/
theorem findingToCome_of_finding {op : Operation} {r : SessionRetirementReason}
    (h : op.finding = some r) : op.findingToCome = some r := by
  unfold finding at h
  split at h
  next => exact h
  next => cases h

end Operation

theorem isTyped_of_finishTypedResponse {α : Type} {result : Except ClientError α}
    {r : SessionRetirementReason} (h : finishTypedResponse result = some r) : r.IsTyped := by
  unfold finishTypedResponse at h
  split at h <;> cases h <;> trivial

namespace ModbusClient

variable {limit : Instant} {config : ClientConfig} {s s' : ModbusClient}

/-! ## Behind the last guard -/

variable {e : OperationEvent}

/-- A call that is not under its guard gets no response that it did not have. -/
theorem findingToCome_of_step {o o' : SendWithRetry} (hplace : ¬ Guarded o.place)
    (h : o.findingToCome = none) (hstep : o.step limit config e = some o') :
    o'.findingToCome = none := by
  obtain ⟨request, stage, history⟩ := o
  cases SendWithRetry.transition_of_step hstep with
  | connect | reject | admitted | refused | abandon | validate => rfl
  | @release result =>
    rcases result with _ | _ | response
    · rfl
    · rfl
    · exact h
  | _ => exact absurd trivial hplace

/-- The client is closed, and no response that is still on its way to a typed method will be
refused there. -/
structure Cleared (s : ModbusClient) : Prop where
  settled : s.lifecycle.Settled
  findings : ∀ op ∈ s.operations, op.findingToCome = none

/-- Nobody is under a guard, and the reader is not in a call. -/
theorem Cleared.quiet (h : Cleared s) (hs : (modbusClient limit config).Reachable s) :
    (∀ {i : Nat} {op : Operation}, s.operations[i]? = some op → ¬ Guarded op.place) ∧
      s.manager.calls .reader = .idle ∧ (s.reader = .receiving ∨ s.reader = .cancelling) := by
  have hl := embeds_lifecycle.reachable hs
  have hco := Lifecycle.Coordinated.of_reachable hl
  refine ⟨fun hop => not_guarded_of_active (Wired.of_reachable hs)
    (Lifecycle.Balanced.of_reachable hl).active h.settled.active hop, ?_⟩
  obtain ⟨result, hended⟩ := (Lifecycle.Recorded.of_reachable hl).ended (h.settled.passed hco).1
  exact ReaderRests.of_reachable hs (by rw [hended]; exact nofun)

theorem Cleared.step (h : Cleared s) (hs : (modbusClient limit config).Reachable s)
    (hstep : Stepped limit config s s') : Cleared s' := by
  have hco := Lifecycle.Coordinated.of_reachable (embeds_lifecycle.reachable hs)
  cases hstep with
  | @operate i e op op' _ _ hop _ _ hstep _ hl =>
    refine ⟨goes_settled h.settled hco hl, fun op'' hop'' => ?_⟩
    rcases List.mem_or_eq_of_mem_set hop'' with hop'' | rfl
    · exact h.findings _ hop''
    · have hplace := (h.quiet hs).1 hop
      have hnone := h.findings _ (List.mem_of_getElem? hop)
      cases op with
      | unicast o =>
        obtain ⟨o', ho', rfl⟩ := Option.map_eq_some_iff.mp hstep
        exact findingToCome_of_step hplace hnone ho'
      | broadcast o =>
        obtain ⟨o', -, rfl⟩ := Option.map_eq_some_iff.mp hstep
        rfl
  | @call op hop =>
    refine ⟨h.settled.step hco (e := .admitCall) rfl, fun op' hop' => ?_⟩
    rcases List.mem_append.mp hop' with hop' | hop'
    · exact h.findings op' hop'
    · cases List.mem_singleton.mp hop'
      cases hop <;> rfl
  | other _ _ hl => exact ⟨goes_settled h.settled hco hl, h.findings⟩

/-! ## Who retires a session for a finding -/

theorem finding_of_managerEffect {i : Nat} {op op' : Operation} {d : Concurrent.Event Thread}
    {r : SessionRetirementReason} {m : Manager Thread}
    (h : managerEffect i op.place op'.place op.finding e = some d) (hsaid : m.Says d r)
    (hplace : ¬ Guarded op.place) : op.finding = some r := by
  rcases hsaid with rfl | ⟨t, rest, rfl, -⟩
  · cases ownStep_of_managerEffect h with
    | retire hleaving =>
      rw [hleaving] at hplace
      exact absurd trivial hplace
    | validate hfinding => exact hfinding
  · cases ownStep_of_managerEffect h

theorem not_isTyped_abortEffect {t : Thread} {reason r : SessionRetirementReason} {pc : AbortPc}
    (h : abortEffect t reason pc = some (.retire r)) : r = reason := by
  cases pc <;> cases h
  rfl

theorem not_isTyped_coordinatorEffect {n : Nat} {pc : CoordinatorPc} {r : SessionRetirementReason}
    (h : coordinatorEffect n pc = some (.retire r)) : ¬ r.IsTyped := by
  cases pc with
  | aborting pc => rw [not_isTyped_abortEffect h]; exact id
  | marking clean => cases clean <;> cases h; exact id
  | readerFailed | deadlineFailed => cases h; exact id
  | _ => cases h

/-- Apart from the operations, nobody retires a closed client for a finding. -/
theorem not_isTyped_of_other (hw : s.Wired) (hidle : s.manager.calls .reader = .idle)
    (hreader : s.reader = .receiving ∨ s.reader = .cancelling)
    {d : Concurrent.Event Thread} {l : Option Lifecycle.Event} {reader : ReaderPc}
    {readerErrors : List TransportError} (hother : OtherStep s (some d) l reader readerErrors)
    {r : SessionRetirementReason} (hsaid : s.manager.Says d r) : ¬ r.IsTyped := by
  rcases hsaid with rfl | ⟨t, rest, rfl, hcall⟩
  · generalize hm : some (Concurrent.Event.retire r) = m at hother
    cases hother with
    | abortStep =>
      rw [not_isTyped_abortEffect hm.symm]
      unfold AbortCall.reason
      split <;> exact id
    | coordinate => exact not_isTyped_coordinatorEffect hm.symm
    | failed hfailed =>
      rw [hfailed] at hreader
      rcases hreader with hreader | hreader <;> cases hreader
    | manager hc => cases hm; cases hc
    | _ => cases hm
  · exfalso
    have hforeign (ht : ∀ i, t ≠ .op i) : t = .reader := by
      have hforeign := hw.foreign ht
      rwa [hcall] at hforeign
    cases t with
    | op i =>
      cases hop : s.operations[i]? with
      | none =>
        rw [hw.fresh (List.getElem?_eq_none_iff.mp hop)] at hcall
        cases hcall
      | some op =>
        have hcalls := hw.calls hop
        rw [hcall] at hcalls
        cases (calls_of_finishing hcalls).1
    | reader => cases hidle.symm.trans hcall
    | coordinator | abort => cases hforeign nofun

/-- A session that is cleared is not retired for a finding. -/
theorem Cleared.not_typed (h : Cleared s) (hs : (modbusClient limit config).Reachable s)
    (hstep : Stepped limit config s s') (hverdict : s.manager.verdict = .reuseEligible)
    {r : SessionRetirementReason} (hr : r.IsTyped) : s'.manager.verdict ≠ .retire r := by
  obtain ⟨hplace, hidle, hreader⟩ := h.quiet hs
  intro hretired
  have hsaid {m : Manager Thread} {d : Concurrent.Event Thread} (hd : s.manager.step d = some m)
      (hm : m.verdict = .retire r) : s.manager.Says d r := by
    rcases Manager.verdict_of_step hd with heq | ⟨r', heq, hsaid⟩ | ⟨-, heq⟩ <;>
      rw [heq, hverdict] at hm <;> cases hm
    exact hsaid hr
  cases hstep with
  | operate hop _ _ _ hm =>
    rcases hm.cases with ⟨-, rfl⟩ | ⟨d, hd, hmd⟩
    · cases hverdict.symm.trans hretired
    · have hfinding := finding_of_managerEffect hd (hsaid hmd hretired) (hplace hop)
      have hnone := h.findings _ (List.mem_of_getElem? hop)
      rw [Operation.findingToCome_of_finding hfinding] at hnone
      cases hnone
  | call => cases hverdict.symm.trans hretired
  | other hother hm =>
    rcases hm.cases with ⟨-, rfl⟩ | ⟨d, rfl, hmd⟩
    · cases hverdict.symm.trans hretired
    · exact not_isTyped_of_other (Wired.of_reachable hs) hidle hreader hother
        (hsaid hmd hretired) hr

/-! ## A finding comes to light -/

/-- From here the verdict can fall from a clean one to the reason. -/
def Falls (limit : Instant) (config : ClientConfig) (s : ModbusClient)
    (r : SessionRetirementReason) : Prop :=
  ∃ es s₁ e s₂, (modbusClient limit config).run s es = some s₁ ∧
    s₁.manager.verdict = .reuseEligible ∧ (modbusClient limit config).step s₁ e = some s₂ ∧
    s₂.manager.verdict = .retire r

variable {i : Nat} {o : SendWithRetry} {response : OwnedResponsePdu} {r : SessionRetirementReason}

theorem Falls.after {e : Event} (he : (modbusClient limit config).step s e = some s')
    (h : Falls limit config s' r) : Falls limit config s r := by
  obtain ⟨es, s₁, e', s₂, hrun, hrest⟩ := h
  exact ⟨e :: es, s₁, e', s₂, Machine.run_step he hrun, hrest⟩

variable {lifecycle : Lifecycle}

theorem move_of_goes {m : Option (Concurrent.Event Thread)} {l : Option Lifecycle.Event}
    {manager : Manager Thread} (hm : Goes Manager.step s.manager m manager)
    (hl : Goes Lifecycle.step s.lifecycle l lifecycle) :
    s.move m l = some { s with manager, lifecycle } := by
  unfold move
  rw [show m.elim (some s.manager) s.manager.step = some manager from hm, Option.bind_some,
    show l.elim (some s.lifecycle) s.lifecycle.step = some lifecycle from hl]
  rfl

/-- An operation can take a step that the parts of the client can take. -/
theorem step_operate (limit : Instant) (config : ClientConfig) (query : Query) {op op' : Operation}
    {manager : Manager Thread} (hop : s.operations[i]? = some op)
    (hidle : s.manager.calls (.op i) = .idle) (hobs : s.observe i query = some e)
    (hstep : op.step limit config e = some op')
    (hm : Goes Manager.step s.manager (managerEffect i op.place op'.place op.finding e) manager)
    (hl : Goes Lifecycle.step s.lifecycle (lifecycleEffect i op.place e) lifecycle) :
    ∃ s', (modbusClient limit config).step s (.operate i query) = some s' ∧
      s'.manager = manager ∧ s'.operations = s.operations.set i op' := by
  let sink := if op'.place.holdsSink then some i else if op.place.holdsSink then none else s.sink
  refine ⟨{ s with manager, lifecycle, operations := s.operations.set i op', sink }, ?_, rfl, rfl⟩
  show s.operations[i]?.bind (s.operate limit config i query) = _
  rw [hop, Option.bind_some, operate, hidle,
    if_neg (show ¬ isFinishing .idle = true from Bool.false_ne_true), hobs, Option.bind_some,
    hstep, Option.bind_some, move_of_goes hm hl]
  rfl

/-- The verdict is clean, and the operation has a response that its typed method refuses. -/
structure Refusing (s : ModbusClient) (i : Nat) (o : SendWithRetry) (response : OwnedResponsePdu)
    (r : SessionRetirementReason) : Prop where
  verdict : s.manager.verdict = .reuseEligible
  op : s.operations[i]? = some (.unicast o)
  idle : s.manager.calls (.op i) = .idle
  finding : finishTypedResponse (o.request.validate response) = some r

/-- The typed method checks its response. -/
theorem falls_returned (h : Refusing s i o response r)
    (hstage : o.stage = .returned (some (.ok response))) : Falls limit config s r := by
  obtain ⟨request, stage, history⟩ := o
  cases hstage
  obtain ⟨s', hs', hmanager, -⟩ := step_operate limit config .validate h.op h.idle rfl rfl
    (show Goes Manager.step s.manager (Option.map _ (finishTypedResponse _)) _ by
      rw [h.finding]; rfl) rfl
  refine ⟨[], s, _, s', rfl, h.verdict, hs', ?_⟩
  rw [hmanager]
  show s.manager.verdict.retireWith r = _
  rw [h.verdict]
  rfl

/-- The response is handed to the typed method. -/
theorem falls_ended (h : Refusing s i o response r)
    (ha : s.lifecycle.admissions[i]? = some (.ended none))
    (hstage : o.stage = .returning (some (.ok response))) : Falls limit config s r := by
  obtain ⟨request, stage, history⟩ := o
  cases hstage
  obtain ⟨s', hs', hmanager, hoperations⟩ := step_operate limit config .released
    h.op h.idle (if_pos ha) rfl rfl rfl
  have hop' : s'.operations[i]? =
      some (.unicast ⟨request, .returned (some (.ok response)), history⟩) :=
    hoperations ▸ Log.set_self h.op
  exact Falls.after hs'
    (falls_returned ⟨hmanager ▸ h.verdict, hop', hmanager ▸ h.idle, h.finding⟩ rfl)

/-- A step of the lifecycle that gives the guard back. -/
theorem step_giveBack {e : Lifecycle.Event} (he : s.allowsLifecycle e = true)
    (hl : s.lifecycle.step e = some lifecycle) :
    (modbusClient limit config).step s (.lifecycle e) = some { s with lifecycle } :=
  (if_pos he).trans (move_of_goes rfl hl)

theorem falls_returning (h : Refusing s i o response r)
    (ha : s.lifecycle.admissions[i]? = some (.returning none))
    (hstage : o.stage = .returning (some (.ok response))) : Falls limit config s r := by
  have hl : s.lifecycle.step (.returnPermit i) = s.lifecycle.returnPermit i (.returning none) :=
    congrArg (Option.bind · (s.lifecycle.returnPermit i)) ha
  exact Falls.after (step_giveBack rfl hl)
    (falls_ended (s := { s with lifecycle := _ }) { h with } (Log.set_self ha) hstage)

theorem falls_released {becameIdle : Bool} (h : Refusing s i o response r)
    (ha : s.lifecycle.admissions[i]? = some (.released becameIdle))
    (hstage : o.stage = .returning (some (.ok response))) : Falls limit config s r := by
  have hl : s.lifecycle.step (.notifyIdle i) = s.lifecycle.notifyIdle i (.released becameIdle) :=
    congrArg (Option.bind · (s.lifecycle.notifyIdle i)) ha
  exact Falls.after (step_giveBack rfl hl)
    (falls_returning (s := { s with lifecycle := _ }) { h with } (Log.set_self ha) hstage)

theorem falls_of_idle (h : Refusing s i o response r) {a : Admission}
    (ha : s.lifecycle.admissions[i]? = some a) (hadmits : Place.Admits .returning a)
    (hnot : a ≠ .admitted) (hstage : o.stage = .returning (some (.ok response))) :
    Falls limit config s r := by
  cases a with
  | admitted => exact absurd rfl hnot
  | released => exact falls_released h ha hstage
  | returning error =>
    cases error with
    | none => exact falls_returning h ha hstage
    | some => cases hadmits
  | ended error =>
    cases error with
    | none => exact falls_ended h ha hstage
    | some => cases hadmits
  | entered | checked | permitted => cases hadmits

/-- A response on its way to a typed method that refuses it. -/
theorem falls_of_findingToCome (hs : (modbusClient limit config).Reachable s)
    (hverdict : s.manager.verdict = .reuseEligible) (hop : s.operations[i]? = some (.unicast o))
    (hstage : o.stage = .returning (some (.ok response)))
    (hr : finishTypedResponse (o.request.validate response) = some r) :
    Falls limit config s r := by
  have hw := Wired.of_reachable hs
  have hplace : (Operation.unicast o).place = .returning := by
    show (o.goto o.stage).place = _
    rw [hstage]
    rfl
  have hcalls := hw.calls hop
  obtain ⟨a, ha⟩ := hw.exists_admission hop
  have hadmits := hw.admits hop ha
  have hnot : a ≠ .admitted := by
    rintro rfl
    have hpos := Log.countP_pos Admission.isLive ha rfl
    have hb := (Lifecycle.Balanced.of_reachable (embeds_lifecycle.reachable hs)).active
    rw [(settled_of_reachable hs hverdict).active] at hb
    exact Nat.ne_of_lt hpos hb
  rw [hplace] at hcalls hadmits
  rcases hcalls with hidle | hnotify
  · exact falls_of_idle ⟨hverdict, hop, hidle, hr⟩ ha hadmits hnot hstage
  · -- the notification of the removal comes first
    have hm : s.manager.step (.act (.op i)) =
        some ((s.manager.perform .notify).proceed (.op i) []) := by
      simp only [Manager.step, hnotify]
    have he : (modbusClient limit config).step s (.manager (.act (.op i))) =
        some { s with manager := (s.manager.perform .notify).proceed (.op i) [] } :=
      move_of_goes (s := s) (m := some (.act (.op i))) (l := none) hm rfl
    exact Falls.after he (falls_of_idle (s := { s with manager := _ })
      ⟨hverdict, hop, Manager.setCall_self _, hr⟩ ha hadmits hnot hstage)

/-! ## Validation and the clean verdict -/

/-- No check of a response comes behind the verdict. -/
structure ValidatesFirst (limit : Instant) (config : ClientConfig) (s : ModbusClient) : Prop where
  /-- Every response a typed method has been handed is checked. -/
  validated : ∀ op ∈ s.operations, op.isUnvalidated = false
  final : ∀ es s₁ e s₂, (modbusClient limit config).run s es = some s₁ →
    s₁.manager.verdict = .reuseEligible → (modbusClient limit config).step s₁ e = some s₂ →
    s₂.manager.verdict ≠ .retire .typedResponseDataInvalid ∧
      s₂.manager.verdict ≠ .retire .typedResponseEchoMismatch

theorem cleared_of_run (hs : (modbusClient limit config).Reachable s) (h : Cleared s)
    {es : List Event} (hrun : (modbusClient limit config).run s es = some s') : Cleared s' :=
  hs.run_keeps (fun hs h he => h.step hs (stepped_of_step he)) h hrun

/-- Who publishes a clean verdict is the coordinator. -/
theorem marking_of_published {e : Event} (he : (modbusClient limit config).step s e = some s')
    (hbefore : s.manager.verdict ≠ .reuseEligible)
    (hpublished : s'.manager.verdict = .reuseEligible) :
    ∃ (n : Nat) (c : Coordinator), s.lifecycle.coordinators[n]? = some c ∧ c.pc = .marking true := by
  cases stepped_of_step he with
  | operate _ _ _ _ hm =>
    have heq := (eligible_of_goes hm hpublished).resolve_left hbefore
    cases ownStep_of_managerEffect heq
  | call => exact absurd hpublished hbefore
  | other hother hm =>
    cases (eligible_of_goes hm hpublished).resolve_left hbefore
    exact coordinator_of_markCleanShutdown hother

/-- The request of `read_coils`, once encoded, with the check of the response. -/
def readCoilsRequest (unitId : UnitId) (quantity : UInt16) (pdu : List UInt8) : Request where
  expected := { unitId, functionCode := .readCoils }
  pdu
  kind := .replaySafe
  validate response := do
    let _ ← typedResponse (fun
      | .readCoils r => some (bitValues .readCoils quantity r)
      | _ => none) response

end ModbusClient

end RustyModbus.Client.Concurrent
