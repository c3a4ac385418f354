import RustyModbus.Client.Moves

/-!
# How a client is closed

What a clean shutdown leaves behind. The coordinator records what it saw in the section in which
it closed the client; from there on nothing is admitted, nobody closes the client again and the
tasks it has joined stay as they ended. `Settled` is that state, and every step keeps it.
-/

namespace RustyModbus.Client.Concurrent

/-- The client is closed behind the coordinator. -/
def CoordinatorPc.IsSettled : CoordinatorPc → Prop
  | .marking _ | .publishing | .finished => True
  | _ => False

/-- The coordinator has joined the reader, and has retired the session if it panicked. -/
def CoordinatorPc.IsPastReader : CoordinatorPc → Prop
  | .joiningDeadline _ | .deadlineFailed | .disconnecting | .closing | .marking _ | .publishing
  | .finished => True
  | _ => False

namespace Lifecycle

variable {s s' : Lifecycle} {e : Event}

/-! ## What a step leaves alone -/

theorem abortInner_closing (s : Lifecycle) (pc : AbortPc) :
    (s.abortInner pc).closing = s.closing ∧
      (s.abortInner pc).reader.ended = s.reader.ended ∧
      (s.abortInner pc).reader.joined = s.reader.joined := by
  cases pc <;> exact ⟨rfl, rfl, rfl⟩

/-- The record of the closing, and the reader's task. -/
structure SameRecord (s s' : Lifecycle) : Prop where
  closing : s'.closing = s.closing
  ended : s'.reader.ended = s.reader.ended
  joined : s'.reader.joined = s.reader.joined

theorem SameRecord.of_eq (hclosing : s'.closing = s.closing) (hreader : s'.reader = s.reader) :
    SameRecord s s' :=
  ⟨hclosing, by rw [hreader], by rw [hreader]⟩

/-- What was recorded is not overwritten. -/
structure LaterRecord (s s' : Lifecycle) : Prop where
  closing : s'.closing = s.closing
  ended : ∀ result, s.reader.ended = some result → s'.reader.ended = some result
  joined : s'.reader.joined = s.reader.joined

theorem SameRecord.later (h : SameRecord s s') : LaterRecord s s' :=
  ⟨h.closing, fun _ hr => h.ended.trans hr, h.joined⟩

/-- A step of the coordinator `c`, by where it gets to. -/
inductive CoordinatorMove (s : Lifecycle) (c : Coordinator) (pendingEmpty : Bool)
    (s' : Lifecycle) : CoordinatorPc → Prop
  | join {deadline : Bool} {result : TaskEnd} (hpc : c.pc = .joiningReader true deadline)
    (hended : s.reader.ended = some result) (hclosing : s'.closing = s.closing)
    (hreader : s'.reader = { s.reader with joined := true }) :
    CoordinatorMove s c pendingEmpty s'
      (if result = .panicked then .readerFailed deadline else .joiningDeadline deadline)
  | close {closing : Closing} (hpc : c.pc = .closing)
    (hrecord : closing = { phase := s.phase, active := s.active, pendingEmpty })
    (hclosing : s'.closing = some closing) (hreader : s'.reader = s.reader)
    (hactive : s'.active = s.active) : CoordinatorMove s c pendingEmpty s' (.marking closing.clean)
  | other {pc : CoordinatorPc} (hrecord : SameRecord s s')
    (hmarking : ∀ clean, pc ≠ .marking clean) (hkeep : c.pc.IsSettled → pc.IsSettled)
    (hpast : pc.IsPastReader → c.pc.IsPastReader ∨ (∃ deadline, c.pc = .readerFailed deadline) ∨
      ∃ deadline, c.pc = .joiningReader false deadline) :
    CoordinatorMove s c pendingEmpty s' pc

variable {c : Coordinator} {pendingEmpty : Bool} {pc : CoordinatorPc}

theorem CoordinatorMove.early (hrecord : SameRecord s s') (hc : ¬ c.pc.IsSettled)
    (hpc : ¬ pc.IsPastReader) (hsettled : ¬ pc.IsSettled) :
    CoordinatorMove s c pendingEmpty s' pc := by
  refine .other hrecord ?_ (fun h => absurd h hc) (fun h => absurd h hpc)
  rintro clean rfl
  exact hsettled trivial

/-- A step from before the section in which the client is closed to before it. -/
theorem CoordinatorMove.before (hrecord : SameRecord s s') (hc : ¬ c.pc.IsSettled)
    (hsettled : ¬ pc.IsSettled)
    (hpast : c.pc.IsPastReader ∨ (∃ deadline, c.pc = .readerFailed deadline) ∨
      ∃ deadline, c.pc = .joiningReader false deadline) :
    CoordinatorMove s c pendingEmpty s' pc := by
  refine .other hrecord ?_ (fun h => absurd h hc) fun _ => hpast
  rintro clean rfl
  exact hsettled trivial

/-- A step behind that section. -/
theorem CoordinatorMove.behind (hrecord : SameRecord s s') (hpast : c.pc.IsPastReader)
    (hpc : pc = .publishing ∨ pc = .finished) :
    CoordinatorMove s c pendingEmpty s' pc := by
  refine .other hrecord ?_ (fun _ => ?_) fun _ => Or.inl hpast
  · rintro clean rfl
    rcases hpc with h | h <;> cases h
  · rcases hpc with rfl | rfl <;> trivial

theorem drain_move (s : Lifecycle) (n : Nat) (now deadline : Instant) (pendingEmpty : Bool)
    (pc : DrainPc) (hc : c.pc = .draining deadline pc) :
    ∃ pc', (s.drain n c now deadline pc).coordinators = s.coordinators.set n { c with pc := pc' } ∧
      CoordinatorMove s c pendingEmpty (s.drain n c now deadline pc) pc' := by
  have hnot : ¬ c.pc.IsSettled := by rw [hc]; exact id
  cases pc <;> simp only [drain] <;> split <;>
    exact ⟨_, rfl, .early (.of_eq rfl rfl) hnot id id⟩

theorem coordinatorMove_of_step {n : Nat} {now : Instant}
    (h : s.coordinate n c now pendingEmpty = some s') :
    ∃ pc, s'.coordinators = s.coordinators.set n { c with pc } ∧
      CoordinatorMove s c pendingEmpty s' pc := by
  obtain ⟨pc, abortRequested⟩ := c
  cases pc with
  | started =>
    simp only [coordinate] at h
    split at h <;> cases h
    · refine ⟨_, rfl, .early (.of_eq rfl rfl) id ?_ ?_⟩ <;> split <;> exact id
    · exact ⟨_, rfl, .early (.of_eq rfl rfl) id id id⟩
  | draining => cases h; exact drain_move s n now _ _ _ rfl
  | aborting pc =>
    obtain ⟨hclosing, hended, hjoined⟩ := abortInner_closing s pc
    have hcoord := (abortInner_step s pc).coordinators
    have habort (pc' : CoordinatorPc) (hpc' : ¬ pc'.IsPastReader) (hpc'' : ¬ pc'.IsSettled) :
        ∃ pc'', ((s.abortInner pc).goto n ⟨.aborting pc, abortRequested⟩ pc').coordinators =
            s.coordinators.set n ⟨pc'', abortRequested⟩ ∧
          CoordinatorMove s ⟨.aborting pc, abortRequested⟩ pendingEmpty
            ((s.abortInner pc).goto n ⟨.aborting pc, abortRequested⟩ pc') pc'' :=
      ⟨pc', by rw [← hcoord]; rfl,
        .early ⟨hclosing, hended, hjoined⟩ id hpc' hpc''⟩
    cases pc <;> cases h <;> exact habort _ id id
  | drained | stopping | abortingTasks =>
    cases h
    exact ⟨_, rfl, .early ⟨rfl, rfl, rfl⟩ id id id⟩
  | taking => cases h; exact ⟨_, rfl, .early ⟨rfl, rfl, rfl⟩ id id id⟩
  | joiningReader reader deadline =>
    cases reader with
    | false =>
      cases h
      exact ⟨_, rfl, .before (.of_eq rfl rfl) id id (Or.inr (Or.inr ⟨_, rfl⟩))⟩
    | true =>
      simp only [coordinate, joinReader] at h
      split at h <;> cases h
      next hended => exact ⟨_, rfl, .join rfl hended rfl rfl⟩
  | readerFailed =>
    cases h
    exact ⟨_, rfl, .before (.of_eq rfl rfl) id id (Or.inr (Or.inl ⟨_, rfl⟩))⟩
  | joiningDeadline deadline =>
    cases deadline with
    | false =>
      cases h
      exact ⟨_, rfl, .before (.of_eq rfl rfl) id id (Or.inl trivial)⟩
    | true =>
      simp only [coordinate, joinDeadline] at h
      split at h <;> cases h
      refine ⟨_, rfl, .before (.of_eq rfl rfl) id ?_ (Or.inl trivial)⟩
      split <;> exact id
  | deadlineFailed | disconnecting =>
    cases h
    exact ⟨_, rfl, .before (.of_eq rfl rfl) id id (Or.inl trivial)⟩
  | closing => cases h; exact ⟨_, rfl, .close rfl rfl rfl rfl rfl⟩
  | marking =>
    cases h
    exact ⟨_, rfl, .behind (.of_eq rfl rfl) trivial (Or.inl rfl)⟩
  | publishing =>
    cases h
    exact ⟨_, rfl, .behind (.of_eq rfl rfl) trivial (Or.inr rfl)⟩
  | finished | aborted => cases h

theorem not_isSettled_of_awaits (h : pc.awaits = true) : ¬ pc.IsSettled := by
  intro hsettled
  cases pc with
  | marking | publishing | finished => cases h
  | _ => cases hsettled

/-- Any step, by what it does to the record. Only a step of its own moves a coordinator, and a
second one is not spawned. -/
inductive RecordStep (s : Lifecycle) (e : Event) (s' : Lifecycle) : Prop
  | coordinator {n : Nat} {c : Coordinator} {pendingEmpty : Bool} {pc : CoordinatorPc}
    (hc : s.coordinators[n]? = some c) (hpcs : s'.coordinators.map Coordinator.pc = [pc])
    (hmove : CoordinatorMove s c pendingEmpty s' pc)
    (he : pc.IsPastReader → ∃ now, e = .coordinate n now pendingEmpty)
  | other (hlater : LaterRecord s s')
    (hpcs : s'.coordinators.map Coordinator.pc = s.coordinators.map Coordinator.pc ∨
      s.coordinators = [] ∧ s'.coordinators.map Coordinator.pc = [.started])

theorem recordStep_of_step (hs : Coordinated s) (he : s.step e = some s') : RecordStep s e s' := by
  have hsame {s' : Lifecycle} (hclosing : s'.closing = s.closing) (hreader : s'.reader = s.reader) :
      LaterRecord s s' := (SameRecord.of_eq hclosing hreader).later
  cases transition_of_step he with
  | @coordinate n now pendingEmpty c _ hc hstep =>
    obtain ⟨pc, hset, hmove⟩ := coordinatorMove_of_step hstep
    rw [(Log.set_singleton (b := { c with pc }) hs.length_le hc).2] at hset
    exact .coordinator hc (congrArg _ hset) hmove fun _ => ⟨now, rfl⟩
  | @cancelCoordinator n c hc hawaits =>
    have hset := (Log.set_singleton (b := { c with pc := .aborted }) hs.length_le hc).2
    exact @RecordStep.coordinator _ _ _ n c true .aborted hc (congrArg _ hset)
      (.early (.of_eq rfl rfl) (not_isSettled_of_awaits hawaits) id id) nofun
  | endReader hnone =>
    exact .other ⟨rfl, fun _ hr => (nomatch hnone.symm.trans hr), rfl⟩ (Or.inl rfl)
  | spawn hcall =>
    have hnone := hs.none_of_spawning hcall
    exact .other (hsame rfl rfl) (Or.inr ⟨hnone, by rw [hnone]; rfl⟩)
  | abort _ pc =>
    obtain ⟨hclosing, hended, hjoined⟩ := abortInner_closing s pc
    exact .other ⟨hclosing, fun _ hr => hended.trans hr, hjoined⟩
      (Or.inl (congrArg _ (abortInner_step s pc).coordinators))
  | abortCoordinator hpcs => exact .other (hsame rfl rfl) (Or.inl hpcs)
  | _ => exact .other (hsame rfl rfl) (Or.inl rfl)

/-- Where the client does not run the count only falls. -/
theorem active_of_step (he : s.step e = some s') (hrun : s.phase ≠ .running) :
    s'.active ≤ s.active := by
  cases transition_of_step he with
  | @admission _ _ _ _ _ b _ _ _ _ hactive _ hlive =>
    have hb : b.isLive = false := Bool.eq_false_iff.mpr fun hb => hrun (hlive hb)
    rw [hactive, hb]
    exact Nat.sub_le ..
  | abort _ pc => exact Nat.le_of_eq (abortInner_step s pc).guards.active
  | coordinate _ hstep => exact Nat.le_of_eq (coordinate_step hstep).guards.active
  | _ => exact Nat.le_refl _

/-! ## The record -/

structure Recorded (s : Lifecycle) : Prop where
  ended : s.reader.joined = true → ∃ result, s.reader.ended = some result
  record : ∀ {clean : Bool}, .marking clean ∈ s.coordinators.map Coordinator.pc →
    ∃ c, s.closing = some c ∧ c.clean = clean ∧ (clean = true → s.active = 0)

/-- What the coordinator saw where it closed the client, with nothing admitted since. -/
structure Settled (s : Lifecycle) : Prop where
  closing : ∃ c, s.closing = some c ∧ c.clean = true
  active : s.active = 0
  coordinators : ∃ pc, s.coordinators.map Coordinator.pc = [pc] ∧ pc.IsSettled

namespace Recorded

theorem new (capacity : Nat) : Recorded (.new capacity) := ⟨nofun, nofun⟩

theorem ended_of_later (h : Recorded s) (hrecord : LaterRecord s s') :
    s'.reader.joined = true → ∃ result, s'.reader.ended = some result := by
  intro hjoined
  obtain ⟨result, hresult⟩ := h.ended (hrecord.joined ▸ hjoined)
  exact ⟨result, hrecord.ended _ hresult⟩

/-- A coordinator that is behind the section keeps what it recorded. -/
theorem record_of_later (h : Recorded s) (hs : Coordinated s) (hrecord : LaterRecord s s')
    (he : s.step e = some s') {clean : Bool}
    (hpc : .marking clean ∈ s.coordinators.map Coordinator.pc) :
    ∃ c, s'.closing = some c ∧ c.clean = clean ∧ (clean = true → s'.active = 0) := by
  obtain ⟨c, hc, hclean, hactive⟩ := h.record hpc
  refine ⟨c, hrecord.closing.trans hc, hclean, fun htrue => ?_⟩
  have hclosed : s.phase = .closed := (hs.passed _ hpc).2.2
  have hle := active_of_step he (by rw [hclosed]; exact nofun)
  rw [hactive htrue] at hle
  exact Nat.le_zero.mp hle

theorem step (h : Recorded s) (hs : Coordinated s) (he : s.step e = some s') : Recorded s' := by
  cases recordStep_of_step hs he with
  | coordinator hc hpcs hmove =>
    cases hmove with
    | join _ hended _ hreader =>
      refine ⟨fun _ => ⟨_, by rw [hreader]; exact hended⟩, fun {clean} hmem => ?_⟩
      rw [hpcs] at hmem
      have hmem := List.mem_singleton.mp hmem
      split at hmem <;> cases hmem
    | close _ hrecord hclosing hreader hactive =>
      refine ⟨fun hjoined => hreader ▸ h.ended (hreader ▸ hjoined), fun {clean} hmem => ?_⟩
      rw [hpcs] at hmem
      cases List.mem_singleton.mp hmem
      refine ⟨_, hclosing, rfl, fun hclean => ?_⟩
      rw [hactive]
      rw [hrecord, Closing.clean] at hclean
      simp only [Bool.and_eq_true, beq_iff_eq] at hclean
      exact hclean.1.2
    | other hrecord hmarking =>
      refine ⟨h.ended_of_later hrecord.later, fun {clean} hmem => ?_⟩
      rw [hpcs] at hmem
      exact absurd (List.mem_singleton.mp hmem).symm (hmarking clean)
  | other hlater hpcs =>
    refine ⟨h.ended_of_later hlater, fun {clean} hmem => ?_⟩
    rcases hpcs with hsame | ⟨-, hstarted⟩
    · exact h.record_of_later hs hlater he (hsame ▸ hmem)
    · rw [hstarted] at hmem
      cases List.mem_singleton.mp hmem

theorem of_reachable {maxInFlight : Nat} (hs : (lifecycle maxInFlight).Reachable s) : Recorded s :=
  hs.invariant (new _) fun hs h he => h.step (.of_reachable hs) he

end Recorded

namespace Settled

/-- A settled client is closed and its tasks are joined. -/
theorem passed (h : Settled s) (hs : Coordinated s) :
    s.reader.joined = true ∧ s.deadline.joined = true ∧ s.phase = .closed := by
  obtain ⟨pc, hpcs, hpc⟩ := h.coordinators
  have hpassed := hs.passed pc (by rw [hpcs]; exact List.mem_singleton_self pc)
  cases pc with
  | marking | publishing | finished => exact hpassed
  | _ => cases hpc

/-- The coordinator where it is about to publish a clean shutdown. -/
theorem of_marking (hs : Coordinated s) (hr : Recorded s) {n : Nat} {c : Coordinator}
    (hc : s.coordinators[n]? = some c) (hpc : c.pc = .marking true) : Settled s := by
  obtain ⟨hone, -⟩ := Log.set_singleton (b := c) hs.length_le hc
  have hpcs : s.coordinators.map Coordinator.pc = [.marking true] := by rw [hone, ← hpc]; rfl
  obtain ⟨closing, hclosing, hclean, hactive⟩ :=
    hr.record (show CoordinatorPc.marking true ∈ _ by rw [hpcs]; exact List.mem_singleton_self _)
  exact ⟨⟨closing, hclosing, hclean⟩, hactive rfl, _, hpcs, trivial⟩

theorem step (h : Settled s) (hs : Coordinated s) (he : s.step e = some s') : Settled s' := by
  obtain ⟨closing, hclosing, hclean⟩ := h.closing
  obtain ⟨pc, hpcs, hpc⟩ := h.coordinators
  have hactive : s'.active = 0 := by
    have hle := active_of_step he (by rw [(h.passed hs).2.2]; exact nofun)
    rw [h.active] at hle
    exact Nat.le_zero.mp hle
  cases recordStep_of_step hs he with
  | @coordinator _ c _ pc' hc hpcs' hmove =>
    have hc' : c.pc.IsSettled := by
      have hmem : c.pc ∈ s.coordinators.map Coordinator.pc :=
        List.mem_map_of_mem (List.mem_of_getElem? hc)
      rw [hpcs, List.mem_singleton] at hmem
      rwa [hmem]
    cases hmove with
    | join hpc' | close hpc' => rw [hpc'] at hc'; cases hc'
    | other hrecord _ hkeep =>
      exact ⟨⟨closing, hrecord.closing.trans hclosing, hclean⟩, hactive, pc', hpcs', hkeep hc'⟩
  | other hlater hpcs' =>
    refine ⟨⟨closing, hlater.closing.trans hclosing, hclean⟩, hactive, pc, ?_, hpc⟩
    rcases hpcs' with hsame | ⟨hnone, -⟩
    · exact hsame.trans hpcs
    · rw [hnone] at hpcs
      cases hpcs

end Settled

/-! ## How the reader ended -/

/-- The reader's task ends where it says so. -/
theorem ended_of_step (he : s.step e = some s') (ht : ∀ result, e ≠ .endTask .reader result) :
    s'.reader.ended = s.reader.ended := by
  cases transition_of_step he with
  | coordinate _ hstep =>
    obtain ⟨pc, -, hmove⟩ := coordinatorMove_of_step hstep
    cases hmove with
    | join _ _ _ hreader | close _ _ _ hreader => rw [hreader]
    | other hrecord => exact hrecord.ended
  | endReader => exact absurd rfl (ht _)
  | abort _ pc => exact (abortInner_closing s pc).2.1
  | _ => rfl

/-- A coordinator that has joined the reader did not find that it panicked. -/
def NoPanic (s : Lifecycle) : Prop :=
  ∀ pc ∈ s.coordinators.map Coordinator.pc, pc.IsPastReader → s.reader.ended ≠ some .panicked

/-- Behind the join the reader has ended. -/
theorem ended_of_isPastReader (hs : Coordinated s) (hr : Recorded s)
    (hpc : pc ∈ s.coordinators.map Coordinator.pc) (hpast : pc.IsPastReader) :
    ∃ result, s.reader.ended = some result := by
  refine hr.ended ?_
  have hpassed := hs.passed pc hpc
  cases pc with
  | joiningDeadline => exact hpassed.2
  | deadlineFailed | disconnecting | closing | marking | publishing | finished => exact hpassed.1
  | _ => cases hpast

/-- Every step keeps this but the one from the place at which the session is retired. -/
theorem NoPanic.step (h : NoPanic s) (hs : Coordinated s) (hr : Recorded s)
    (he : s.step e = some s')
    (hfailed : ∀ {n now pendingEmpty c deadline}, e = .coordinate n now pendingEmpty →
      s.coordinators[n]? = some c → c.pc ≠ .readerFailed deadline) : NoPanic s' := by
  have keep {pc : CoordinatorPc} (hpc : pc ∈ s.coordinators.map Coordinator.pc)
      (hpast : pc.IsPastReader)
      (hended : ∀ result, s.reader.ended = some result → s'.reader.ended = some result) :
      s'.reader.ended ≠ some .panicked := by
    obtain ⟨result, hresult⟩ := ended_of_isPastReader hs hr hpc hpast
    rw [hended result hresult, ← hresult]
    exact h pc hpc hpast
  intro pc hpc hpast
  cases recordStep_of_step hs he with
  | @coordinator _ c _ pc' hc hpcs hmove hevent =>
    have hmem : c.pc ∈ s.coordinators.map Coordinator.pc :=
      List.mem_map_of_mem (List.mem_of_getElem? hc)
    rw [hpcs] at hpc
    obtain rfl := List.mem_singleton.mp hpc
    obtain ⟨now, rfl⟩ := hevent hpast
    cases hmove with
    | join _ hended _ hreader =>
      rw [hreader]
      dsimp only
      rw [hended]
      split at hpast
      next => cases hpast
      next hne => exact fun heq => hne (Option.some.inj heq)
    | close hclosing _ _ hreader =>
      exact keep hmem (by rw [hclosing]; trivial) fun _ hresult => hreader ▸ hresult
    | other hrecord _ _ hwhere =>
      rcases hwhere hpast with hc' | ⟨deadline, hc'⟩ | ⟨deadline, hc'⟩
      · exact keep hmem hc' fun _ hresult => hrecord.ended.trans hresult
      · exact absurd hc' (hfailed rfl hc)
      · have hpassed := hs.passed _ hmem
        rw [hc'] at hpassed
        cases hpassed.1
  | other hlater hpcs =>
    rcases hpcs with hsame | ⟨-, hstarted⟩
    · exact keep (hsame ▸ hpc) hpast hlater.ended
    · rw [hstarted] at hpc
      cases List.mem_singleton.mp hpc
      cases hpast

end Lifecycle

end RustyModbus.Client.Concurrent
