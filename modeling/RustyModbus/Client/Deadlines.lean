import RustyModbus.Client.Correlation

/-!
# The deadline scheduler

The scheduler puts itself into the queue of `deadline_changed`, scans the slots one after the
other, and goes to sleep until the nearest deadline it has seen. While it scans, requests are
registered behind its cursor. What keeps their deadlines from being missed is the order of four
things: it enables itself before it looks, and who fills a slot notifies before letting go of
the slot's lock. So a slot that was filled after it was looked at comes with a notification the
scheduler cannot have missed.
-/

namespace RustyModbus.Client.Concurrent

open Function (update)

variable {ι : Type}

/-! ## What the other threads do -/

/-- A step of another thread as the scheduler sees it: a slot is filled only with a
notification. -/
structure Passive (s s' : Manager ι) : Prop where
  scheduler : s'.scheduler = s.scheduler
  notify : s'.deadlineChanged = s.deadlineChanged ∨
    s'.deadlineChanged = s.deadlineChanged.notifyOne
  slots : (∀ {i p}, s'.slots i = some p → s.slots i = some p) ∨
    s'.deadlineChanged = s.deadlineChanged.notifyOne

namespace Passive

variable {s s' : Manager ι}

theorem quiet (hscheduler : s'.scheduler = s.scheduler)
    (hnotify : s'.deadlineChanged = s.deadlineChanged) (hslots : s'.slots = s.slots) :
    Passive s s' :=
  ⟨hscheduler, Or.inl hnotify, Or.inl fun h => hslots ▸ h⟩

theorem freed {slot : Fin maxSlots} (hscheduler : s'.scheduler = s.scheduler)
    (hnotify : s'.deadlineChanged = s.deadlineChanged)
    (hslots : s'.slots = update s.slots slot none) : Passive s s' := by
  refine ⟨hscheduler, Or.inl hnotify, Or.inl ?_⟩
  intro i p hi
  rw [hslots] at hi
  by_cases his : i = slot
  · subst his
    rw [Function.update_self] at hi
    cases hi
  · rwa [Function.update_of_ne his] at hi

theorem notified (hscheduler : s'.scheduler = s.scheduler)
    (hnotify : s'.deadlineChanged = s.deadlineChanged.notifyOne) : Passive s s' :=
  ⟨hscheduler, Or.inr hnotify, Or.inr hnotify⟩

end Passive

/-- The steps of the scheduler. -/
def Event.IsScheduler : Event ι → Prop
  | .enable | .beginScan | .visit | .endScan | .wake | .sleepElapsed | .stop => True
  | _ => False

theorem passive_of_step [DecidableEq ι] {s s' : Manager ι} {e : Event ι}
    (hother : ¬ e.IsScheduler) (he : s.step e = some s') : Passive s s' := by
  cases transition_of_step he with
  | enable | beginScan | visit | endScan | wake | sleepElapsed | stop => exact absurd trivial hother
  | fill | endCancel => exact .notified rfl rfl
  | takeResponse | takeOldest | remove | dropRemove | cancelSlot => exact .freed rfl rfl rfl
  | @act _ a =>
    cases a with
    | notify => exact .notified rfl rfl
    | retire | send => exact .quiet rfl rfl rfl
  | _ => exact .quiet rfl rfl rfl

/-! ## What a scan knows -/

namespace Scan

/-- The transactions the scan found in the slots it has looked at. -/
def pending (scan : Scan) : List Pending := scan.found.filterMap id

def due (scan : Scan) : List Pending := scan.pending.filter fun p => p.deadline ≤ scan.now

def later (scan : Scan) : List Instant :=
  (scan.pending.filter fun p => ¬ p.deadline ≤ scan.now).map Pending.deadline

/-- The least of some instants, if there is one. -/
def IsNearest (nearest : Option Instant) (instants : List Instant) : Prop :=
  match nearest with
  | none => instants = []
  | some n => n ∈ instants ∧ ∀ d ∈ instants, n ≤ d

/-- The local variables are what they should be for what was found: the due transactions are
timed out and no others, and the nearest deadline is the least of the rest. -/
structure Accurate (scan : Scan) : Prop where
  cursor : scan.found.length = scan.cursor
  timedOut : scan.timedOut = scan.due.map Pending.sender
  expired : scan.expired = true ↔ scan.due ≠ []
  nearest : IsNearest scan.nearest scan.later

theorem accurate_start (now : Instant) : (start now).Accurate where
  cursor := rfl
  timedOut := rfl
  expired := ⟨nofun, fun h => absurd rfl h⟩
  nearest := rfl

end Scan

theorem isNearest_concat {nearest : Option Instant} {instants : List Instant} (d : Instant)
    (h : Scan.IsNearest nearest instants) :
    Scan.IsNearest (nearer nearest d) (instants ++ [d]) := by
  cases nearest with
  | none =>
    rw [show instants = [] from h]
    exact ⟨List.mem_singleton_self d, fun d' hd' => Nat.le_of_eq (List.mem_singleton.mp hd').symm⟩
  | some n =>
    obtain ⟨hmem, hle⟩ := h
    rw [nearer]
    split
    next hlt =>
      refine ⟨List.mem_append_right _ (List.mem_singleton_self d), fun d' hd' => ?_⟩
      rcases List.mem_append.mp hd' with hd' | hd'
      · exact Nat.le_trans (Nat.le_of_lt hlt) (hle d' hd')
      · exact Nat.le_of_eq (List.mem_singleton.mp hd').symm
    next hge =>
      refine ⟨List.mem_append_left _ hmem, fun d' hd' => ?_⟩
      rcases List.mem_append.mp hd' with hd' | hd'
      · exact hle d' hd'
      · rw [List.mem_singleton.mp hd']
        exact Nat.le_of_not_lt hge

namespace Scan.Accurate

variable {scan : Scan}

theorem visit_none (h : scan.Accurate) :
    Accurate { scan with cursor := scan.cursor + 1, found := scan.found ++ [none] } := by
  have hpending : List.filterMap id (scan.found ++ [none]) = scan.pending := by
    rw [List.filterMap_append]
    exact List.append_nil _
  refine ⟨?_, ?_, ?_, ?_⟩
  · exact List.length_append.trans (congrArg (· + 1) h.cursor)
  · simpa only [due, pending, hpending] using h.timedOut
  · simpa only [due, pending, hpending] using h.expired
  · simpa only [later, pending, hpending] using h.nearest

theorem visit_due {p : Pending} (h : scan.Accurate) (hdue : p.deadline ≤ scan.now) :
    Accurate { scan with
      cursor := scan.cursor + 1, found := scan.found ++ [some p], expired := true,
      timedOut := scan.timedOut ++ [p.sender] } := by
  refine ⟨?_, ?_, ?_, ?_⟩
  · exact List.length_append.trans (congrArg (· + 1) h.cursor)
  · simp [due, pending, hdue, h.timedOut]
  · simp [due, pending, hdue]
  · have hsame : later { scan with found := scan.found ++ [some p] } = scan.later := by
      simp [later, pending, hdue]
    exact hsame ▸ h.nearest

theorem visit_later {p : Pending} (h : scan.Accurate) (hlater : ¬ p.deadline ≤ scan.now) :
    Accurate { scan with
      cursor := scan.cursor + 1, found := scan.found ++ [some p],
      nearest := nearer scan.nearest p.deadline } := by
  have hsame : due { scan with found := scan.found ++ [some p] } = scan.due := by
    simp [due, pending, hlater]
  refine ⟨?_, ?_, ?_, ?_⟩
  · exact List.length_append.trans (congrArg (· + 1) h.cursor)
  · exact h.timedOut.trans (congrArg (List.map Pending.sender) hsame.symm)
  · exact hsame ▸ h.expired
  · have hconcat : later { scan with found := scan.found ++ [some p] } =
        scan.later ++ [p.deadline] := by
      simp [later, pending, Nat.lt_of_not_le hlater]
    exact hconcat ▸ isNearest_concat p.deadline h.nearest

end Scan.Accurate

theorem nearer_le (nearest : Option Instant) (d : Instant) :
    ∃ n, nearer nearest d = some n ∧ n ≤ d ∧ ∀ m, nearest = some m → n ≤ m := by
  cases nearest with
  | none => exact ⟨d, rfl, Nat.le_refl d, nofun⟩
  | some current =>
    rw [nearer]
    split
    next hlt => exact ⟨d, rfl, Nat.le_refl d, fun m hm => Option.some.inj hm ▸ Nat.le_of_lt hlt⟩
    next hge =>
      exact ⟨current, rfl, Nat.le_of_not_lt hge, fun m hm => Nat.le_of_eq (Option.some.inj hm)⟩

/-! ## No deadline behind the cursor is missed -/

/-- Of the slots the scan has looked at, none holds a deadline before the nearest it knows,
unless the scheduler has been notified. -/
def Covers (s : Manager ι) (scan : Scan) : Prop :=
  s.deadlineChanged.issued = true ∨ ∀ (i : Fin maxSlots) (p : Pending), i < scan.cursor →
    s.slots i = some p → ∃ n, scan.nearest = some n ∧ n ≤ p.deadline

/-- The scheduler is in the queue of `deadline_changed`. -/
def Scheduler.Waits : Scheduler → Prop
  | .enabled | .scanning _ | .parked _ => True
  | .idle | .stopped => False

structure Scheduled (s : Manager ι) : Prop where
  sound : s.deadlineChanged.Sound
  waits : s.scheduler.Waits → s.deadlineChanged.waiter ≠ .absent
  scanning : ∀ {scan}, s.scheduler = .scanning scan →
    scan.Accurate ∧ scan.cursor ≤ maxSlots ∧ Covers s scan
  parked : ∀ {scan}, s.scheduler = .parked scan →
    scan.Accurate ∧ scan.cursor = maxSlots ∧ Covers s scan

theorem Covers.passive {s s' : Manager ι} {scan : Scan} (h : Covers s scan) (hp : Passive s s') :
    Covers s' scan := by
  rcases hp.notify with hsame | hnotify
  · rcases hp.slots with hslots | hnotify
    · rcases h with hissued | hcovers
      · exact Or.inl (hsame ▸ hissued)
      · exact Or.inr fun i p hi hslot => hcovers i p hi (hslots hslot)
    · exact Or.inl (hnotify ▸ Notify.issued_notifyOne _)
  · exact Or.inl (hnotify ▸ Notify.issued_notifyOne _)

namespace Scheduled

variable {s s' : Manager ι}

protected theorem new : Scheduled (Manager.new : Manager ι) where
  sound := Notify.sound_new
  waits h := absurd h id
  scanning := nofun
  parked := nofun

protected theorem passive (h : Scheduled s) (hp : Passive s s') : Scheduled s' := by
  refine ⟨?_, ?_, ?_, ?_⟩
  · rcases hp.notify with hsame | hnotify
    · exact hsame ▸ h.sound
    · exact hnotify ▸ Notify.sound_notifyOne _
  · intro hwaits
    have hpresent := h.waits (hp.scheduler ▸ hwaits)
    rcases hp.notify with hsame | hnotify
    · exact hsame ▸ hpresent
    · rw [hnotify, ne_eq, Notify.waiter_notifyOne]
      exact hpresent
  · intro scan hscan
    obtain ⟨haccurate, hcursor, hcovers⟩ := h.scanning (hp.scheduler ▸ hscan)
    exact ⟨haccurate, hcursor, hcovers.passive hp⟩
  · intro scan hscan
    obtain ⟨haccurate, hcursor, hcovers⟩ := h.parked (hp.scheduler ▸ hscan)
    exact ⟨haccurate, hcursor, hcovers.passive hp⟩

/-- The scheduler goes on scanning, with the notification as it was. -/
theorem scan_on {scan scan' : Scan} (h : Scheduled s) (hold : s.scheduler = .scanning scan)
    (hscheduler : s'.scheduler = .scanning scan')
    (hnotify : s'.deadlineChanged = s.deadlineChanged) (haccurate : scan'.Accurate)
    (hcursor : scan'.cursor ≤ maxSlots) (hcovers : Covers s' scan') : Scheduled s' where
  sound := hnotify ▸ h.sound
  waits _ := hnotify ▸ h.waits (by rw [hold]; trivial)
  scanning hscan := by
    rw [hscheduler] at hscan
    cases hscan
    exact ⟨haccurate, hcursor, hcovers⟩
  parked hscan := by
    rw [hscheduler] at hscan
    cases hscan

protected theorem visit {scan : Scan} (h : Scheduled s) (hold : s.scheduler = .scanning scan)
    (hlt : scan.cursor < maxSlots) : Scheduled (s.visit scan ⟨scan.cursor, hlt⟩) := by
  obtain ⟨haccurate, -, hcovers⟩ := h.scanning hold
  -- a slot behind the new cursor is the one just looked at or was behind the cursor before
  have hbehind {i : Fin maxSlots} (hi : (i : Nat) < scan.cursor + 1)
      (hne : i ≠ ⟨scan.cursor, hlt⟩) : (i : Nat) < scan.cursor :=
    Nat.lt_of_le_of_ne (Nat.le_of_lt_succ hi) fun heq => hne (Fin.ext heq)
  unfold Manager.visit
  dsimp only
  split
  next hslot =>
    rw [hslot]
    refine h.scan_on hold rfl rfl haccurate.visit_none hlt ?_
    refine hcovers.imp id fun hold i p hi hp => hold i p (hbehind hi ?_) hp
    rintro rfl
    rw [show s.slots ⟨scan.cursor, hlt⟩ = some p from hp] at hslot
    cases hslot
  next p hslot =>
    rw [hslot]
    split
    next hdue =>
      refine h.scan_on hold rfl rfl (haccurate.visit_due hdue) hlt ?_
      refine hcovers.imp id fun hold i p' hi hp' => ?_
      by_cases hne : i = ⟨scan.cursor, hlt⟩
      · subst hne
        exact absurd ((Function.update_self ..).symm.trans hp') nofun
      · exact hold i p' (hbehind hi hne) ((Function.update_of_ne hne ..).symm.trans hp')
    next hlater =>
      refine h.scan_on hold rfl rfl (haccurate.visit_later hlater) hlt ?_
      obtain ⟨n, hn, hle, hmin⟩ := nearer_le scan.nearest p.deadline
      refine hcovers.imp id fun hold i p' hi hp' => ⟨n, hn, ?_⟩
      by_cases hne : i = ⟨scan.cursor, hlt⟩
      · subst hne
        cases hslot.symm.trans hp'
        exact hle
      · obtain ⟨m, hm, hle'⟩ := hold i p' (hbehind hi hne) hp'
        exact Nat.le_trans (hmin m hm) hle'

protected theorem endScan {scan : Scan} (h : Scheduled s) (hold : s.scheduler = .scanning scan)
    (hge : ¬ scan.cursor < maxSlots) : Scheduled (s.endScan scan) := by
  obtain ⟨haccurate, hle, hcovers⟩ := h.scanning hold
  have hcursor : scan.cursor = maxSlots := Nat.le_antisymm hle (Nat.le_of_not_lt hge)
  have hpresent : s.deadlineChanged.waiter ≠ .absent := h.waits (by rw [hold]; trivial)
  unfold Manager.endScan
  split
  · refine ⟨Notify.sound_notifyOne _, fun _ => ?_, nofun, ?_⟩
    · exact fun habsent => hpresent ((Notify.waiter_notifyOne _).mp habsent)
    · rintro _ ⟨⟩
      exact ⟨haccurate, hcursor, Or.inl (Notify.issued_notifyOne _)⟩
  · refine ⟨h.sound, fun _ => hpresent, nofun, ?_⟩
    rintro _ ⟨⟩
    exact ⟨haccurate, hcursor, hcovers⟩

section

variable [DecidableEq ι] {e : Event ι}

protected theorem step (h : Scheduled s) (he : s.step e = some s') : Scheduled s' := by
  cases transition_of_step he with
  | enable =>
    refine ⟨Notify.sound_enable _, fun _ => ?_, nofun, nofun⟩
    show (if s.deadlineChanged.permit then Waiter.woken else Waiter.waiting) ≠ .absent
    split <;> decide
  | beginScan hold =>
    refine ⟨h.sound, fun _ => h.waits (by rw [hold]; trivial), ?_, nofun⟩
    rintro _ ⟨⟩
    exact ⟨Scan.accurate_start _, Nat.zero_le _, Or.inr fun _ _ hi => absurd hi (Nat.not_lt_zero _)⟩
  | visit hold => exact h.visit hold _
  | endScan hold hend => exact h.endScan hold hend
  | wake => exact ⟨Notify.sound_consume _, fun hw => absurd hw id, nofun, nofun⟩
  | sleepElapsed | stop => exact ⟨Notify.sound_cancel _, fun hw => absurd hw id, nofun, nofun⟩
  | _ => exact h.passive (passive_of_step id he)

theorem of_reachable (hs : (manager ι).Reachable s) : Scheduled s :=
  hs.invariant .new fun _ h he => h.step he

end

end Scheduled

/-! ## Who is timed out -/

def Scheduler.scan? : Scheduler → Option Scan
  | .scanning scan | .parked scan => some scan
  | _ => none

/-- What a requester is sent whose request is due. -/
def timedOutAnswer : Answer := { result := .error .timeout, source := none }

/-- The requesters the scan has timed out have been told so, and nothing else. -/
def TimeoutsSent (s : Manager ι) : Prop :=
  ∀ scan, s.scheduler.scan? = some scan → ∀ c ∈ scan.timedOut,
    ∃ r, s.registrations[c]? = some r ∧ r.answers = [timedOutAnswer]

namespace TimeoutsSent

variable {s s' : Manager ι}

theorem later {scan scan' : Scan} (h : TimeoutsSent s)
    (hregs : RegistrationsLater s.registrations s'.registrations)
    (hold : s.scheduler.scan? = some scan) (hnew : s'.scheduler.scan? = some scan')
    (hsame : scan'.timedOut = scan.timedOut) : TimeoutsSent s' := by
  intro scan₁ hscan₁ c hc
  rw [hnew] at hscan₁
  cases hscan₁
  obtain ⟨r, hr, hanswers⟩ := h scan hold c (hsame ▸ hc)
  obtain ⟨r', hr', hlater⟩ := hregs c r hr
  refine ⟨r', hr', ?_⟩
  rw [← hanswers]
  exact hlater.answers (by rw [hanswers]; exact List.cons_ne_nil _ _)

theorem none (hnew : s'.scheduler.scan? = none) : TimeoutsSent s' := by
  intro scan hscan
  rw [hnew] at hscan
  cases hscan

protected theorem visit {scan : Scan} {slot : Fin maxSlots} (h : TimeoutsSent s)
    (hcor : Correlated s) (hold : s.scheduler = .scanning scan) :
    TimeoutsSent (s.visit scan slot) := by
  have hold' : s.scheduler.scan? = some scan := by
    rw [hold]
    rfl
  unfold Manager.visit
  dsimp only
  split
  next => exact h.later .refl hold' rfl rfl
  next p hslot =>
    split
    next =>
      obtain ⟨hregs, htold⟩ := RegistrationsLater.fail hcor hslot timedOutAnswer
      rintro _ ⟨⟩ c hc
      rcases List.mem_append.mp hc with hc | hc
      · obtain ⟨r, hr, hanswers⟩ := h scan hold' c hc
        obtain ⟨r', hr', hlater⟩ := hregs c r hr
        refine ⟨r', hr', ?_⟩
        rw [← hanswers]
        exact hlater.answers (by rw [hanswers]; exact List.cons_ne_nil _ _)
      · rw [List.mem_singleton.mp hc]
        exact htold
    next => exact h.later .refl hold' rfl rfl

variable [DecidableEq ι] {e : Event ι}

protected theorem step (h : TimeoutsSent s) (hcor : Correlated s) (he : s.step e = some s') :
    TimeoutsSent s' := by
  have hregs := RegistrationsLater.of_effect hcor (effect_of_step he)
  have hpassive (hother : ¬ e.IsScheduler) : TimeoutsSent s' := by
    have hsame := (passive_of_step hother he).scheduler
    cases hscan : s.scheduler.scan? with
    | none => exact none (hsame ▸ hscan)
    | some scan => exact h.later hregs hscan (hsame ▸ hscan) rfl
  cases transition_of_step he with
  | enable | wake | sleepElapsed | stop => exact none rfl
  | beginScan =>
    rintro _ ⟨⟩ c hc
    cases hc
  | visit hold => exact h.visit hcor hold
  | endScan hold => exact h.later hregs (by rw [hold]; rfl) rfl rfl
  | _ => exact hpassive id

theorem of_reachable (hs : (manager ι).Reachable s) : TimeoutsSent s :=
  hs.invariant (none rfl) fun hs h he => h.step (.of_reachable hs) he

end TimeoutsSent

/-! ## No deadline is missed -/

/-- What is guaranteed of the scheduler. -/
structure MeetsDeadlines (s : Manager ι) : Prop where
  /-- Where it waits until `T`, it has been woken or no deadline lies before `T`; where it waits
  without a deadline, it has been woken or no request is pending. -/
  parked : ∀ {scan}, s.scheduler = .parked scan →
    (s.deadlineChanged.issued = true ∧ s.deadlineChanged.waiter = .woken) ∨
      ∀ (i : Fin maxSlots) (p : Pending), s.slots i = some p →
        ∃ T, scan.nearest = some T ∧ T ≤ p.deadline
  /-- The scan it waits behind has looked at every slot. It has timed out those requests that it
  found due, and it knows the least deadline of the others. -/
  scanned : ∀ {scan}, s.scheduler = .parked scan → scan.found.length = maxSlots ∧
    scan.timedOut = scan.due.map Pending.sender ∧
    (∀ c ∈ scan.timedOut, ∃ r, s.registrations[c]? = some r ∧ r.answers = [timedOutAnswer]) ∧
    Scan.IsNearest scan.nearest scan.later
  /-- Where it looks at a slot, it empties it exactly if it finds a request that is due. -/
  visits : ∀ {scan} (hlt : scan.cursor < maxSlots), s.scheduler = .scanning scan →
    ∃ scan', (s.visit scan ⟨scan.cursor, hlt⟩).scheduler = .scanning scan' ∧
      scan'.now = scan.now ∧ scan'.found = scan.found ++ [s.slots ⟨scan.cursor, hlt⟩] ∧
      ∀ i, (s.visit scan ⟨scan.cursor, hlt⟩).slots i ≠ s.slots i ↔
        i = ⟨scan.cursor, hlt⟩ ∧ ∃ p, s.slots i = some p ∧ p.deadline ≤ scan.now

theorem visit_spec (s : Manager ι) (scan : Scan) (slot : Fin maxSlots) :
    ∃ scan', (s.visit scan slot).scheduler = .scanning scan' ∧
      scan'.now = scan.now ∧ scan'.found = scan.found ++ [s.slots slot] ∧
      ∀ i, (s.visit scan slot).slots i ≠ s.slots i ↔
        i = slot ∧ ∃ p, s.slots i = some p ∧ p.deadline ≤ scan.now := by
  unfold Manager.visit
  dsimp only
  split
  next hslot =>
    refine ⟨_, rfl, rfl, rfl, fun i => ⟨fun h => absurd rfl h, ?_⟩⟩
    rintro ⟨rfl, p, hp, -⟩
    cases hslot.symm.trans hp
  next p hslot =>
    split
    next hdue =>
      refine ⟨_, rfl, rfl, rfl, fun i => ⟨fun h => ?_, ?_⟩⟩
      · have hi : i = slot := Decidable.not_not.mp fun hne => h (Function.update_of_ne hne ..)
        exact ⟨hi, p, hi ▸ hslot, hdue⟩
      · rintro ⟨rfl, -⟩ h
        cases (Function.update_self ..).symm.trans (h.trans hslot)
    next hlater =>
      refine ⟨_, rfl, rfl, rfl, fun i => ⟨fun h => absurd rfl h, ?_⟩⟩
      rintro ⟨rfl, p', hp', hdue⟩
      cases hslot.symm.trans hp'
      exact absurd hdue hlater

/-- No deadline is missed, whatever the other threads do. -/
theorem manager_meetsDeadlines [DecidableEq ι] {s : Manager ι} (hs : (manager ι).Reachable s) :
    MeetsDeadlines s := by
  have hsched := Scheduled.of_reachable hs
  refine ⟨?_, ?_, fun hlt _ => visit_spec s _ ⟨_, hlt⟩⟩
  · intro scan hscan
    obtain ⟨-, hcursor, hcovers⟩ := hsched.parked hscan
    rcases hcovers with hissued | hcovers
    · exact Or.inl ⟨hissued, hsched.sound (hsched.waits (by rw [hscan]; trivial)) hissued⟩
    · exact Or.inr fun i p hp => hcovers i p (Nat.lt_of_lt_of_eq i.isLt hcursor.symm) hp
  · intro scan hscan
    obtain ⟨haccurate, hcursor, -⟩ := hsched.parked hscan
    exact ⟨haccurate.cursor.trans hcursor, haccurate.timedOut,
      TimeoutsSent.of_reachable hs scan (by rw [hscan]; rfl), haccurate.nearest⟩

/-- A request due at instant 10 is registered while the scheduler has looked at half of the
slots. -/
def midScan : List (Event Nat) :=
  [.enable, .beginScan] ++ List.replicate 8 .visit ++
    [.register 0 { unitId := 1, functionCode := .readCoils } 10, .draw 0, .lockSlot 0] ++
    List.replicate 8 .visit ++ [.endScan]

theorem manager_meetsDeadlines_midScan : ∃ s, (manager Nat).run .new midScan = some s ∧
    (∃ scan, s.scheduler = .parked scan ∧ scan.nearest = none) ∧ MeetsDeadlines s := by
  have hrun : (manager Nat).run .new midScan = some _ := rfl
  exact ⟨_, hrun, ⟨_, rfl, rfl⟩, manager_meetsDeadlines (Machine.Reachable.init.run hrun)⟩

end RustyModbus.Client.Concurrent
