import Mathlib.Logic.Function.Basic
import RustyModbus.Lib.Interaction
import RustyModbus.Lib.Machine

/-!
# Programs that run side by side

Any number of tasks, each a program against one shared component. A task starts, makes its
calls one by one and hands back its result. A call is one atomic step of the component;
between two steps of a task any other task may take any number of steps.

If every program makes at most one call, what is seen of a run is what is seen when the
programs run one after the other, each in one go, in some order that keeps real time: a
task that has finished before another starts comes first (`linearizable`). The order is
that of the calls; a task without a call takes its place when it starts.
-/

namespace Interaction

variable {I : Interface} {α β ι σ : Type}

/-! ## How many calls a program makes -/

namespace Program

/-- No execution makes more than `n` calls. -/
def CallsAtMost : Nat → Program I α → Prop
  | _, done _ => True
  | 0, call _ _ => False
  | n + 1, call _ k => ∀ r, (k r).CallsAtMost n

theorem callsAtMost_done (n : Nat) (a : α) : (done a : Program I α).CallsAtMost n := by
  cases n <;> trivial

theorem CallsAtMost.mono {m n : Nat} {p : Program I α} (h : p.CallsAtMost m) (hmn : m ≤ n) :
    p.CallsAtMost n := by
  induction p generalizing m n with
  | done a => exact callsAtMost_done n a
  | call c k ih =>
    cases m with
    | zero => cases h
    | succ m =>
      cases n with
      | zero => cases hmn
      | succ n => exact fun r => ih r (h r) (Nat.le_of_succ_le_succ hmn)

theorem CallsAtMost.bind {m n : Nat} {p : Program I α} {f : α → Program I β}
    (hp : p.CallsAtMost m) (hf : ∀ a, (f a).CallsAtMost n) : (p >>= f).CallsAtMost (m + n) := by
  induction p generalizing m with
  | done a => exact (hf a).mono (Nat.le_add_left n m)
  | call c k ih =>
    cases m with
    | zero => cases hp
    | succ m =>
      rw [Nat.succ_add]
      exact fun r => ih r (hp r)

theorem CallsAtMost.exists_done {p : Program I α} (h : p.CallsAtMost 0) : ∃ a, p = done a := by
  cases p with
  | done a => exact ⟨a, rfl⟩
  | call c k => cases h

end Program

/-! ## Tasks -/

inductive Task (I : Interface) (α : Type)
  | waiting
  | running (p : Program I α)
  | finished (a : α)

/-- A shared component in its state, and all tasks. -/
structure World (I : Interface) (α ι σ : Type) where
  state : σ
  tasks : ι → Task I α

/-- What can happen next. -/
inductive Turn (ι : Type)
  | start (i : ι)
  | call (i : ι)
  | finish (i : ι)
deriving DecidableEq, Repr

variable [DecidableEq ι]

def World.put (w : World I α ι σ) (i : ι) (t : Task I α) : World I α ι σ :=
  { w with tasks := Function.update w.tasks i t }

def World.turn (serve : Component I σ) (programs : ι → Program I α) (w : World I α ι σ) :
    Turn ι → Option (World I α ι σ)
  | .start i =>
    match w.tasks i with
    | .waiting => some (w.put i (.running (programs i)))
    | _ => none
  | .call i =>
    match w.tasks i with
    | .running (.call c k) =>
      let (reply, state) := serve c w.state
      some ({ w with state }.put i (.running (k reply)))
    | _ => none
  | .finish i =>
    match w.tasks i with
    | .running (.done a) => some (w.put i (.finished a))
    | _ => none

def concurrent (serve : Component I σ) (programs : ι → Program I α) (s : σ) :
    RustyModbus.Machine (World I α ι σ) (Turn ι) where
  init := { state := s, tasks := fun _ => .waiting }
  step := World.turn serve programs

/-! ## One after the other -/

/-- The programs of `order` one after the other, with their results. -/
def inSequence (serve : Component I σ) (programs : ι → Program I α) (order : List ι) (s : σ) :
    List α × σ :=
  runAll (fun i s => (programs i).run serve s) order s

/-- The order explains the run. -/
structure Linearization (serve : Component I σ) (programs : ι → Program I α) (s : σ)
    (turns : List (Turn ι)) (w : World I α ι σ) (order : List ι) : Prop where
  /-- No task comes twice. -/
  nodup : order.Nodup
  /-- Every task that has finished is there; one that is still running may be. -/
  finished : ∀ {i a}, w.tasks i = .finished a → i ∈ order
  started : ∀ i ∈ order, Turn.start i ∈ turns
  /-- A task that finished before another started comes before it. -/
  realTime : ∀ {i j}, [Turn.finish i, Turn.start j].Sublist turns → j ∈ order →
    [i, j].Sublist order
  /-- Run in this order, the programs leave the state the run has left. -/
  state : (inSequence serve programs order s).2 = w.state
  /-- And every task that has finished has the result it has there. -/
  results : ∀ {i a}, w.tasks i = .finished a →
    (i, a) ∈ order.zip (inSequence serve programs order s).1

section Proof

variable {serve : Component I σ} {programs : ι → Program I α} {s : σ} {turns : List (Turn ι)}
  {w w' : World I α ι σ} {order : List ι} {i j : ι} {a : α}

theorem World.tasks_put (w : World I α ι σ) (i : ι) (t : Task I α) :
    (w.put i t).tasks i = t := Function.update_self ..

theorem World.tasks_put_ne {w : World I α ι σ} {i j : ι} (h : j ≠ i) (t : Task I α) :
    (w.put i t).tasks j = w.tasks j := Function.update_of_ne h ..

/-- Two elements of a list that has grown by one at the end. -/
theorem pair_sublist_concat {τ : Type} {a b c : τ} {l : List τ}
    (h : [a, b].Sublist (l ++ [c])) : [a, b].Sublist l ∨ b = c ∧ a ∈ l := by
  induction l with
  | nil => exact absurd h.length_le (by simp)
  | cons x l ih =>
    cases h with
    | cons _ h =>
      rcases ih h with hl | ⟨hbc, ha⟩
      · exact .inl (hl.cons x)
      · exact .inr ⟨hbc, List.mem_cons_of_mem x ha⟩
    | cons_cons _ h =>
      rcases List.mem_append.mp (List.singleton_sublist.mp h) with hb | hb
      · exact .inl ((List.singleton_sublist.mpr hb).cons_cons a)
      · exact .inr ⟨List.mem_singleton.mp hb, List.mem_cons_self⟩

theorem pair_sublist_concat_of_mem {τ : Type} {a b : τ} {l : List τ} (h : a ∈ l) :
    [a, b].Sublist (l ++ [b]) :=
  (List.singleton_sublist.mpr h).append (List.Sublist.refl [b])

/-- The task has passed the point at which it takes its place in the order: only its result
is still to be handed back, or not even that. -/
def Task.Passed (t : Task I α) (a : α) : Prop := t = .running (.done a) ∨ t = .finished a

/-- What holds along every run. -/
structure Explains (serve : Component I σ) (programs : ι → Program I α) (s : σ)
    (turns : List (Turn ι)) (w : World I α ι σ) (order : List ι) : Prop where
  nodup : order.Nodup
  passed : ∀ {i}, i ∈ order ↔ ∃ a, (w.tasks i).Passed a
  results : ∀ {i a}, (w.tasks i).Passed a → (i, a) ∈ order.zip (inSequence serve programs order s).1
  state : (inSequence serve programs order s).2 = w.state
  /-- A task still in front of its call has not moved. -/
  running : ∀ {i p}, w.tasks i = .running p → p = programs i ∨ ∃ a, p = .done a
  waiting : ∀ {i}, w.tasks i = .waiting ↔ Turn.start i ∉ turns
  finished : ∀ {i}, Turn.finish i ∈ turns → i ∈ order
  realTime : ∀ {i j}, [Turn.finish i, Turn.start j].Sublist turns → j ∈ order →
    [i, j].Sublist order

omit [DecidableEq ι] in
theorem explains_init : Explains serve programs s [] { state := s, tasks := fun _ => .waiting } [] where
  nodup := List.nodup_nil
  passed := by
    intro i
    simp [Task.Passed]
  results := by
    intro i a h
    simp [Task.Passed] at h
  state := rfl
  running := by
    intro i p h
    cases h
  waiting := by simp
  finished := by
    intro i h
    cases h
  realTime := by
    intro i j h
    cases h

theorem Task.Passed.inj {a b : α} (h : (Task.running (.done a) : Task I α).Passed b) : b = a := by
  rcases h with h | h
  · cases h
    rfl
  · cases h

omit [DecidableEq ι] in
theorem inSequence_concat (order : List ι) (i : ι) (s : σ) :
    inSequence serve programs (order ++ [i]) s =
      ((inSequence serve programs order s).1 ++
          [((programs i).run serve (inSequence serve programs order s).2).1],
        ((programs i).run serve (inSequence serve programs order s).2).2) :=
  runAll_concat _ order i s

/-- A task takes its place at the end of the order: its whole program runs now. -/
theorem Explains.append (h : Explains serve programs s turns w order) {t : Turn ι}
    (ht : t = .start i ∨ t = .call i ∧ Turn.start i ∈ turns) (hnew : i ∉ order)
    (hrun : (programs i).run serve w.state = (a, w'.state))
    (htasks : w'.tasks = Function.update w.tasks i (.running (.done a))) :
    Explains serve programs s (turns ++ [t]) w' (order ++ [i]) := by
  have hself : w'.tasks i = .running (.done a) := by rw [htasks, Function.update_self]
  have hother {j : ι} (hj : j ≠ i) : w'.tasks j = w.tasks j := by
    rw [htasks, Function.update_of_ne hj]
  have hfinish {j : ι} (hj : Turn.finish j ∈ turns ++ [t]) : Turn.finish j ∈ turns := by
    rcases List.mem_append.mp hj with hj | hj
    · exact hj
    · rcases ht with rfl | ⟨rfl, -⟩ <;> cases List.mem_singleton.mp hj
  have hseq : inSequence serve programs (order ++ [i]) s
      = ((inSequence serve programs order s).1 ++ [a], w'.state) := by
    rw [inSequence_concat, h.state, hrun]
  have hzip : (order ++ [i]).zip (inSequence serve programs (order ++ [i]) s).1
      = order.zip (inSequence serve programs order s).1 ++ [(i, a)] := by
    have hlen : order.length = (inSequence serve programs order s).1.length :=
      (length_runAll _ order s).symm
    rw [hseq, List.zip_append hlen]
    rfl
  refine ⟨?_, ?_, ?_, by rw [hseq], ?_, ?_, ?_, ?_⟩
  · exact List.nodup_append.mpr ⟨h.nodup, List.nodup_cons.mpr ⟨List.not_mem_nil, List.nodup_nil⟩, by
      rintro j hj _ hi rfl
      exact hnew (List.mem_singleton.mp hi ▸ hj)⟩
  · intro j
    by_cases hj : j = i
    · subst hj
      rw [hself]
      exact iff_of_true (List.mem_append_right _ List.mem_cons_self) ⟨a, .inl rfl⟩
    · rw [hother hj, ← h.passed, List.mem_append, List.mem_singleton]
      exact or_iff_left hj
  · intro j b hb
    rw [hzip]
    by_cases hj : j = i
    · subst hj
      rw [hself] at hb
      obtain rfl := hb.inj
      exact List.mem_append_right _ List.mem_cons_self
    · rw [hother hj] at hb
      exact List.mem_append_left _ (h.results hb)
  · intro j p hp
    by_cases hj : j = i
    · subst hj
      rw [hself] at hp
      cases hp
      exact .inr ⟨a, rfl⟩
    · rw [hother hj] at hp
      exact h.running hp
  · intro j
    rw [List.mem_append, List.mem_singleton]
    by_cases hj : j = i
    · subst hj
      rw [hself]
      refine iff_of_false (fun hw => by cases hw) (fun hstart => hstart ?_)
      rcases ht with rfl | ⟨-, hstarted⟩
      · exact .inr rfl
      · exact .inl hstarted
    · rw [hother hj, h.waiting, not_or]
      refine (and_iff_left fun hjt => ?_).symm
      rcases ht with rfl | ⟨rfl, -⟩
      · cases hjt
        exact hj rfl
      · cases hjt
  · intro j hj
    exact List.mem_append_left _ (h.finished (hfinish hj))
  · intro x y hxy hy
    have hx : Turn.finish x ∈ turns := by
      exact hfinish (hxy.subset List.mem_cons_self)
    rcases List.mem_append.mp hy with hy | hy
    · rcases pair_sublist_concat hxy with hold | ⟨hty, -⟩
      · exact (h.realTime hold hy).trans (List.sublist_append_left order [i])
      · rcases ht with rfl | ⟨rfl, -⟩
        · cases hty
          exact absurd hy hnew
        · cases hty
    · obtain rfl := List.mem_singleton.mp hy
      exact pair_sublist_concat_of_mem (h.finished hx)

/-- A turn at which no task takes its place. -/
theorem Explains.keep (h : Explains serve programs s turns w order) {t : Turn ι} {u : Task I α}
    (hw : w' = w.put i u) (hpassed : ∀ a, u.Passed a ↔ (w.tasks i).Passed a)
    (hrunning : ∀ p, u = .running p → p = programs i) (hstarted : u ≠ .waiting)
    (ht : t = .start i ∧ i ∉ order ∨ t = .finish i ∧ i ∈ order ∧ Turn.start i ∈ turns) :
    Explains serve programs s (turns ++ [t]) w' order := by
  have hself : w'.tasks i = u := by rw [hw, World.tasks_put]
  have hother {j : ι} (hj : j ≠ i) : w'.tasks j = w.tasks j := by rw [hw, World.tasks_put_ne hj]
  have hsame (j : ι) (b : α) : (w'.tasks j).Passed b ↔ (w.tasks j).Passed b := by
    by_cases hj : j = i
    · subst hj
      rw [hself, hpassed]
    · rw [hother hj]
  refine ⟨h.nodup, ?_, ?_, ?_, ?_, ?_, ?_, ?_⟩
  · intro j
    simp only [hsame]
    exact h.passed
  · intro j b hb
    exact h.results ((hsame j b).mp hb)
  · rw [h.state, hw]
    rfl
  · intro j p hp
    by_cases hj : j = i
    · subst hj
      rw [hself] at hp
      exact .inl (hrunning p hp)
    · rw [hother hj] at hp
      exact h.running hp
  · intro j
    rw [List.mem_append, List.mem_singleton]
    by_cases hj : j = i
    · subst hj
      rw [hself]
      refine iff_of_false hstarted (fun hstart => hstart ?_)
      rcases ht with ⟨rfl, -⟩ | ⟨-, -, hmem⟩
      · exact .inr rfl
      · exact .inl hmem
    · rw [hother hj, h.waiting, not_or]
      refine (and_iff_left fun hjt => ?_).symm
      rcases ht with ⟨rfl, -⟩ | ⟨rfl, -⟩
      · cases hjt
        exact hj rfl
      · cases hjt
  · intro j hj
    rcases List.mem_append.mp hj with hj | hj
    · exact h.finished hj
    · rcases ht with ⟨rfl, -⟩ | ⟨rfl, hmem, -⟩
      · cases List.mem_singleton.mp hj
      · cases List.mem_singleton.mp hj
        exact hmem
  · intro x y hxy hy
    rcases pair_sublist_concat hxy with hold | ⟨hty, -⟩
    · exact h.realTime hold hy
    · rcases ht with ⟨rfl, hnew⟩ | ⟨rfl, -⟩
      · cases hty
        exact absurd hy hnew
      · cases hty

theorem Explains.turn (hone : ∀ i, (programs i).CallsAtMost 1)
    (h : Explains serve programs s turns w order) {t : Turn ι}
    (ht : w.turn serve programs t = some w') :
    ∃ order', Explains serve programs s (turns ++ [t]) w' order' := by
  cases t with
  | start i =>
    rw [World.turn] at ht
    split at ht
    next hwait =>
      cases ht
      have hnew : i ∉ order := by
        rw [h.passed, hwait]
        rintro ⟨a, hp | hp⟩ <;> cases hp
      cases hprogram : programs i with
      | done a =>
        refine ⟨order ++ [i], h.append (.inl rfl) hnew ?_ rfl⟩
        rw [hprogram]
        rfl
      | call c k =>
        refine ⟨order, h.keep rfl ?_ ?_ ?_ (.inl ⟨rfl, hnew⟩)⟩
        · intro a
          rw [hwait]
          constructor <;> rintro (hp | hp) <;> cases hp
        · intro p hp
          cases hp
          exact hprogram.symm
        · intro hw
          cases hw
    next => cases ht
  | call i =>
    rw [World.turn] at ht
    split at ht
    next c k hrun =>
      have hprogram : programs i = .call c k := by
        rcases h.running hrun with heq | ⟨a, ha⟩
        · exact heq.symm
        · cases ha
      have hcalls : (Program.call c k : Program I α).CallsAtMost 1 := hprogram ▸ hone i
      obtain ⟨a, ha⟩ := (hcalls (serve c w.state).1).exists_done
      have hnew : i ∉ order := by
        rw [h.passed, hrun]
        rintro ⟨b, hp | hp⟩ <;> cases hp
      have hstarted : Turn.start i ∈ turns := by
        refine Decidable.byContradiction fun hnot => ?_
        have hwait := h.waiting.mpr hnot
        rw [hrun] at hwait
        cases hwait
      cases ht
      refine ⟨order ++ [i], h.append (.inr ⟨rfl, hstarted⟩) hnew ?_ (by rw [ha]; rfl)⟩
      rw [hprogram]
      show (k (serve c w.state).1).run serve (serve c w.state).2 = _
      rw [ha]
      rfl
    next => cases ht
  | finish i =>
    rw [World.turn] at ht
    split at ht
    next a hrun =>
      cases ht
      have hmem : i ∈ order := h.passed.mpr ⟨a, hrun ▸ .inl rfl⟩
      have hstarted : Turn.start i ∈ turns := by
        refine Decidable.byContradiction fun hnot => ?_
        have hwait := h.waiting.mpr hnot
        rw [hrun] at hwait
        cases hwait
      refine ⟨order, h.keep rfl ?_ ?_ ?_ (.inr ⟨rfl, hmem, hstarted⟩)⟩
      · intro b
        rw [hrun]
        constructor
        · rintro (hp | hp)
          · cases hp
          · cases hp
            exact .inl rfl
        · intro hp
          obtain rfl := hp.inj
          exact .inr rfl
      · intro p hp
        cases hp
      · intro hw
        cases hw
    next => cases ht

/-- Tasks that make at most one call each might as well have run one after the other. -/
theorem linearizable (hone : ∀ i, (programs i).CallsAtMost 1)
    (hrun : (concurrent serve programs s).run (concurrent serve programs s).init turns = some w) :
    ∃ order, Linearization serve programs s turns w order := by
  have hexplains := RustyModbus.Machine.run_history
    (P := fun turns w => ∃ order, Explains serve programs s turns w order)
    ⟨[], explains_init⟩ (fun hw ht => by
      obtain ⟨order, horder⟩ := hw
      exact horder.turn hone ht) hrun
  obtain ⟨order, h⟩ := hexplains
  refine ⟨order, h.nodup, fun hi => h.passed.mpr ⟨_, .inr hi⟩, fun i hi => ?_, h.realTime, h.state,
    fun hi => h.results (.inr hi)⟩
  obtain ⟨a, ha⟩ := h.passed.mp hi
  refine Decidable.byContradiction fun hnot => ?_
  rw [h.waiting.mpr hnot] at ha
  rcases ha with ha | ha <;> cases ha

end Proof

end Interaction
