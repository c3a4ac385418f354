/-!
# Machines

A component several threads work on, as a state and the atomic steps they take. `step` is a
function of the state and the event, so a run can be computed; what holds along every
interleaving is proved through `Reachable`, which leaves open which event comes next.

`Embeds` relates a machine to a component of it. A step of the whole is a step of the component
or leaves it alone, so what the component reaches within the whole it reaches on its own, and
the component's invariants carry over.
-/

namespace RustyModbus

structure Machine (σ ε : Type) where
  init : σ
  step : σ → ε → Option σ

namespace Machine

variable {σ τ ε δ : Type} {M : Machine σ ε} {N : Machine τ δ}

/-- The state behind a sequence of events, if each of them can happen. -/
def run (M : Machine σ ε) (s : σ) : List ε → Option σ
  | [] => some s
  | e :: es => (M.step s e).bind fun s' => M.run s' es

inductive Reachable (M : Machine σ ε) : σ → Prop
  | init : M.Reachable M.init
  | step {s s' : σ} {e : ε} : M.Reachable s → M.step s e = some s' → M.Reachable s'

/-- What holds at the start and is kept by every step holds in every reachable state. A step may
use what is already known of reachable states. -/
theorem Reachable.invariant {P : σ → Prop} (hinit : P M.init)
    (hstep : ∀ {s e s'}, M.Reachable s → P s → M.step s e = some s' → P s') {s : σ}
    (hs : M.Reachable s) : P s := by
  induction hs with
  | init => exact hinit
  | step hs he ih => exact hstep hs ih he

@[simp] theorem run_nil (s : σ) : M.run s [] = some s := rfl

theorem run_cons (s : σ) (e : ε) (es : List ε) :
    M.run s (e :: es) = (M.step s e).bind fun s' => M.run s' es :=
  rfl

variable {es : List ε}

theorem run_step {s s' u : σ} {e : ε} (he : M.step s e = some s') (h : M.run s' es = some u) :
    M.run s (e :: es) = some u := by
  rw [run_cons, he]
  exact h

theorem run_append {s s' : σ} (h : M.run s es = some s') (fs : List ε) :
    M.run s (es ++ fs) = M.run s' fs := by
  induction es generalizing s with
  | nil => exact congrArg (M.run · fs) (Option.some.inj h)
  | cons e es ih =>
    obtain ⟨t, ht, hrun⟩ := Option.bind_eq_some_iff.mp h
    rw [List.cons_append, run_cons, ht]
    exact ih hrun

/-- What every step keeps is kept along a run. -/
theorem run_keeps {P : σ → Prop} (hstep : ∀ {s e s'}, P s → M.step s e = some s' → P s') {s s' : σ}
    (hs : P s) (h : M.run s es = some s') : P s' := by
  induction es generalizing s with
  | nil => exact Option.some.inj h ▸ hs
  | cons e es ih =>
    obtain ⟨t, ht, hrun⟩ := Option.bind_eq_some_iff.mp h
    exact ih (hstep hs ht) hrun

theorem Reachable.run {s s' : σ} (hs : M.Reachable s) (h : M.run s es = some s') :
    M.Reachable s' := run_keeps Reachable.step hs h

/-- The steps of a run from a reachable state are steps from reachable states. -/
theorem Reachable.run_keeps {P : σ → Prop} {s s' : σ} (hs : M.Reachable s)
    (hstep : ∀ {s e s'}, M.Reachable s → P s → M.step s e = some s' → P s') (h : P s)
    (hrun : M.run s es = some s') : P s' :=
  (Machine.run_keeps (P := fun s => M.Reachable s ∧ P s)
    (fun h he => ⟨h.1.step he, hstep h.1 h.2 he⟩) ⟨hs, h⟩ hrun).2

/-- The same for what is said about the events so far and the state behind them. -/
theorem run_history {P : List ε → σ → Prop} {s : σ} (hinit : P [] s)
    (hstep : ∀ {es s e s'}, P es s → M.step s e = some s' → P (es ++ [e]) s') {u : σ}
    (h : M.run s es = some u) : P es u := by
  have hfrom : ∀ (es past : List ε) (s : σ), P past s → M.run s es = some u → P (past ++ es) u := by
    intro es
    induction es with
    | nil =>
      intro past s hs h
      rw [List.append_nil]
      exact Option.some.inj h ▸ hs
    | cons e es ih =>
      intro past s hs h
      obtain ⟨t, ht, hrun⟩ := Option.bind_eq_some_iff.mp h
      rw [List.append_cons]
      exact ih (past ++ [e]) t (hstep hs ht) hrun
  exact hfrom es [] s hinit h

/-! ## Components -/

/-- `M` contains `N`: the part `proj` of its states moves only by steps of `N`. -/
structure Embeds (M : Machine σ ε) (N : Machine τ δ) (proj : σ → τ) : Prop where
  init : proj M.init = N.init
  step : ∀ {s e s'}, M.step s e = some s' →
    proj s' = proj s ∨ ∃ d, N.step (proj s) d = some (proj s')

theorem Embeds.reachable {proj : σ → τ} (h : M.Embeds N proj) {s : σ} (hs : M.Reachable s) :
    N.Reachable (proj s) := by
  induction hs with
  | init => exact h.init ▸ Reachable.init
  | step _ he ih =>
    rcases h.step he with hsame | ⟨d, hd⟩
    · exact hsame ▸ ih
    · exact ih.step hd

end Machine

end RustyModbus
