/-!
# Calls that can be erased

A component answers each call with a result and its next state. `view` is what counts of a state.
If results depend on the view only, and the calls with certain results leave the view alone, then
such calls can be erased from a sequence: the other calls get the same results, and the view at
the end is the same.
-/

namespace Erasure

variable {σ ε ρ τ : Type}

/-- The calls with their results. -/
def trace (step : σ → ε → ρ × σ) : σ → List ε → List (ε × ρ)
  | _, [] => []
  | s, e :: es => (e, (step s e).1) :: trace step (step s e).2 es

def final (step : σ → ε → ρ × σ) : σ → List ε → σ
  | s, [] => s
  | s, e :: es => final step (step s e).2 es

/-- The view of a state decides the result of a call and the view afterwards. -/
def Determines (step : σ → ε → ρ × σ) (view : σ → τ) : Prop :=
  ∀ s s' e, view s = view s' →
    (step s e).1 = (step s' e).1 ∧ view (step s e).2 = view (step s' e).2

variable {step : σ → ε → ρ × σ} {view : σ → τ} {idle : ρ → Bool} {I : σ → Prop}

/-- Some of the idle calls are erased: `kept` is what is left of the trace. -/
theorem trace_kept (hview : Determines step view) (hkeeps : ∀ s e, I s → I (step s e).2)
    (hidle : ∀ s e, I s → idle (step s e).1 = true → view (step s e).2 = view s)
    {es : List ε} {s s' : σ} (hs : I s) (hsame : view s = view s') {kept : List (ε × ρ)}
    (hsub : kept.Sublist (trace step s es))
    (hkept : kept.filter (!idle ·.2) = (trace step s es).filter (!idle ·.2)) :
    trace step s' (kept.map Prod.fst) = kept ∧
      view (final step s' (kept.map Prod.fst)) = view (final step s es) := by
  induction es generalizing s s' kept with
  | nil =>
    obtain rfl : kept = [] := List.sublist_nil.mp hsub
    exact ⟨rfl, hsame.symm⟩
  | cons e es ih =>
    rw [trace, List.filter_cons] at hkept
    cases hsub with
    | cons _ hsub =>
      by_cases hr : idle (step s e).1 = true
      · -- the first call is erased
        rw [hr] at hkept
        exact ih (hkeeps s e hs) ((hidle s e hs hr).trans hsame) hsub hkept
      · -- it is not idle, so it cannot be missing
        have hr : idle (step s e).1 = false := eq_false_of_ne_true hr
        have hlen := (hsub.filter (!idle ·.2)).length_le
        rw [hkept, hr] at hlen
        exact absurd hlen (Nat.not_succ_le_self _)
    | @cons_cons kept _ _ hsub =>
      obtain ⟨hresult, hnext⟩ := hview s s' e hsame
      have htail : kept.filter (!idle ·.2)
          = (trace step (step s e).2 es).filter (!idle ·.2) := by
        rw [List.filter_cons] at hkept
        cases hr : idle (step s e).1 <;> simpa [hr] using hkept
      obtain ⟨htrace, hfinal⟩ := ih (hkeeps s e hs) hnext hsub htail
      refine ⟨?_, hfinal⟩
      rw [List.map_cons, trace, htrace, hresult]

end Erasure
