/-!
# Programs that call a component

A program that works against an unknown component is a tree: it ends with a result, or it
makes a call and goes on with whatever the component replies. `run` executes it against a
component with a state. A property of all executions against all components is a property
of the tree, stated without naming any component: `Always` (of every result) and, for
programs that can fail, `Returns` (of every result that is not a failure). Where the result has to
be compared with what the component replied, `Ensures` and `Explains` carry along the calls made so
far.

Two properties of a failing program are about one component: `ReadOnly`, it leaves the
state alone, and `Atomic`, it leaves the state alone if it fails. A program with one
changing call at its end is atomic if that call is; this is the rule `Atomic.bind`.

The last section is about a machine that is fed one input after the other: if each of its
steps does what a specification does, so does every run (`Simulates.runAll`).
-/

namespace Interaction

/-- The calls of a component and, for each call, what it can reply. -/
structure Interface where
  Call : Type
  Reply : Call → Type

inductive Program (I : Interface) (α : Type) : Type
  | done (a : α)
  | call (c : I.Call) (k : I.Reply c → Program I α)

/-- A component with a state: how it serves each call. -/
abbrev Component (I : Interface) (σ : Type) := (c : I.Call) → σ → I.Reply c × σ

variable {I : Interface} {α β ε σ : Type}

namespace Program

def bind (p : Program I α) (f : α → Program I β) : Program I β :=
  match p with
  | done a => f a
  | call c k => call c fun r => (k r).bind f

instance : Monad (Program I) where
  pure := done
  bind := bind

/-- One call, whose reply is the result. -/
def perform (c : I.Call) : Program I (I.Reply c) := call c done

def run (serve : Component I σ) : Program I α → σ → α × σ
  | done a, s => (a, s)
  | call c k, s => (k (serve c s).1).run serve (serve c s).2

theorem run_bind (serve : Component I σ) (p : Program I α) (f : α → Program I β) (s : σ) :
    (p >>= f).run serve s = (f (p.run serve s).1).run serve (p.run serve s).2 := by
  induction p generalizing s with
  | done a => rfl
  | call c k ih => exact ih _ _

/-- Every result satisfies `P`, whatever the component replies. -/
def Always (P : α → Prop) : Program I α → Prop
  | done a => P a
  | call _ k => ∀ r, (k r).Always P

variable {p : Program I α}

theorem always_bind {P : β → Prop} {f : α → Program I β} :
    (p >>= f).Always P ↔ p.Always fun a => (f a).Always P := by
  induction p with
  | done a => rfl
  | call c k ih => exact forall_congr' ih

theorem Always.mono {P Q : α → Prop} (hPQ : ∀ a, P a → Q a) (h : p.Always P) : p.Always Q := by
  induction p with
  | done a => exact hPQ a h
  | call c k ih => exact fun r => ih r (h r)

/-- A property of all results holds of the result of every execution. -/
theorem Always.run {P : α → Prop} (h : p.Always P) (serve : Component I σ) (s : σ) :
    P (p.run serve s).1 := by
  induction p generalizing s with
  | done a => exact h
  | call c k ih => exact ih _ (h _) _

/-- The calls of an execution, each with its reply. -/
def trace (serve : Component I σ) : Program I α → σ → List (Sigma I.Reply)
  | done _, _ => []
  | call c k, s => ⟨c, (serve c s).1⟩ :: (k (serve c s).1).trace serve (serve c s).2

theorem trace_bind (serve : Component I σ) (p : Program I α) (f : α → Program I β) (s : σ) :
    (p >>= f).trace serve s
      = p.trace serve s ++ (f (p.run serve s).1).trace serve (p.run serve s).2 := by
  induction p generalizing s with
  | done a => rfl
  | call c k ih => exact congrArg _ (ih _ _)

/-- Every result satisfies `Q` together with the calls made until then, if those in `past` have
been made before. -/
def Ensures (Q : List (Sigma I.Reply) → α → Prop) : Program I α → List (Sigma I.Reply) → Prop
  | done a, past => Q past a
  | call c k, past => ∀ r, (k r).Ensures Q (past ++ [⟨c, r⟩])

variable {past : List (Sigma I.Reply)}

theorem ensures_bind {Q : List (Sigma I.Reply) → β → Prop} {f : α → Program I β} :
    (p >>= f).Ensures Q past ↔ p.Ensures (fun past a => (f a).Ensures Q past) past := by
  induction p generalizing past with
  | done a => rfl
  | call c k ih => exact forall_congr' fun r => ih r

theorem Ensures.mono {P Q : List (Sigma I.Reply) → α → Prop} (hPQ : ∀ past a, P past a → Q past a)
    (h : p.Ensures P past) : p.Ensures Q past := by
  induction p generalizing past with
  | done a => exact hPQ past a h
  | call c k ih => exact fun r => ih r (h r)

theorem Ensures.run {Q : List (Sigma I.Reply) → α → Prop} (h : p.Ensures Q past)
    (serve : Component I σ) (s : σ) :
    Q (past ++ p.trace serve s) (p.run serve s).1 := by
  induction p generalizing past s with
  | done a =>
    rw [trace, List.append_nil]
    exact h
  | call c k ih =>
    rw [trace, List.append_cons]
    exact ih _ (h _) _

variable {J : Interface}

/-- A program in which each call is carried out by a program over other calls. -/
def interpret (h : (c : I.Call) → Program J (I.Reply c)) : Program I α → Program J α
  | done a => done a
  | call c k => (h c).bind fun r => (k r).interpret h

/-- Interpreting a program is running it on a component made of the parts. -/
theorem run_interpret (serve : Component J σ) (h : (c : I.Call) → Program J (I.Reply c))
    (p : Program I α) (s : σ) :
    (p.interpret h).run serve s = p.run (fun c s => (h c).run serve s) s := by
  induction p generalizing s with
  | done a => rfl
  | call c k ih => exact (run_bind serve (h c) _ s).trans (ih _ _)

end Program

/-! ## Programs that can fail -/

/-- A program that ends early, with an error, or with a result. -/
abbrev Fallible (I : Interface) (ε α : Type) := ExceptT ε (Program I) α

namespace Fallible

/-- An error of a computation that makes no calls ends the program. -/
def ofExcept (x : Except ε α) : Fallible I ε α := ExceptT.mk (pure x)

/-- Every result satisfies `P`, unless the program fails. -/
def Returns (P : α → Prop) (h : Fallible I ε α) : Prop :=
  h.run.Always fun r => ∀ a, r = .ok a → P a

variable {P : α → Prop}

theorem Returns.pure {a : α} (ha : P a) : Returns P (Pure.pure a : Fallible I ε α) := by
  intro b hb
  cases hb
  exact ha

theorem Returns.ofExcept {x : Except ε α} (h : ∀ a, x = .ok a → P a) :
    Returns P (Fallible.ofExcept x : Fallible I ε α) := h

variable {x : Fallible I ε α} {f : α → Fallible I ε β}

theorem Returns.bind {P : β → Prop} {Q : α → Prop} (hx : Returns Q x)
    (hf : ∀ a, Q a → Returns P (f a)) :
    Returns P (x >>= f) := by
  refine Program.always_bind.mpr (hx.mono fun r hr => ?_)
  cases r with
  | ok a => exact hf a (hr a rfl)
  | error e => exact nofun

theorem Returns.trivial (h : Fallible I ε α) : Returns (fun _ => True) h := by
  rw [Returns]
  induction h.run with
  | done r => exact fun _ _ => True.intro
  | call c k ih => exact ih

/-- Nothing is used of what the first part returns. -/
theorem Returns.skip {P : β → Prop} (hf : ∀ a, Returns P (f a)) : Returns P (x >>= f) :=
  .bind (.trivial x) fun a _ => hf a

/-- Every failure is one that `R` allows after the calls made until then, and every result
satisfies `Q` with them. -/
def Explains (R : List (Sigma I.Reply) → ε → Prop) (Q : List (Sigma I.Reply) → α → Prop)
    (h : Fallible I ε α) (past : List (Sigma I.Reply)) : Prop :=
  h.run.Ensures (fun past r => (∀ e, r = .error e → R past e) ∧ ∀ a, r = .ok a → Q past a) past

section

variable {R : List (Sigma I.Reply) → ε → Prop} {past : List (Sigma I.Reply)}

theorem Explains.pure {Q : List (Sigma I.Reply) → α → Prop} {a : α} (h : Q past a) :
    Explains R Q (Pure.pure a : Fallible I ε α) past := by
  refine ⟨nofun, fun a' ha => ?_⟩
  cases ha
  exact h

theorem Explains.ofExcept {Q : List (Sigma I.Reply) → α → Prop} {x : Except ε α}
    (herr : ∀ e, x = .error e → R past e) (hok : ∀ a, x = .ok a → Q past a) :
    Explains R Q (ofExcept x : Fallible I ε α) past := ⟨herr, hok⟩

theorem Explains.mono {P Q : List (Sigma I.Reply) → α → Prop} {x : Fallible I ε α}
    (h : Explains R P x past) (hPQ : ∀ past a, P past a → Q past a) : Explains R Q x past :=
  Program.Ensures.mono (fun past _ hr => ⟨hr.1, fun a ha => hPQ past a (hr.2 a ha)⟩) h

theorem Explains.bind {P : List (Sigma I.Reply) → α → Prop} {Q : List (Sigma I.Reply) → β → Prop}
    {x : Fallible I ε α} {f : α → Fallible I ε β} (hx : Explains R P x past)
    (hf : ∀ past a, P past a → Explains R Q (f a) past) : Explains R Q (x >>= f) past := by
  refine Program.ensures_bind.mpr (Program.Ensures.mono (fun past r h => ?_) hx)
  cases r with
  | ok a => exact hf past a (h.2 a rfl)
  | error e => exact ⟨fun e' he' => by cases he'; exact h.1 e rfl, nofun⟩

end

theorem run_ofExcept (serve : Component I σ) (x : Except ε α) (s : σ) :
    (ofExcept x : Fallible I ε α).run.run serve s = (x, s) := rfl

/-- How a sequence runs: the second part follows if the first did not fail. -/
theorem run_bind (serve : Component I σ) (x : Fallible I ε α) (f : α → Fallible I ε β) (s : σ) :
    (x >>= f).run.run serve s =
      match x.run.run serve s with
      | (.ok a, s') => (f a).run.run serve s'
      | (.error e, s') => (.error e, s') := by
  show (x.run >>= ExceptT.bindCont f).run serve s = _
  rw [Program.run_bind]
  cases hx : x.run.run serve s with
  | mk r s' => cases r <;> rfl

theorem trace_bind (serve : Component I σ) (x : Fallible I ε α) (f : α → Fallible I ε β) (s : σ) :
    (x >>= f).run.trace serve s = x.run.trace serve s ++ match x.run.run serve s with
      | (.ok a, s') => (f a).run.trace serve s'
      | (.error _, _) => [] := by
  refine (Program.trace_bind serve x.run (ExceptT.bindCont f) s).trans (congrArg _ ?_)
  cases x.run.run serve s with
  | mk r s' => cases r <;> rfl

variable {serve : Component I σ}

/-- The program leaves the component's state alone. -/
def ReadOnly (serve : Component I σ) (h : Fallible I ε α) : Prop :=
  ∀ s, (h.run.run serve s).2 = s

/-- The program leaves the component's state alone if it fails. -/
def Atomic (serve : Component I σ) (h : Fallible I ε α) : Prop :=
  ∀ s e s', h.run.run serve s = (.error e, s') → s' = s

theorem ReadOnly.pure (a : α) : ReadOnly serve (Pure.pure a : Fallible I ε α) := fun _ => rfl

theorem ReadOnly.ofExcept (x : Except ε α) : ReadOnly serve (ofExcept x : Fallible I ε α) :=
  fun _ => rfl

theorem ReadOnly.bind (hx : ReadOnly serve x) (hf : ∀ a, ReadOnly serve (f a)) :
    ReadOnly serve (x >>= f) := by
  intro s
  rw [run_bind]
  have hs := hx s
  cases hrun : x.run.run serve s with
  | mk r s' =>
    rw [hrun] at hs
    cases r with
    | ok a => exact (hf a s').trans hs
    | error e => exact hs

/-- Read first, change last; the change may rely on what the first part returns. -/
theorem Atomic.bind (hx : ReadOnly serve x) (hP : Returns P x) (hf : ∀ a, P a → Atomic serve (f a))
    :
    Atomic serve (x >>= f) := by
  intro s e s' hrun
  rw [run_bind] at hrun
  have hs := hx s
  have ha := hP.run serve s
  cases hx' : x.run.run serve s with
  | mk r t =>
    rw [hx'] at hrun hs ha
    cases r with
    | ok a => exact (hf a (ha a rfl) t e s' hrun).trans hs
    | error e' =>
      cases hrun
      exact hs

end Fallible

/-! ## Sequences of inputs -/

section Sequences

variable {ι ο τ : Type}

/-- Feed inputs one by one to a machine and collect its outputs. -/
def runAll (step : ι → σ → ο × σ) : List ι → σ → List ο × σ
  | [], s => ([], s)
  | i :: is, s =>
    let (o, s) := step i s
    let (os, s) := runAll step is s
    (o :: os, s)

theorem length_runAll (step : ι → σ → ο × σ) (is : List ι) (s : σ) :
    (runAll step is s).1.length = is.length := by
  induction is generalizing s with
  | nil => rfl
  | cons i is ih => exact congrArg (· + 1) (ih _)

/-- One input more. -/
theorem runAll_concat (step : ι → σ → ο × σ) (is : List ι) (i : ι) (s : σ) :
    runAll step (is ++ [i]) s =
      ((runAll step is s).1 ++ [(step i (runAll step is s).2).1],
        (step i (runAll step is s).2).2) := by
  induction is generalizing s with
  | nil => rfl
  | cons j is ih =>
    have hrest := ih (step j s).2
    show ((step j s).1 :: (runAll step (is ++ [i]) (step j s).2).1,
      (runAll step (is ++ [i]) (step j s).2).2) = _
    rw [hrest]
    rfl

/-- `step` does what `spec` does: from states that `R` relates, both give the same output
and come to states that `R` relates. -/
def Simulates (R : σ → τ → Prop) (step : ι → σ → ο × σ) (spec : ι → τ → ο × τ) : Prop :=
  ∀ i s t, R s t → (step i s).1 = (spec i t).1 ∧ R (step i s).2 (spec i t).2

theorem Simulates.runAll {R : σ → τ → Prop} {step : ι → σ → ο × σ} {spec : ι → τ → ο × τ}
    (h : Simulates R step spec) (is : List ι) {s : σ} {t : τ} (hst : R s t) :
    (runAll step is s).1 = (runAll spec is t).1 ∧ R (runAll step is s).2 (runAll spec is t).2 := by
  induction is generalizing s t with
  | nil => exact ⟨rfl, hst⟩
  | cons i is ih =>
    obtain ⟨hout, hnext⟩ := h i s t hst
    obtain ⟨houts, hfinal⟩ := ih hnext
    exact ⟨congr (congrArg List.cons hout) houts, hfinal⟩

end Sequences

end Interaction
