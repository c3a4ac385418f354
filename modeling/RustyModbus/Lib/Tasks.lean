/-!
# Lists of tasks

The tasks of a machine in a list, each known by its place. A step of one task replaces the entry at
its place. What is counted over all tasks changes by what the entry contributed and what it
contributes now; the rule is stated with sums, so that `omega` can use it.
-/

namespace Tasks

variable {α : Type} {l : List α} {i : Nat} {a b : α}

theorem set_same (h : l[i]? = some a) : l.set i a = l := by
  obtain ⟨hi, rfl⟩ := List.getElem?_eq_some_iff.mp h
  exact List.set_getElem_self hi

@[grind =] theorem countP_singleton (p : α → Bool) (a : α) : [a].countP p = (p a).toNat := by
  cases h : p a <;> simp [h]

theorem countP_set (p : α → Bool) (h : l[i]? = some a) :
    (l.set i b).countP p + (p a).toNat = l.countP p + (p b).toNat := by
  induction l generalizing i with
  | nil => cases h
  | cons x l ih =>
    cases i with
    | zero =>
      cases h
      simp only [List.set_cons_zero, List.countP_cons]
      cases p a <;> cases p b <;> simp
    | succ i =>
      have := ih h
      simp only [List.set_cons_succ, List.countP_cons]
      omega

/-- What one task contributes. -/
theorem countP_ge (p : α → Bool) (h : l[i]? = some a) : (p a).toNat ≤ l.countP p := by
  cases hp : p a with
  | false => exact Nat.zero_le _
  | true => exact List.countP_pos_iff.mpr ⟨a, List.mem_of_getElem? h, hp⟩

/-- What two tasks contribute. -/
theorem countP_ge_two (p : α → Bool) {j : Nat} (hi : l[i]? = some a) (hj : l[j]? = some b)
    (hij : j ≠ i) : (p a).toNat + (p b).toNat ≤ l.countP p := by
  induction l generalizing i j with
  | nil => cases hi
  | cons x l ih =>
    rw [List.countP_cons]
    cases i with
    | zero =>
      cases j with
      | zero => exact absurd rfl hij
      | succ j =>
        cases hi
        have := countP_ge p (l := l) hj
        cases h : p a <;> simp <;> omega
    | succ i =>
      cases j with
      | zero =>
        cases hj
        have := countP_ge p (l := l) hi
        cases h : p b <;> simp <;> omega
      | succ j =>
        have := ih hi hj (fun h => hij (congrArg Nat.succ h))
        omega

theorem countP_set_of_eq {p : α → Bool} (h : l[i]? = some a) (hp : p b = p a) :
    (l.set i b).countP p = l.countP p := by
  have := countP_set (b := b) p h
  rw [hp] at this
  exact Nat.add_right_cancel this

/-- After a step of one task, each task is the one that has stepped or another one as it was. -/
theorem mem_set_cases {x : α} (h : x ∈ l.set i b) : x = b ∨ ∃ j, j ≠ i ∧ l[j]? = some x := by
  obtain ⟨j, hj⟩ := List.mem_iff_getElem?.mp h
  rw [List.getElem?_set] at hj
  split at hj
  next =>
    split at hj
    next => exact Or.inl (Option.some.inj hj).symm
    next => cases hj
  next hij => exact Or.inr ⟨j, fun hji => hij hji.symm, hj⟩

/-- A step of one task leaves the others where they are. -/
theorem mem_set_of_ne {x : α} {j : Nat} (hj : l[j]? = some x) (hij : j ≠ i) : x ∈ l.set i b := by
  refine List.mem_of_getElem? (i := j) ?_
  rw [List.getElem?_set_ne (Ne.symm hij)]
  exact hj

/-- A step of one task that keeps what holds of the others. -/
theorem forall_mem_set {P Q : α → Prop} (h : ∀ x ∈ l, P x) (hkeep : ∀ x, P x → Q x) (hb : Q b) :
    ∀ x ∈ l.set i b, Q x := by
  intro x hx
  rcases List.mem_or_eq_of_mem_set hx with hx | rfl
  · exact hkeep x (h x hx)
  · exact hb

theorem forall_mem_concat {P Q : α → Prop} (h : ∀ x ∈ l, P x) (hkeep : ∀ x, P x → Q x) (hb : Q b) :
    ∀ x ∈ l ++ [b], Q x := by
  intro x hx
  rcases List.mem_append.mp hx with hx | hx
  · exact hkeep x (h x hx)
  · rw [List.mem_singleton.mp hx]
    exact hb

end Tasks
