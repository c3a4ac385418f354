import Mathlib.Data.List.AList

/-!
# Counts by key

A map from keys to counts, as programs keep one for budgets: an entry is made when its key is first
counted and removed when its count is back at zero. `total` is the sum over all keys.
-/

namespace Counts

variable {α : Type} [DecidableEq α]

abbrev Map (α : Type) := AList fun _ : α => Nat

def get (m : Map α) (a : α) : Nat := (m.lookup a).getD 0

def incr (m : Map α) (a : α) : Map α := m.insert a (get m a + 1)

/-- One less, and the map without the key if that is zero. -/
def decr (m : Map α) (a : α) : Map α :=
  if get m a ≤ 1 then m.erase a else m.insert a (get m a - 1)

def total (m : Map α) : Nat := m.entries.foldr (fun e n => e.2 + n) 0

theorem get_insert (m : Map α) (a b : α) (n : Nat) :
    get (m.insert a n) b = if b = a then n else get m b := by
  unfold get
  split
  next h => rw [h, AList.lookup_insert]; rfl
  next h => rw [AList.lookup_insert_ne h]

theorem get_erase (m : Map α) (a b : α) : get (m.erase a) b = if b = a then 0 else get m b := by
  unfold get
  split
  next h => rw [h, AList.lookup_erase]; rfl
  next h => rw [AList.lookup_erase_ne h]

theorem get_incr (m : Map α) (a b : α) : get (incr m a) b = get m b + (decide (b = a)).toNat := by
  rw [incr, get_insert]
  by_cases h : b = a <;> simp [h]

theorem get_decr (m : Map α) {a : α} (h : 0 < get m a) (b : α) :
    get (decr m a) b + (decide (b = a)).toNat = get m b := by
  rw [decr]
  split
  · rw [get_erase]
    by_cases hb : b = a
    · simp only [hb, if_true, decide_true, Bool.toNat_true]
      omega
    · simp [hb]
  · rw [get_insert]
    by_cases hb : b = a
    · simp only [hb, if_true, decide_true, Bool.toNat_true]
      omega
    · simp [hb]

/-- What is left without a key. -/
theorem total_erase (m : Map α) (a : α) : total (m.erase a) + get m a = total m := by
  have hlist : ∀ l : List (Sigma fun _ : α => Nat),
      (l.kerase a).foldr (fun e n => e.2 + n) 0 + (l.dlookup a).getD 0
        = l.foldr (fun e n => e.2 + n) 0 := by
    intro l
    induction l with
    | nil => rfl
    | cons x l ih =>
      obtain ⟨b, n⟩ := x
      by_cases hb : a = b
      · subst hb
        have herase : (⟨a, n⟩ :: l : List (Sigma fun _ : α => Nat)).kerase a = l :=
          List.kerase_cons_eq rfl
        rw [herase, List.dlookup_cons_eq]
        exact Nat.add_comm _ _
      · rw [List.kerase_cons_ne hb, List.dlookup_cons_ne _ _ hb, List.foldr_cons,
          List.foldr_cons, Nat.add_assoc, ih]
  exact hlist m.entries

theorem total_insert (m : Map α) (a : α) (n : Nat) :
    total (m.insert a n) + get m a = total m + n := by
  have hrest := total_erase m a
  have hinsert : total (m.insert a n) = n + total (m.erase a) := by
    rw [total, AList.entries_insert]
    rfl
  omega

theorem total_incr (m : Map α) (a : α) : total (incr m a) = total m + 1 := by
  have := total_insert m a (get m a + 1)
  rw [incr]
  omega

theorem total_decr (m : Map α) {a : α} (h : 0 < get m a) : total (decr m a) + 1 = total m := by
  rw [decr]
  split
  · have := total_erase m a
    omega
  · have := total_insert m a (get m a - 1)
    omega

end Counts
