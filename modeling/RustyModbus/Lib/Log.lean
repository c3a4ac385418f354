import Mathlib.Data.Finset.Card
import Mathlib.Data.Finset.Image

/-!
# Logs

Lists that grow at the end and whose entries are changed in place, so that an index names the
same entry for good. What is behind an index after a change comes from what was behind it
before, and a count over the entries moves with the one that changed.
-/

namespace RustyModbus.Log

variable {α : Type} {l : List α} {i j : Nat} {a b : α} {f : α → α}

/-- The entry that was changed, or another one. -/
theorem modify_cases (h : (l.modify i f)[j]? = some b) :
    (i = j ∧ ∃ a, l[j]? = some a ∧ f a = b) ∨ (i ≠ j ∧ l[j]? = some b) := by
  rw [List.getElem?_modify] at h
  obtain ⟨a, ha, rfl⟩ := Option.map_eq_some_iff.mp h
  by_cases hij : i = j
  · exact Or.inl ⟨hij, a, ha, (if_pos hij).symm⟩
  · exact Or.inr ⟨hij, ha.trans (congrArg some (if_neg hij).symm)⟩

theorem modify_self (h : l[i]? = some a) : (l.modify i f)[i]? = some (f a) := by
  rw [List.getElem?_modify_eq, h]
  rfl

theorem modify_ne (h : i ≠ j) : (l.modify i f)[j]? = l[j]? := List.getElem?_modify_ne f l h

theorem concat_eq_some : (l ++ [a])[j]? = some b ↔ l[j]? = some b ∨ j = l.length ∧ a = b := by
  rw [List.getElem?_append]
  split
  next h =>
    constructor
    · exact Or.inl
    · rintro (hb | ⟨rfl, -⟩)
      · exact hb
      · exact absurd h (Nat.lt_irrefl _)
  next h =>
    have hnone : l[j]? = none := List.getElem?_eq_none (Nat.le_of_not_lt h)
    rw [hnone, List.getElem?_singleton]
    constructor
    · intro hb
      split at hb
      next h0 => exact Or.inr ⟨by omega, Option.some.inj hb⟩
      next => cases hb
    · rintro (hb | ⟨rfl, rfl⟩)
      · cases hb
      · simp

theorem concat_of_some (h : l[j]? = some b) : (l ++ [a])[j]? = some b :=
  concat_eq_some.mpr (Or.inl h)

theorem concat_length : (l ++ [a])[l.length]? = some a := List.getElem?_concat_length

theorem modify_concat : (l ++ [a]).modify l.length f = l ++ [f a] := by
  induction l with
  | nil => rfl
  | cons b l ih => rw [List.cons_append, List.length_cons, List.modify_succ_cons, ih]; rfl

theorem set_self (h : l[i]? = some a) : (l.set i b)[i]? = some b := by
  obtain ⟨hi, -⟩ := List.getElem?_eq_some_iff.mp h
  exact List.getElem?_set_self hi

theorem set_cases (h : (l.set i b)[j]? = some a) : (i = j ∧ a = b) ∨ (i ≠ j ∧ l[j]? = some a) := by
  by_cases hij : i = j
  · subst hij
    obtain ⟨hi, -⟩ := List.getElem?_eq_some_iff.mp h
    rw [List.length_set] at hi
    rw [List.getElem?_set_self hi] at h
    exact Or.inl ⟨rfl, (Option.some.inj h).symm⟩
  · exact Or.inr ⟨hij, by rwa [List.getElem?_set_ne hij] at h⟩

theorem set_same (h : l[i]? = some a) : l.set i a = l := by
  obtain ⟨hi, rfl⟩ := List.getElem?_eq_some_iff.mp h
  exact List.set_getElem_self hi

theorem getLast?_modify : (l.modify (l.length - 1) f).getLast? = l.getLast?.map f := by
  rw [List.getLast?_eq_getElem?, List.getLast?_eq_getElem?, List.length_modify,
    List.getElem?_modify_eq]
  rfl

/-- Replacing the only entry there is. -/
theorem set_singleton (hlen : l.length ≤ 1) (h : l[i]? = some a) : l = [a] ∧ l.set i b = [b] := by
  obtain ⟨hi, ha⟩ := List.getElem?_eq_some_iff.mp h
  match l, i, hlen, hi, ha with
  | [_], 0, _, _, rfl => exact ⟨rfl, rfl⟩

/-- Replacing an entry moves a count by what the two entries contribute. -/
theorem countP_set (p : α → Bool) (h : l[i]? = some a) :
    (l.set i b).countP p + (p a).toNat = l.countP p + (p b).toNat := by
  induction l generalizing i with
  | nil => cases h
  | cons c l ih =>
    cases i with
    | zero =>
      cases Option.some.inj h
      rw [List.set_cons_zero, List.countP_cons, List.countP_cons]
      cases p a <;> cases p b <;> simp
    | succ i =>
      rw [List.set_cons_succ, List.countP_cons, List.countP_cons]
      have := ih h
      omega

theorem countP_pos (p : α → Bool) (h : l[i]? = some a) (ha : p a = true) : 0 < l.countP p :=
  List.countP_pos_iff.mpr ⟨a, List.mem_of_getElem? h, ha⟩

/-- Distinct entries that satisfy `p` are counted. -/
theorem card_le_countP (p : α → Bool) (T : Finset Nat)
    (h : ∀ i ∈ T, ∃ a, l[i]? = some a ∧ p a = true) : T.card ≤ l.countP p := by
  induction l generalizing T with
  | nil =>
    have hempty : T = ∅ := Finset.eq_empty_of_forall_notMem fun i hi => by
      obtain ⟨a, ha, -⟩ := h i hi
      cases ha
    rw [hempty]
    exact Nat.zero_le _
  | cons b l ih =>
    -- the entries behind the first, counted from there
    let T' := (T.erase 0).image Nat.pred
    have hcard : T'.card = (T.erase 0).card := by
      refine Finset.card_image_of_injOn fun i hi j hj heq => ?_
      exact Nat.pred_inj (Nat.pos_of_ne_zero (Finset.ne_of_mem_erase hi))
        (Nat.pos_of_ne_zero (Finset.ne_of_mem_erase hj)) heq
    have htail : T'.card ≤ l.countP p := by
      refine ih T' fun i hi => ?_
      obtain ⟨j, hj, rfl⟩ := Finset.mem_image.mp hi
      obtain ⟨hne, hj⟩ := Finset.mem_erase.mp hj
      obtain ⟨k, rfl⟩ := Nat.exists_eq_succ_of_ne_zero hne
      exact h _ hj
    rw [List.countP_cons]
    by_cases hzero : 0 ∈ T
    · obtain ⟨a, ha, hp⟩ := h 0 hzero
      cases Option.some.inj ha
      rw [if_pos hp, ← Finset.card_erase_add_one hzero, ← hcard]
      exact Nat.add_le_add_right htail 1
    · rw [Finset.erase_eq_of_notMem hzero] at hcard
      rw [← hcard]
      exact Nat.le_trans htail (Nat.le_add_right ..)

end RustyModbus.Log
