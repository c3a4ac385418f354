/-!
# A notification with one waiter

The cell through which one task is told that there is something to look at. A notification
wakes the waiter if it has enabled itself, and is kept as a permit if it has not; several of
them without a waiter are one. `issued` is not part of the cell. It records whether a
notification was given since the waiter enabled itself, and `Sound` says that such a
notification has reached it.
-/

namespace RustyModbus

inductive Waiter
  | absent
  | waiting
  | woken
deriving DecidableEq, Repr

structure Notify where
  permit : Bool
  waiter : Waiter
  issued : Bool
deriving DecidableEq, Repr

namespace Notify

def new : Notify := { permit := false, waiter := .absent, issued := false }

def notifyOne (n : Notify) : Notify :=
  match n.waiter with
  | .waiting => { n with waiter := .woken, issued := true }
  | _ => { n with permit := true, issued := true }

/-- The waiter puts itself into the queue. A permit that was kept wakes it at once. -/
def enable (n : Notify) : Notify :=
  { permit := false, waiter := if n.permit then .woken else .waiting, issued := false }

/-- The waiter goes on after it was woken. -/
def consume (n : Notify) : Notify := { n with waiter := .absent }

/-- The waiter goes on for another reason. A wake-up it has not seen is given back. -/
def cancel (n : Notify) : Notify :=
  { n with permit := n.permit || n.waiter == .woken, waiter := .absent }

/-- A waiter that was notified is awake. -/
def Sound (n : Notify) : Prop := n.waiter ≠ .absent → n.issued = true → n.waiter = .woken

theorem sound_new : new.Sound := fun h => absurd rfl h

@[simp] theorem issued_notifyOne (n : Notify) : n.notifyOne.issued = true := by
  rw [notifyOne]
  split <;> rfl

/-- A notification neither registers nor removes the waiter. -/
theorem waiter_notifyOne (n : Notify) : n.notifyOne.waiter = .absent ↔ n.waiter = .absent := by
  rw [notifyOne]
  split
  next h => simp [h]
  next => rfl

theorem sound_notifyOne (n : Notify) : n.notifyOne.Sound := by
  intro hne _
  cases hw : n.waiter with
  | absent => exact absurd ((waiter_notifyOne n).mpr hw) hne
  | waiting | woken => simp [notifyOne, hw]

theorem sound_enable (n : Notify) : n.enable.Sound := fun _ h => nomatch h

theorem sound_consume (n : Notify) : n.consume.Sound := fun h => absurd rfl h

theorem sound_cancel (n : Notify) : n.cancel.Sound := fun h => absurd rfl h

end Notify

end RustyModbus
