import Mathlib.Tactic.Linarith
import Mathlib.Tactic.Ring
import StorePulse.Foundation.Transition

/-!
# Periodic tasks

A task attempts something, pauses, and attempts it again.  Where an attempt and a
pause have a longest duration, and only so many attempts fail in a row, the last
attempt that succeeded is never older than a bound (`Kept.age_le`).
-/

namespace StorePulse

/-- How long an attempt and a pause may take, and how many attempts may fail in a row. -/
structure Pace where
  attempt : Int
  pause : Int
  failures : Nat
  attempt_nonneg : 0 ≤ attempt
  pause_nonneg : 0 ≤ pause

namespace Pace

variable (pace : Pace)

/-- The time from one attempt to the next. -/
def cycle : Int := pace.attempt + pace.pause

/-- How old the last success can be. -/
def bound : Int := (pace.failures + 1) * pace.cycle + pace.attempt

theorem cycle_nonneg : 0 ≤ pace.cycle := add_nonneg pace.attempt_nonneg pace.pause_nonneg

end Pace

/-- What a periodic task does, and since when. -/
inductive Activity where
  | attempting (since : Int)
  | pausing (since : Int)

/-- When it has to be over. -/
def Activity.deadline (pace : Pace) : Activity → Int
  | .attempting since => since + pace.attempt
  | .pausing since => since + pace.pause

/-- A periodic task and its clock. -/
structure Periodic where
  activity : Activity
  clock : Int
  /-- How many attempts have failed in a row. -/
  failures : Nat
  /-- When the last attempt that succeeded began. -/
  success : Option Int

namespace Periodic

variable {pace : Pace} {p p' : Periodic}

/-- The steps of a task that keeps the pace. -/
inductive Step (pace : Pace) (p : Periodic) : Periodic → Prop
  | tick {t : Int} : p.clock ≤ t → t ≤ p.activity.deadline pace → Step pace p { p with clock := t }
  | succeed {since : Int} : p.activity = .attempting since →
      Step pace p { p with activity := .pausing p.clock, failures := 0, success := some since }
  | fail {since : Int} : p.activity = .attempting since → p.failures < pace.failures →
      Step pace p { p with activity := .pausing p.clock, failures := p.failures + 1 }
  | resume {since : Int} : p.activity = .pausing since →
      Step pace p { p with activity := .attempting p.clock }

/-- The start of an activity, counted from the last success. -/
def Recent (pace : Pace) (p : Periodic) (success : Int) : Prop :=
  match p.activity with
  | .attempting since => since ≤ success + (p.failures + 1) * pace.cycle
  | .pausing since => since ≤ success + p.failures * pace.cycle + pace.attempt

/-- The end of a pause, counted from the last success. -/
theorem Recent.over {success since : Int} (h : p.Recent pace success)
    (hactivity : p.activity = .pausing since) :
    since + pace.pause ≤ success + (p.failures + 1) * pace.cycle := by
  simp only [Recent, hactivity] at h
  calc since + pace.pause ≤ success + p.failures * pace.cycle + pace.attempt + pace.pause := by
        linarith
    _ = success + (p.failures + 1) * pace.cycle := by rw [Pace.cycle]; ring

/-- What a task that keeps the pace keeps. -/
structure Kept (pace : Pace) (p : Periodic) : Prop where
  failures : p.failures ≤ pace.failures
  punctual : p.clock ≤ p.activity.deadline pace
  recent : ∀ success, p.success = some success → p.Recent pace success

theorem Kept.step (h : p.Kept pace) (hs : p.Step pace p') : p'.Kept pace := by
  cases hs with
  | tick _ hdeadline => exact ⟨h.failures, hdeadline, h.recent⟩
  | @succeed since hactivity =>
      have hpunctual := h.punctual
      rw [hactivity] at hpunctual
      refine ⟨Nat.zero_le _, le_add_of_nonneg_right pace.pause_nonneg, fun success he => ?_⟩
      cases he
      simp only [Activity.deadline] at hpunctual
      simpa [Recent] using hpunctual
  | @fail since hactivity hfew =>
      have hpunctual := h.punctual
      rw [hactivity] at hpunctual
      refine ⟨hfew, le_add_of_nonneg_right pace.pause_nonneg, fun success he => ?_⟩
      have hrecent := h.recent success he
      simp only [Activity.deadline] at hpunctual
      simp only [Recent, hactivity] at hrecent ⊢
      push_cast
      linarith
  | @resume since hactivity =>
      have hpunctual := h.punctual
      rw [hactivity] at hpunctual
      refine ⟨h.failures, le_add_of_nonneg_right pace.attempt_nonneg, fun success he => ?_⟩
      exact le_trans hpunctual ((h.recent success he).over hactivity)

/-- The last success is no older than the bound. -/
theorem Kept.age_le (h : p.Kept pace) {success : Int} (hs : p.success = some success) :
    p.clock - success ≤ pace.bound := by
  have hrecent := h.recent success hs
  have hpunctual := h.punctual
  have hcycles : (p.failures + 1) * pace.cycle ≤ (pace.failures + 1) * pace.cycle :=
    mul_le_mul_of_nonneg_right (by exact_mod_cast Nat.succ_le_succ h.failures) pace.cycle_nonneg
  have hattempt := pace.attempt_nonneg
  rw [Pace.bound]
  cases hactivity : p.activity with
  | attempting since =>
      simp only [Recent, hactivity] at hrecent
      simp only [hactivity, Activity.deadline] at hpunctual
      linarith
  | pausing since =>
      have hover := hrecent.over hactivity
      simp only [hactivity, Activity.deadline] at hpunctual
      linarith

end Periodic

end StorePulse
