import Chip8.Proofs.Machine.Countdown
import Chip8.Proofs.Machine.Holding
import Mathlib.Data.List.Basic

set_option autoImplicit false

namespace Chip8

theorem period_eq (rate : UInt32) : period rate = 1000000000 / rate.toNat := by
  rw [period]
  split
  next zero => rw [zero, UInt32.toNat_zero, Nat.div_zero]
  next => rfl

theorem period_mul_le (rate : UInt32) : period rate * rate.toNat ≤ 1000000000 := by
  rw [period_eq]
  exact Nat.div_mul_le_self 1000000000 rate.toNat

theorem lt_succ_period_mul (rate : UInt32) (running : 0 < rate.toNat) :
    1000000000 < (period rate + 1) * rate.toNat := by
  rw [period_eq, Nat.mul_comm]
  exact Nat.lt_mul_div_succ 1000000000 running

theorem period_pos_iff (rate : UInt32) :
    0 < period rate ↔ 0 < rate.toNat ∧ rate.toNat ≤ 1000000000 := by
  rw [period_eq]
  exact Nat.div_pos_iff

theorem rate_pos_iff (rate : UInt32) : 0 < rate.toNat ↔ rate ≠ 0 := by
  rw [Nat.pos_iff_ne_zero, ne_eq, ne_eq, ← UInt32.toNat_inj, UInt32.toNat_zero]

theorem Clock.shares_pos_iff (role : TimerRole) (clocks : List Clock) :
    0 < shares role clocks ↔ ∃ clock ∈ clocks, clock.role = role ∧ clock.Ticks := by
  induction clocks with
  | nil => simp [shares]
  | cons clock rest ih =>
    have first : 0 < clock.share role ↔ clock.role = role ∧ clock.Ticks := by
      rw [share]
      split
      next ticks => exact iff_of_true Nat.one_pos ticks
      next stands => exact iff_of_false (Nat.lt_irrefl 0) stands
    rw [List.exists_mem_cons_iff, ← ih, ← first]
    exact Nat.add_pos_iff_pos_or_pos

namespace Machine

theorem shares_startTimers (machine : Machine) (sound : Sound) (role : TimerRole) :
    Clock.shares role (machine.startTimers sound).state.clocks =
      if machine.settings.timerRate ≠ 0 ∧ machine.settings.timerRate.toNat ≤ 1000000000 then 1
      else 0 := by
  have runs := period_pos_iff machine.settings.timerRate
  rw [rate_pos_iff] at runs
  rw [← if_congr runs rfl rfl]
  by_cases off : machine.settings.timerRate = 0
  next =>
    have none := machine.settings.timerPeriod?_eq_none_iff.mpr off
    have still : ¬ 0 < period machine.settings.timerRate := fun positive => (runs.mp positive).1 off
    rw [machine.clocks_startTimers_of_none sound none, if_neg still]
    rfl
  next =>
    have paced := machine.settings.timerPeriod?_of_ne off
    rw [machine.clocks_startTimers_of_some sound paced]
    cases role with
    | delay => exact Clock.shares_delay_both _ rfl
    | sound =>
      refine (Clock.shares_sound_both _ rfl).trans ?_
      exact if_congr (and_iff_right rfl) rfl rfl

/--
Only the rate of zero has no period. Any other period is a second divided by the rate and
rounded down, which comes to nothing beyond a thousand million. So both timers have a
clock that ticks, and go down with it, exactly for the rates in between.
-/
theorem clocks_tick_iff (machine : Machine) (sound : Sound) :
    let rate := machine.settings.timerRate
    let started := (machine.startTimers sound).state
    (machine.settings.timerPeriod? = none ↔ rate = 0) ∧
      (rate ≠ 0 → ∃ period, machine.settings.timerPeriod? = some period ∧
        period * rate.toNat ≤ 1000000000 ∧ 1000000000 < (period + 1) * rate.toNat ∧
          (0 < period ↔ rate.toNat ≤ 1000000000)) ∧
      (∀ role, (∃ clock ∈ started.clocks, clock.role = role ∧ clock.Ticks) ↔
        rate ≠ 0 ∧ rate.toNat ≤ 1000000000) ∧
      ∀ role, (started.act (.tickClock role)).timer role =
        machine.timer role - if rate ≠ 0 ∧ rate.toNat ≤ 1000000000 then 1 else 0 := by
  intro rate started
  refine ⟨machine.settings.timerPeriod?_eq_none_iff, ?_, ?_, ?_⟩
  · intro running
    have positive := (rate_pos_iff rate).mpr running
    refine ⟨period rate, machine.settings.timerPeriod?_of_ne running, period_mul_le rate,
      lt_succ_period_mul rate positive, ?_⟩
    rw [period_pos_iff, and_iff_right positive]
  · intro role
    rw [← Clock.shares_pos_iff, machine.shares_startTimers sound role]
    split
    next ticks => exact iff_of_true Nat.one_pos ticks
    next stands => exact iff_of_false (Nat.lt_irrefl 0) stands
  · intro role
    have lowered := started.timer_tickClock_self role
    rw [machine.shares_startTimers sound role] at lowered
    have kept : started.timer role = machine.timer role := by
      rw [timer, processor_startTimers, timer]
    exact kept ▸ lowered

theorem clocks_tick_iff_fastest :
    let settings := { Settings.standard with timerRate := 1000000000 }
    let machine := Machine.fresh settings (.constant 0)
    settings.timerPeriod? ≠ none ∧
      (∃ period, settings.timerPeriod? = some period ∧ 0 < period ∧
        period * 1000000000 ≤ 1000000000) ∧
      ∃ clock ∈ (machine.startTimers .bell).state.clocks, clock.role = .sound ∧ clock.Ticks := by
  intro settings machine
  obtain ⟨none, paced, ticks, -⟩ := clocks_tick_iff machine .bell
  obtain ⟨period, found, least, -, positive⟩ := paced (by decide)
  exact ⟨fun off => absurd (none.mp off) (by decide),
    ⟨period, found, positive.mpr (by decide), least⟩, (ticks .sound).mpr (by decide)⟩

/-- At one tick a second more than a thousand million the period is zero, and no clock ticks. -/
theorem not_every_rate_ticks :
    ¬ ∀ (machine : Machine) (sound : Sound),
      let rate := machine.settings.timerRate
      (machine.settings.timerPeriod? = none ↔ rate = 0) ∧
        (rate ≠ 0 → ∃ period, machine.settings.timerPeriod? = some period ∧ 0 < period ∧
          period * rate.toNat ≤ 1000000000 ∧ 1000000000 < (period + 1) * rate.toNat) ∧
        ∀ role, (∃ clock ∈ (machine.startTimers sound).state.clocks,
          clock.role = role ∧ clock.Ticks) ↔ rate ≠ 0 := by
  intro every
  let settings := { Settings.standard with timerRate := 1000000001 }
  obtain ⟨-, paced, -⟩ := every (Machine.fresh settings (.constant 0)) .bell
  obtain ⟨period, found, positive, -⟩ := paced (by decide)
  have zero : settings.timerPeriod? = some 0 := by decide
  have same : period = 0 := Option.some.inj (found.symm.trans zero)
  exact absurd same (Nat.ne_of_gt positive)

end Machine

end Chip8
