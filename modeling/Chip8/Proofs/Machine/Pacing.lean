import Chip8.Proofs.Machine.History
import Chip8.Proofs.Processor.Stepping
import Chip8.Proofs.Processor.Unmarked

set_option autoImplicit false

namespace Chip8

def Sound.Lasts (sound : Sound) : Prop := ∀ earlier, sound.answer earlier ≠ .broken

theorem Sound.lasts_bell : bell.Lasts := nofun

namespace Clock

theorem tick_delay (period : Nat) (value : Byte) (ticks : 0 < period) :
    (Clock.delay period).tick value = (Clock.delay period, (countDown value).1) := by
  have running : (Clock.delay period).Ticks := ⟨rfl, ticks⟩
  rw [tick, if_pos running]
  rfl

theorem beep_of_lasts (clock : Clock) (lasts : clock.sound.Lasts) :
    clock.beep = { clock with sound := clock.sound.beep.1 } := by
  have plays : clock.sound.beep.2 ≠ .broken := lasts clock.sound.beeps
  simp only [beep, if_neg plays]

theorem tick_sounding (period : Nat) (sound : Sound) (value : Byte) (ticks : 0 < period)
    (lasts : sound.Lasts) :
    ∃ later : Sound, later.Lasts ∧
      (Clock.sounding period sound).tick value =
        (Clock.sounding period later, (countDown value).1) := by
  have running : (Clock.sounding period sound).Ticks := ⟨rfl, ticks⟩
  have beeps := (Clock.sounding period sound).beep_of_lasts lasts
  rw [tick, if_pos running]
  obtain ⟨lowered, lowers⟩ := countDown value
  cases lowers with
  | true => exact ⟨sound.beep.1, lasts, congrArg (·, lowered) beeps⟩
  | false => exact ⟨sound, lasts, rfl⟩

theorem tickAll_both (role : TimerRole) (period : Nat) (sound : Sound) (value : Byte)
    (ticks : 0 < period) (lasts : sound.Lasts) :
    ∃ later : Sound, later.Lasts ∧
      tickAll role [delay period, sounding period sound] value =
        ([delay period, sounding period later], (countDown value).1) := by
  cases role with
  | delay =>
    have own : (delay period).role = .delay := rfl
    have other : (sounding period sound).role ≠ .delay := nofun
    refine ⟨sound, lasts, ?_⟩
    simp only [tickAll, if_pos own, if_neg other, tick_delay period value ticks]
  | sound =>
    have other : (delay period).role ≠ .sound := nofun
    have own : (sounding period sound).role = .sound := rfl
    obtain ⟨later, lastsLater, ticked⟩ := tick_sounding period sound value ticks lasts
    refine ⟨later, lastsLater, ?_⟩
    simp only [tickAll, if_neg other, if_pos own, ticked]

end Clock

namespace Machine

inductive Clocked (machine : Machine) : Prop where
  | both (period : Nat) (sound : Sound) (ticks : 0 < period) (lasts : sound.Lasts)
      (clocks : machine.clocks = [Clock.delay period, Clock.sounding period sound])

def tickTimer (machine : Machine) (role : TimerRole) : Machine :=
  machine.setTimers (machine.processor.timers.tick role).1

def tickTimers (machine : Machine) (roles : List TimerRole) : Machine :=
  roles.foldl tickTimer machine

theorem tickClock_of_clocked (machine : Machine) (role : TimerRole) (clocked : machine.Clocked) :
    (machine.tickClock role).Clocked ∧
      (machine.tickClock role).processor = (machine.tickTimer role).processor := by
  obtain ⟨period, sound, ticks, lasts, clocks⟩ := clocked
  obtain ⟨later, lastsLater, ticked⟩ :=
    Clock.tickAll_both role period sound (machine.processor.timers.get role) ticks lasts
  have after : machine.tickClock role =
      { machine.tickTimer role with
        clocks := [Clock.delay period, Clock.sounding period later] } := by
    simp only [tickClock, clocks, ticked]
    rfl
  rw [after]
  exact ⟨.both period later ticks lastsLater rfl, rfl⟩

theorem unmarked_tickTimer {left right : Machine} (role : TimerRole)
    (same : left.processor.unmarked = right.processor.unmarked) :
    (left.tickTimer role).processor.unmarked = (right.tickTimer role).processor.unmarked :=
  congrArg (fun processor : Processor =>
    { processor with timers := (processor.timers.tick role).1 }) same

theorem tickClocks_of_clocked (machine other : Machine) (roles : List TimerRole)
    (clocked : machine.Clocked)
    (same : machine.processor.unmarked = other.processor.unmarked) :
    (machine.tickClocks roles).Clocked ∧
      (machine.tickClocks roles).processor.unmarked =
        (other.tickTimers roles).processor.unmarked := by
  induction roles generalizing machine other with
  | nil => exact ⟨clocked, same⟩
  | cons role rest ih =>
    obtain ⟨still, ticked⟩ := machine.tickClock_of_clocked role clocked
    refine ih (machine.tickClock role) (other.tickTimer role) still ?_
    rw [ticked]
    exact unmarked_tickTimer role same

theorem display_tickClocks (machine : Machine) (roles : List TimerRole) :
    (machine.tickClocks roles).processor.display = machine.processor.display := by
  induction roles generalizing machine with
  | nil => rfl
  | cons role rest ih => exact ih (machine.tickClock role)

theorem executes_act_tickClock (machine : Machine) (role : TimerRole) :
    (machine.act (.tickClock role)).processor.Executes = machine.processor.Executes := rfl

theorem executes_tickClocks (machine : Machine) (roles : List TimerRole) :
    (machine.tickClocks roles).processor.Executes = machine.processor.Executes := by
  induction roles generalizing machine with
  | nil => rfl
  | cons role rest ih => exact ih (machine.tickClock role)

theorem actAll_map_tickClock (machine : Machine) (roles : List TimerRole) :
    machine.actAll (roles.map .tickClock) = machine.tickClocks roles := by
  induction roles generalizing machine with
  | nil => rfl
  | cons role rest ih => exact ih (machine.tickClock role)

/-- The machine after so many steps, the timers ticking before each; faults do not stop it. -/
def stepped (machine : Machine) (ticks : Nat → List TimerRole) : Nat → Machine
  | 0 => machine
  | count + 1 => ((machine.stepped ticks count).tickTimers (ticks count)).step.state

def attempt (machine : Machine) (ticks : Nat → List TimerRole) (count : Nat) :
    Outcome Machine (Except Fault Unit) :=
  ((machine.stepped ticks count).tickTimers (ticks count)).step

theorem attempt_zero (machine : Machine) (ticks : Nat → List TimerRole) (quiet : ticks 0 = []) :
    machine.attempt ticks 0 = machine.step := by
  rw [attempt, quiet]
  rfl

def stepsJournal (machine : Machine) (ticks : Nat → List TimerRole) : Nat → List Event
  | 0 => []
  | count + 1 => machine.stepsJournal ticks count ++ (machine.attempt ticks count).journal

structure FailsAfter (machine : Machine) (ticks : Nat → List TimerRole) (count : Nat)
    (fault : Fault) : Prop where
  before : ∀ earlier < count, (machine.attempt ticks earlier).answer = .ok ()
  failed : (machine.attempt ticks count).answer = .error fault

theorem FailsAfter.unique {machine : Machine} {ticks : Nat → List TimerRole}
    {first second : Nat} {fault other : Fault} (one : machine.FailsAfter ticks first fault)
    (two : machine.FailsAfter ticks second other) : first = second ∧ fault = other := by
  rcases Nat.lt_trichotomy first second with less | same | more
  · have done := two.before first less
    rw [one.failed] at done
    cases done
  · subst same
    exact ⟨rfl, Except.error.inj (one.failed.symm.trans two.failed)⟩
  · have done := one.before second more
    rw [two.failed] at done
    cases done

theorem failsAfter_of_return (machine : Machine) (ticks : Nat → List TimerRole)
    (quiet : ticks 0 = []) (executes : machine.processor.Executes .ret)
    (empty : machine.processor.calls = []) :
    machine.FailsAfter ticks 0 .emptyCallStack ∧
      machine.stepsJournal ticks 1 =
        [machine.processor.fetched.entry machine.processor.wordAtCounter] := by
  refine ⟨{ before := nofun, failed := ?_ }, ?_⟩
  · rw [machine.attempt_zero ticks quiet, answer_step]
    exact machine.processor.answer_step_of_ret_nil executes empty
  · rw [stepsJournal, stepsJournal, machine.attempt_zero ticks quiet, journal_step,
      machine.processor.step_of_executes executes]
    rfl

end Machine

end Chip8
