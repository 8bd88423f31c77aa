import Chip8.Proofs.Machine.Countdown
import Chip8.Proofs.Timer.Clockwork

set_option autoImplicit false

namespace Chip8

namespace Machine

theorem ticked_tickClocks_of_clocked (machine : Machine) (clocked : machine.Clocked)
    (roles : List TimerRole) :
    machine.processor.timers.Ticked roles (machine.tickClocks roles).processor.timers := by
  induction roles generalizing machine with
  | nil => exact ⟨rfl, rfl, fun _ => rfl⟩
  | cons role rest ih =>
    obtain ⟨still, ticked⟩ := machine.tickClock_of_clocked role clocked
    have later := ih (machine.tickClock role) still
    rw [ticked] at later
    exact later.tick

theorem beeps_tickClock (machine : Machine) (role : TimerRole) :
    (machine.tickClock role).beeps =
      machine.beeps +
        if role = .sound then min (machine.timer .sound) (Clock.shares .sound machine.clocks)
        else 0 := by
  cases role with
  | delay => exact Clock.totalBeeps_tickAll_delay machine.clocks _
  | sound => exact Clock.totalBeeps_tickAll_sound machine.clocks _

theorem beeps_tickClocks_of_clocked (machine : Machine) (clocked : machine.Clocked)
    (apart : machine.processor.timers.Apart) (roles : List TimerRole) :
    (machine.tickClocks roles).beeps =
      machine.beeps + min (machine.timer .sound) (roles.count .sound) := by
  induction roles generalizing machine with
  | nil => exact (congrArg (machine.beeps + ·) (Nat.min_zero _)).symm
  | cons role rest ih =>
    have still := (machine.tickClock_of_clocked role clocked).1
    have lowered := machine.timer_tickClock apart .sound role
    have beeped := machine.beeps_tickClock role
    rw [machine.shares_of_clocked clocked] at lowered beeped
    refine (ih (machine.tickClock role) still (machine.apart_act (.tickClock role) apart)).trans ?_
    rw [beeped, lowered]
    cases role with
    | delay =>
      have other : TimerRole.delay ≠ .sound := nofun
      rw [if_neg other, if_neg other, List.count_cons_of_ne other, Nat.sub_zero, Nat.add_zero]
    | sound =>
      rw [if_pos rfl, if_pos rfl, List.count_cons_self]
      omega

theorem tickClocks_eq_ticksBoth (machine : Machine) (clocked : machine.Clocked) {count : Nat}
    {roles : List TimerRole} (each : ∀ role, roles.count role = count) :
    let timers := machine.processor.timers
    (machine.tickClocks roles).processor.timers = (timers.ticksBoth count).1 ∧
      (timers.Apart →
        (machine.tickClocks roles).beeps = machine.beeps + (timers.ticksBoth count).2) := by
  intro timers
  refine ⟨(machine.ticked_tickClocks_of_clocked clocked roles).eq_ticksBoth each, ?_⟩
  intro apart
  rw [Timers.beeps_ticksBoth apart, ← each .sound]
  exact machine.beeps_tickClocks_of_clocked clocked apart roles

end Machine

theorem Clockwork.ticks_eq_ticksBoth (work : Clockwork) {count : Nat} {roles : List TimerRole}
    (apart : work.handle .delay ≠ work.handle .sound) (runs : work.Runs roles)
    (each : ∀ role, roles.count role = count) :
    let called := work.counters.ticksBoth (work.handle .delay) (work.handle .sound) count
    (∀ read, (work.ticks roles).counters.get read = called.1.get read) ∧
      (work.ticks roles).beeps = work.beeps + called.2 := by
  intro called
  constructor
  · intro read
    apply BitVec.eq_of_toNat_eq
    refine (work.value_ticks roles runs read).trans ?_
    rw [Handle.countP_reaching_of_each work.handle each read]
    exact (work.counters.value_ticksBoth _ _ read count).symm
  · rw [work.beeps_ticks roles runs apart, each .sound]
    exact congrArg _ (work.counters.beeps_ticksBoth_of_ne apart count).symm

/--
Calls that tick two timers lower each by their number, and beep while the sound timer
lasts; where both handles name one counter, a call takes two from it, and every two
make one beep. Each clone shows what the ticks left, and other counters stay as they
were. On two counters, clocks that run come to the same in any order, as long as each
ticks that often. All this holds of the two timers of a machine, which are such handles,
and of its own clocks.
-/
theorem calls_agree_with_clocks (counters : Counters) (delay sound : Handle) (count : Nat) :
    let after := (counters.ticksBoth delay sound count).1
    let beeps := (counters.ticksBoth delay sound count).2
    (delay.counter ≠ sound.counter →
        (∀ clone : Handle, clone.counter = delay.counter →
            after.value clone = counters.value delay - count) ∧
          (∀ clone : Handle, clone.counter = sound.counter →
            after.value clone = counters.value sound - count) ∧
          beeps = min (counters.value sound) count) ∧
      (delay.counter = sound.counter →
        (∀ clone : Handle, clone.counter = delay.counter →
            after.value clone = counters.value delay - 2 * count) ∧
          beeps = min count (counters.value delay / 2)) ∧
      (∀ other : Handle, other.counter ≠ delay.counter → other.counter ≠ sound.counter →
        after.get other = counters.get other) ∧
      (delay.counter ≠ sound.counter →
        ∀ (delayPeriod soundPeriod : Nat) (tone : Sound) (roles : List TimerRole),
          (∀ role, roles.count role = count) →
            let work := Clockwork.start counters delay sound delayPeriod soundPeriod tone
            (work.Runs roles →
                (∀ handle, (work.ticks roles).counters.get handle = after.get handle) ∧
                  (work.ticks roles).beeps = tone.beeps + beeps) ∧
              (0 < delayPeriod → 0 < soundPeriod → tone.Lasts → work.Runs roles)) ∧
      (∀ timers : Timers,
        timers.counters = counters → timers.delay = delay → timers.sound = sound →
          (timers.ticksBoth count).1.counters = after ∧ (timers.ticksBoth count).2 = beeps) ∧
      ∀ (machine : Machine) (roles : List TimerRole), machine.Clocked →
        (∀ role, roles.count role = count) →
          let timers := machine.processor.timers
          (machine.tickClocks roles).processor.timers = (timers.ticksBoth count).1 ∧
            (timers.Apart →
              (machine.tickClocks roles).beeps = machine.beeps + (timers.ticksBoth count).2) := by
  intro after beeps
  have left (clone : Handle) : after.value clone =
      counters.value clone - count * clone.reached delay sound :=
    counters.value_ticksBoth delay sound clone count
  have same {clone handle : Handle} (names : clone.counter = handle.counter) : clone = handle :=
    congrArg Handle.mk names
  have differ {clone handle : Handle} (names : clone.counter ≠ handle.counter) : clone ≠ handle :=
    fun equal => names (congrArg Handle.counter equal)
  refine ⟨fun apart => ⟨?_, ?_, ?_⟩, fun shared => ⟨?_, ?_⟩, ?_, ?_, ?_, ?_⟩
  · intro clone names
    rw [left, same names, Counters.reached_delay_of_ne (differ apart), Nat.mul_one]
  · intro clone names
    rw [left, same names, Counters.reached_sound_of_ne (differ apart), Nat.mul_one]
  · exact counters.beeps_ticksBoth_of_ne (differ apart) count
  · intro clone names
    rw [left, same names, ← same shared, Handle.reached, if_pos rfl, Nat.mul_comm]
  · obtain rfl := same shared
    exact counters.beeps_ticksBoth_self delay count
  · intro other notDelay notSound
    apply counters.get_ticksBoth_of_unreached
    rw [Handle.reached, if_neg (differ notDelay).symm, if_neg (differ notSound).symm]
  · intro apart delayPeriod soundPeriod tone roles each work
    refine ⟨fun runs => work.ticks_eq_ticksBoth (differ apart) runs each, ?_⟩
    intro delays sounds lasts
    exact (Clockwork.lasting_start counters delay sound delays sounds lasts).runs roles
  · rintro timers rfl rfl rfl
    exact ⟨rfl, rfl⟩
  · intro machine roles clocked each
    exact machine.tickClocks_eq_ticksBoth clocked each

theorem calls_agree_with_clocks_odd :
    let counters : Counters := ⟨#[3, 7]⟩
    let work := Clockwork.start counters ⟨0⟩ ⟨1⟩ 5 9 .bell
    let roles : List TimerRole := [.sound, .delay, .sound, .delay]
    let machine : Machine :=
      { processor := Processor.fresh .skip (Random.cycle 0 [])
        settings := .standard
        clocks := [.delay 5, .sounding 5 .bell] }
    (counters.ticksBoth ⟨0⟩ ⟨0⟩ 2).1.value ⟨0⟩ = 0 ∧
      (counters.ticksBoth ⟨0⟩ ⟨0⟩ 2).2 = 1 ∧
      (counters.ticksBoth ⟨0⟩ ⟨0⟩ 2).1.get ⟨1⟩ = 7 ∧
      (work.ticks roles).counters.get ⟨0⟩ = (counters.ticksBoth ⟨0⟩ ⟨1⟩ 2).1.get ⟨0⟩ ∧
      (counters.ticksBoth ⟨0⟩ ⟨1⟩ 2).1.value ⟨1⟩ = 5 ∧
      (work.ticks roles).beeps = 2 ∧
      (machine.tickClocks roles).beeps = (machine.processor.timers.ticksBoth 2).2 := by
  intro counters work roles machine
  obtain ⟨-, shared, others, -⟩ := calls_agree_with_clocks counters ⟨0⟩ ⟨0⟩ 2
  obtain ⟨own, -, -, clocks, -, machines⟩ := calls_agree_with_clocks counters ⟨0⟩ ⟨1⟩ 2
  obtain ⟨values, beeps⟩ := shared rfl
  obtain ⟨-, left, beeped⟩ := own (by decide)
  have each (role : TimerRole) : roles.count role = 2 := by cases role <;> rfl
  obtain ⟨agree, run⟩ := clocks (by decide) 5 9 .bell roles each
  obtain ⟨gets, rings⟩ := agree (run (by decide) (by decide) Sound.lasts_bell)
  refine ⟨values ⟨0⟩ rfl, beeps.trans (by decide), others ⟨1⟩ (by decide) (by decide), gets ⟨0⟩,
    left ⟨1⟩ rfl, ?_, ?_⟩
  · rw [rings, beeped]
    rfl
  · have clocked : machine.Clocked := .both 5 .bell (by decide) Sound.lasts_bell rfl
    have apart : machine.processor.timers.Apart := Timers.apart_ofValues 0 0
    exact ((machines machine roles clocked each).2 apart).trans (Nat.zero_add _)

end Chip8
