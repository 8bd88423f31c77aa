import Chip8.Proofs.Timer.Stretches
import Chip8.Timer.Counters

set_option autoImplicit false

namespace Chip8

/-- How many of the two ticks of a call reach the counter of a handle. -/
def Handle.reached (handle delay sound : Handle) : Nat :=
  (if delay = handle then 1 else 0) + if sound = handle then 1 else 0

theorem Handle.countP_reaching (handle : TimerRole → Handle) (roles : List TimerRole)
    (read : Handle) :
    (roles.countP fun role => handle role = read) =
      (if handle .delay = read then roles.count .delay else 0) +
        if handle .sound = read then roles.count .sound else 0 := by
  induction roles with
  | nil => simp
  | cons role rest ih =>
    rw [List.countP_cons, ih, List.count_cons, List.count_cons]
    by_cases delays : handle .delay = read <;> by_cases sounds : handle .sound = read <;>
      cases role <;> simp [delays, sounds] <;> omega

theorem Handle.countP_reaching_of_each (handle : TimerRole → Handle) {roles : List TimerRole}
    {count : Nat} (each : ∀ role, roles.count role = count) (read : Handle) :
    (roles.countP fun role => handle role = read) =
      count * read.reached (handle .delay) (handle .sound) := by
  rw [countP_reaching, each, each, reached]
  split <;> split <;> omega

namespace Counters

def value (counters : Counters) (handle : Handle) : Nat := (counters.get handle).toNat

-- A value can be lowered through any handle, since one without a counter reads as zero.
theorem get_set_of_le (counters : Counters) (written read : Handle) (value : Byte)
    (lower : value.toNat ≤ counters.value written) :
    (counters.set written value).get read =
      if written = read then value else counters.get read := by
  by_cases present : counters.Has written
  next => exact counters.get_set written read value present
  next =>
    have outside : counters.values.size ≤ written.counter := Nat.not_lt.mp present
    have unset : counters.set written value = counters := by
      rw [set, Array.setIfInBounds_eq_of_size_le outside]
    have zero : counters.get written = 0 := by simp [get, outside]
    rw [unset]
    split
    next same =>
      rw [Counters.value, zero] at lower
      rw [← same, zero]
      exact (BitVec.eq_of_toNat_eq (Nat.le_zero.mp lower)).symm
    next => rfl

theorem value_set_of_le (counters : Counters) (written read : Handle) (value : Byte)
    (lower : value.toNat ≤ counters.value written) :
    (counters.set written value).value read =
      if written = read then value.toNat else counters.value read := by
  rw [Counters.value, counters.get_set_of_le written read value lower]
  exact apply_ite BitVec.toNat _ _ _

theorem get_tick (counters : Counters) (ticked read : Handle) :
    (counters.tick ticked).1.get read =
      if ticked = read then (countDown (counters.get read)).1 else counters.get read := by
  have lowered := toNat_countDown (counters.get ticked)
  have set := counters.get_set_of_le ticked read (countDown (counters.get ticked)).1
    (lowered ▸ Nat.sub_le _ 1)
  refine set.trans ?_
  split
  next same => rw [same]
  next => rfl

theorem value_tick (counters : Counters) (ticked read : Handle) :
    (counters.tick ticked).1.value read =
      counters.value read - if ticked = read then 1 else 0 := by
  rw [value, get_tick]
  split
  next => exact toNat_countDown _
  next => rfl

theorem beep_tick (counters : Counters) (handle : Handle) :
    (counters.tick handle).2.toNat = min (counters.value handle) 1 :=
  toNat_running_countDown _

section Calls

variable (counters : Counters) (delay sound : Handle)

theorem value_tickBoth (read : Handle) :
    (counters.tickBoth delay sound).1.value read =
      counters.value read - read.reached delay sound := by
  rw [tickBoth, value_tick, value_tick, Nat.sub_sub, Handle.reached]

theorem beep_tickBoth :
    (counters.tickBoth delay sound).2.toNat =
      min (counters.value sound - if delay = sound then 1 else 0) 1 := by
  rw [tickBoth, beep_tick, value_tick]

theorem value_ticksBoth (read : Handle) (count : Nat) :
    (counters.ticksBoth delay sound count).1.value read =
      counters.value read - count * read.reached delay sound := by
  induction count generalizing counters with
  | zero => simp [ticksBoth]
  | succ count ih =>
    rw [ticksBoth, ih, value_tickBoth, Nat.sub_sub, Nat.add_comm, Nat.succ_mul]

theorem get_ticksBoth_of_unreached (read : Handle) (count : Nat)
    (unreached : read.reached delay sound = 0) :
    (counters.ticksBoth delay sound count).1.get read = counters.get read := by
  apply BitVec.eq_of_toNat_eq
  have kept := counters.value_ticksBoth delay sound read count
  rwa [unreached, Nat.mul_zero, Nat.sub_zero] at kept

-- The first tick of a call is the delay timer's, so that a beep takes two from the counter.
theorem beeps_ticksBoth_self (handle : Handle) (count : Nat) :
    (counters.ticksBoth handle handle count).2 = min count (counters.value handle / 2) := by
  have two : handle.reached handle handle = 2 := by simp [Handle.reached]
  induction count generalizing counters with
  | zero => exact (Nat.zero_min _).symm
  | succ count ih =>
    have beep := counters.beep_tickBoth handle handle
    rw [if_pos rfl] at beep
    rw [ticksBoth]
    dsimp only
    rw [ih, beep, value_tickBoth, two]
    omega

section Apart

variable {delay sound} (apart : delay ≠ sound)
include apart

theorem reached_delay_of_ne : delay.reached delay sound = 1 := by
  simp [Handle.reached, Ne.symm apart]

theorem reached_sound_of_ne : sound.reached delay sound = 1 := by
  simp [Handle.reached, apart]

theorem beeps_ticksBoth_of_ne (count : Nat) :
    (counters.ticksBoth delay sound count).2 = min (counters.value sound) count := by
  induction count generalizing counters with
  | zero => exact (Nat.min_zero _).symm
  | succ count ih =>
    have beep := counters.beep_tickBoth delay sound
    rw [if_neg apart, Nat.sub_zero] at beep
    rw [ticksBoth]
    dsimp only
    rw [ih, beep, value_tickBoth, reached_sound_of_ne apart]
    omega

end Apart

end Calls

end Counters

namespace Timers

/-- What ticks of the timers leave, in whatever order they came. -/
structure Ticked (timers : Timers) (roles : List TimerRole) (later : Timers) : Prop where
  handle : later.handle = timers.handle
  size : later.counters.values.size = timers.counters.values.size
  value : ∀ read, later.counters.value read =
    timers.counters.value read - roles.countP fun role => timers.handle role = read

theorem Ticked.tick {timers later : Timers} {roles : List TimerRole} {role : TimerRole}
    (ticked : (timers.tick role).1.Ticked roles later) : timers.Ticked (role :: roles) later := by
  obtain ⟨handle, size, value⟩ := ticked
  refine ⟨handle, size.trans (timers.counters.size_tick _), fun read => ?_⟩
  have first := timers.counters.value_tick (timers.handle role) read
  rw [value, List.countP_cons, Nat.add_comm, ← Nat.sub_sub]
  simp only [decide_eq_true_eq, ← first]
  rfl

theorem Ticked.eq_ticksBoth {timers later : Timers} {roles : List TimerRole} {count : Nat}
    (ticked : timers.Ticked roles later) (each : ∀ role, roles.count role = count) :
    later = (timers.ticksBoth count).1 := by
  have called := timers.counters.value_ticksBoth timers.delay timers.sound
  refine ext_get ticked.handle (ticked.size.trans (timers.counters.size_ticksBoth _ _ _).symm) ?_
  intro read
  apply BitVec.eq_of_toNat_eq
  refine (ticked.value read).trans ?_
  rw [Handle.countP_reaching_of_each timers.handle each read]
  exact (called read count).symm

variable {timers : Timers} (apart : timers.Apart)
include apart

theorem reached_handle (role : TimerRole) :
    (timers.handle role).reached timers.delay timers.sound = 1 := by
  cases role with
  | delay => exact Counters.reached_delay_of_ne apart
  | sound => exact Counters.reached_sound_of_ne apart

theorem toNat_tickBoth (role : TimerRole) :
    (timers.tickBoth.1.get role).toNat = (timers.get role).toNat - 1 := by
  have left := timers.counters.value_tickBoth timers.delay timers.sound (timers.handle role)
  rwa [reached_handle apart role] at left

theorem beep_tickBoth : timers.tickBoth.2.toNat = min (timers.get .sound).toNat 1 := by
  have beep := timers.counters.beep_tickBoth (timers.handle .delay) (timers.handle .sound)
  rwa [if_neg apart] at beep

theorem beeps_ticksBoth (count : Nat) :
    (timers.ticksBoth count).2 = min (timers.get .sound).toNat count :=
  timers.counters.beeps_ticksBoth_of_ne apart count

end Timers

end Chip8
