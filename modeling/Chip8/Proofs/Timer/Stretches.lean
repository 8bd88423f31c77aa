import Chip8.Timer.Clock
import Mathlib.Algebra.Order.Ring.Int

set_option autoImplicit false

namespace Chip8

/-- What happens to a timer. A store keeps the value that it overwrites. -/
inductive TimerUse where
  | store (old new : Byte)
  | tick
  deriving DecidableEq, Repr

def TimerUse.gain : TimerUse → Int
  | store old new => (new.toNat : Int) - (old.toNat : Int)
  | tick => 0

structure Stretch where
  start : Nat
  ticks : Nat := 0
  deriving DecidableEq, Repr

namespace Stretch

def left (stretch : Stretch) : Nat := stretch.start - stretch.ticks

def beeps (stretch : Stretch) : Nat := min stretch.start stretch.ticks

def follow (stretch : Stretch) : TimerUse → Stretch
  | .store _ new => { start := new.toNat }
  | .tick => { stretch with ticks := stretch.ticks + 1 }

def after (stretch : Stretch) (uses : List TimerUse) : Stretch := uses.foldl follow stretch

def all (stretch : Stretch) : List TimerUse → List Stretch
  | [] => [stretch]
  | .store old new :: rest => stretch :: (stretch.follow (.store old new)).all rest
  | .tick :: rest => (stretch.follow .tick).all rest

def wait (stretch : Stretch) (count : Nat) : Stretch :=
  { stretch with ticks := stretch.ticks + count }

@[simp]
theorem left_wait (stretch : Stretch) (count : Nat) :
    (stretch.wait count).left = stretch.left - count := by
  simp only [left, wait]
  omega

@[simp]
theorem beeps_wait (stretch : Stretch) (count : Nat) :
    (stretch.wait count).beeps = stretch.beeps + min stretch.left count := by
  simp only [beeps, left, wait]
  omega

theorem after_append (stretch : Stretch) (uses others : List TimerUse) :
    stretch.after (uses ++ others) = (stretch.after uses).after others :=
  List.foldl_append

theorem after_ticks (stretch : Stretch) (count : Nat) :
    stretch.after (List.replicate count .tick) = stretch.wait count := by
  induction count generalizing stretch with
  | zero => rfl
  | succ count ih =>
    have ticked := ih (stretch.follow .tick)
    simpa [List.replicate_succ, after, follow, wait, Nat.add_assoc, Nat.add_comm 1] using ticked

theorem all_ticks_append (stretch : Stretch) (count : Nat) (rest : List TimerUse) :
    stretch.all (List.replicate count .tick ++ rest) = (stretch.wait count).all rest := by
  induction count generalizing stretch with
  | zero => rfl
  | succ count ih =>
    have ticked := ih (stretch.follow .tick)
    simpa [List.replicate_succ, all, follow, wait, Nat.add_assoc, Nat.add_comm 1] using ticked

end Stretch

theorem toNat_countDown (value : Byte) : (countDown value).1.toNat = value.toNat - 1 := by
  rw [countDown]
  split
  next zero => simp [zero]
  next running =>
    have positive : value.toNat ≠ 0 := fun zero => running (BitVec.eq_of_toNat_eq zero)
    exact BitVec.toNat_sub_of_le (Nat.pos_of_ne_zero positive)

theorem toNat_running_countDown (value : Byte) :
    (countDown value).2.toNat = min value.toNat 1 := by
  rw [countDown]
  split
  next zero => simp [zero]
  next running =>
    have positive : value.toNat ≠ 0 := fun zero => running (BitVec.eq_of_toNat_eq zero)
    exact (Nat.min_eq_right (Nat.pos_of_ne_zero positive)).symm

namespace Clock

def share (role : TimerRole) (clock : Clock) : Nat :=
  if clock.role = role ∧ clock.Ticks then 1 else 0

def shares (role : TimerRole) (clocks : List Clock) : Nat := (clocks.map (share role)).sum

section Both

variable (period : Nat) {sounding : Clock} (role : sounding.role = .sound)
include role

theorem shares_delay_both :
    shares .delay [delay period, sounding] = if 0 < period then 1 else 0 := by
  simp [shares, share, delay, Ticks, Live, role]

theorem shares_sound_both :
    shares .sound [delay period, sounding] = if sounding.Ticks then 1 else 0 := by
  simp [shares, share, delay, role]

end Both

def totalBeeps (clocks : List Clock) : Nat :=
  clocks.foldr (fun clock total => clock.sound.beeps + total) 0

theorem toNat_tick (clock : Clock) (value : Byte) :
    (clock.tick value).2.toNat = value.toNat - clock.share clock.role := by
  rw [tick, share]
  by_cases ticks : clock.Ticks
  next => cases role : clock.role <;> simp [ticks, toNat_countDown]
  next => simp [ticks]

theorem beeps_tick_sound (clock : Clock) (value : Byte) (sounding : clock.role = .sound) :
    (clock.tick value).1.sound.beeps =
      clock.sound.beeps + min value.toNat (clock.share .sound) := by
  by_cases ticks : clock.Ticks
  next =>
    have one : clock.share .sound = 1 := if_pos ⟨sounding, ticks⟩
    rw [one, ← toNat_running_countDown, tick, if_pos ticks]
    cases running : (countDown value).2 with
    | true => simp [sounding, running, beep, Sound.beep]
    | false => simp [sounding, running]
  next => simp [tick, share, ticks]

theorem sound_tick_delay (clock : Clock) (value : Byte) (delaying : clock.role = .delay) :
    (clock.tick value).1.sound = clock.sound := by
  rw [tick]
  by_cases ticks : clock.Ticks <;> simp [ticks, delaying]

theorem toNat_tickAll (role : TimerRole) (clocks : List Clock) (value : Byte) :
    (tickAll role clocks value).2.toNat = value.toNat - shares role clocks := by
  induction clocks generalizing value with
  | nil => rfl
  | cons clock rest ih =>
    by_cases own : clock.role = role
    next =>
      have ticked := clock.toNat_tick value
      rw [own] at ticked
      simp only [shares] at ih
      simp only [tickAll, shares, own, if_true, List.map_cons, List.sum_cons, ih, ticked]
      omega
    next => simpa [tickAll, shares, share, own] using ih value

theorem totalBeeps_tickAll_sound (clocks : List Clock) (value : Byte) :
    totalBeeps (tickAll .sound clocks value).1 =
      totalBeeps clocks + min value.toNat (shares .sound clocks) := by
  induction clocks generalizing value with
  | nil => simp [tickAll, shares]
  | cons clock rest ih =>
    simp only [totalBeeps, shares] at ih
    by_cases own : clock.role = .sound
    next =>
      have beeps := clock.beeps_tick_sound value own
      have lowered := clock.toNat_tick value
      rw [own] at lowered
      simp only [tickAll, totalBeeps, shares, own, if_true, List.foldr_cons, List.map_cons,
        List.sum_cons, ih]
      omega
    next =>
      have share : clock.share .sound = 0 := by simp [share, own]
      simp only [tickAll, totalBeeps, shares, own, if_false, List.foldr_cons, List.map_cons,
        List.sum_cons, ih, share]
      omega

theorem totalBeeps_tickAll_delay (clocks : List Clock) (value : Byte) :
    totalBeeps (tickAll .delay clocks value).1 = totalBeeps clocks := by
  induction clocks generalizing value with
  | nil => rfl
  | cons clock rest ih =>
    simp only [totalBeeps] at ih
    by_cases own : clock.role = .delay
    next =>
      have silent := clock.sound_tick_delay value own
      simp only [tickAll, totalBeeps, own, if_true, List.foldr_cons, ih, silent]
    next => simp only [tickAll, totalBeeps, own, if_false, List.foldr_cons, ih]

end Clock

end Chip8
