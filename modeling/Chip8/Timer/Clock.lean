import Chip8.Journal.Event
import Chip8.Sound

set_option autoImplicit false

namespace Chip8

inductive ClockStatus where
  | running
  | broken
  | stopped
  deriving DecidableEq, Repr

structure Clock where
  role : TimerRole
  period : Nat
  sound : Sound
  status : ClockStatus := .running

namespace Clock

def delay (period : Nat) : Clock := { role := .delay, period := period, sound := .mute }

def sounding (period : Nat) (sound : Sound) : Clock :=
  { role := .sound, period := period, sound := sound }

def started (clock : Clock) : List Event := [.clockStarted clock.role clock.period]

def Live (clock : Clock) : Prop := clock.status = .running

instance (clock : Clock) : Decidable clock.Live :=
  inferInstanceAs (Decidable (clock.status = .running))

/-- A clock whose period is zero lives but never ticks. -/
def Ticks (clock : Clock) : Prop := clock.Live ∧ 0 < clock.period

instance (clock : Clock) : Decidable clock.Ticks :=
  inferInstanceAs (Decidable (clock.Live ∧ 0 < clock.period))

-- Whether nobody has stopped the clock yet; it may have broken all the same.
def unstopped (clock : Clock) : Bool := decide (clock.status ≠ .stopped)

def beep (clock : Clock) : Clock :=
  let (sound, beep) := clock.sound.beep
  { clock with
    sound := sound
    status := if beep = .broken then .broken else clock.status }

/-- One period goes by: the clock and the timer's value after it. -/
def tick (clock : Clock) (value : Byte) : Clock × Byte :=
  if clock.Ticks then
    let (lowered, running) := countDown value
    match clock.role with
    | .delay => (clock, lowered)
    | .sound => (if running then clock.beep else clock, lowered)
  else (clock, value)

def ticks (clock : Clock) (value : Byte) : Nat → Clock × Byte
  | 0 => (clock, value)
  | count + 1 =>
      let (after, lowered) := clock.tick value
      after.ticks lowered count

def drain (clock : Clock) (value : Byte) : Clock × Byte := clock.ticks value value.toNat

/-- One period of each clock with that role goes by, all of them ticking the same timer. -/
def tickAll (role : TimerRole) : List Clock → Byte → List Clock × Byte
  | [], value => ([], value)
  | clock :: rest, value =>
      let (ticked, lowered) := if clock.role = role then clock.tick value else (clock, value)
      let (others, left) := tickAll role rest lowered
      (ticked :: others, left)

def stop (clock : Clock) : Outcome Clock Unit :=
  { state := { clock with status := .stopped }
    answer := ()
    journal :=
      match clock.status with
      | .running => [.clockStopped clock.role]
      | .broken => [.clockBroken clock.role]
      | .stopped => [] }

def stopAll (clocks : List Clock) : Outcome (List Clock) Unit :=
  { state := clocks.map fun clock => clock.stop.state
    answer := ()
    journal := clocks.flatMap fun clock => clock.stop.journal }

theorem status_of_mem_stopAll (clocks : List Clock) :
    ∀ clock ∈ (stopAll clocks).state, clock.status = .stopped := by
  intro clock member
  obtain ⟨before, -, rfl⟩ := List.mem_map.mp member
  rfl

end Clock

end Chip8
