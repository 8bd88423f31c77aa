import Chip8.Platform

set_option autoImplicit false

namespace Chip8

inductive UnknownWords where
  | skip
  | fail
  deriving DecidableEq, Repr

structure Settings where
  stepRate : UInt32 := UInt32.ofNat Chip8.stepRate
  timerRate : UInt32 := UInt32.ofNat Chip8.timerRate
  unknownWords : UnknownWords := .skip
  -- Without a seed every machine has a random source of its own.
  seed : Option UInt64 := none
  deriving DecidableEq

def period (rate : UInt32) : Nat :=
  if rate = 0 then 0 else 1000000000 / rate.toNat

namespace Settings

def standard : Settings := {}

def stepPeriod (settings : Settings) : Nat := period settings.stepRate

def timerPeriod? (settings : Settings) : Option Nat :=
  if settings.timerRate = 0 then none else some (period settings.timerRate)

theorem timerPeriod?_eq_none_iff (settings : Settings) :
    settings.timerPeriod? = none ↔ settings.timerRate = 0 := by
  rw [timerPeriod?]
  split
  next zero => exact iff_of_true rfl zero
  next running => exact iff_of_false nofun running

theorem timerPeriod?_of_ne (settings : Settings) (running : settings.timerRate ≠ 0) :
    settings.timerPeriod? = some (period settings.timerRate) :=
  if_neg running

end Settings

end Chip8
