import Chip8.Machine.Basic

set_option autoImplicit false

namespace Chip8.Machine

def stopTimers (machine : Machine) : Outcome Machine Unit :=
  let ended := Clock.stopAll machine.clocks
  { state :=
      { machine with
        clocks := []
        stopped := ended.state ++ machine.stopped
        rests := List.forall_mem_append.mpr
          ⟨Clock.status_of_mem_stopAll machine.clocks, machine.rests⟩ }
    answer := ()
    journal := ended.journal }

-- A machine that goes away stops its clocks. Others may still share its timers.
def drop (machine : Machine) : Outcome Machine Unit := machine.stopTimers

def startTimers (machine : Machine) (sound : Sound) : Outcome Machine Unit :=
  let stopped := machine.stopTimers
  match machine.settings.timerPeriod? with
  | none =>
      { state := stopped.state
        answer := ()
        journal := stopped.journal ++ [.timersOff] }
  | some period =>
      let delay := Clock.delay period
      let sounding := Clock.sounding period sound
      { state := { stopped.state with clocks := [delay, sounding] }
        answer := ()
        journal := stopped.journal ++ delay.started ++ sounding.started }

def tickClock (machine : Machine) (role : TimerRole) : Machine :=
  let timers := machine.processor.timers
  let (clocks, value) := Clock.tickAll role machine.clocks (timers.get role)
  { machine.setTimers (timers.set role value) with clocks := clocks }

def tickClocks (machine : Machine) (roles : List TimerRole) : Machine :=
  roles.foldl tickClock machine

def drainTimers (machine : Machine) : Machine :=
  let timers := machine.processor.timers
  machine.tickClocks
    (List.replicate (timers.get .delay).toNat .delay ++
      List.replicate (timers.get .sound).toNat .sound)

/-- Every clock that was ever started. -/
def threads (machine : Machine) : List Clock := machine.clocks ++ machine.stopped

def beeps (machine : Machine) : Nat :=
  machine.clocks.foldr (fun clock total => clock.sound.beeps + total) 0

end Chip8.Machine
