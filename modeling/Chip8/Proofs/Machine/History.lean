import Chip8.Machine.Clocks
import Chip8.Proofs.Processor.Stepping

set_option autoImplicit false

namespace Chip8

inductive Action where
  | step
  | load (stream : Stream)
  | takeFrame
  | tick
  | tickClock (role : TimerRole)
  | startTimers (sound : Sound)
  | stopTimers

namespace Machine

def act (machine : Machine) : Action → Machine
  | .step => machine.step.state
  | .load stream => (machine.load stream).state
  | .takeFrame => machine.takeFrame.2
  | .tick => machine.tick.1
  | .tickClock role => machine.tickClock role
  | .startTimers sound => (machine.startTimers sound).state
  | .stopTimers => machine.stopTimers.state

def actAll (machine : Machine) : List Action → Machine
  | [] => machine
  | action :: rest => (machine.act action).actAll rest

def gather {Given : Type} (machine : Machine) (gives : Machine → Action → List Given) :
    List Action → List Given
  | [] => []
  | action :: rest => gives machine action ++ (machine.act action).gather gives rest

theorem actAll_append (machine : Machine) (actions others : List Action) :
    machine.actAll (actions ++ others) = (machine.actAll actions).actAll others := by
  induction actions generalizing machine with
  | nil => rfl
  | cons action rest ih => exact ih (machine.act action)

theorem gather_append {Given : Type} (machine : Machine) (gives : Machine → Action → List Given)
    (actions others : List Action) :
    machine.gather gives (actions ++ others) =
      machine.gather gives actions ++ (machine.actAll actions).gather gives others := by
  induction actions generalizing machine with
  | nil => rfl
  | cons action rest ih => simp only [List.cons_append, gather, ih, actAll, List.append_assoc]

theorem gather_congr {Given : Type} (machine : Machine)
    {gives others : Machine → Action → List Given} (actions : List Action)
    (same : ∀ later : Machine, ∀ action ∈ actions, gives later action = others later action) :
    machine.gather gives actions = machine.gather others actions := by
  induction actions generalizing machine with
  | nil => rfl
  | cons action rest ih =>
    have first := same machine action List.mem_cons_self
    have later := ih (machine.act action) fun later other member =>
      same later other (List.mem_cons_of_mem _ member)
    rw [gather, gather, first, later]

theorem filterMap_gather {Given Taken : Type} (machine : Machine)
    (gives : Machine → Action → List Given) (take : Given → Option Taken) (actions : List Action) :
    (machine.gather gives actions).filterMap take =
      machine.gather (fun later action => (gives later action).filterMap take) actions := by
  induction actions generalizing machine with
  | nil => rfl
  | cons action rest ih => rw [gather, gather, List.filterMap_append, ih]

theorem holds_actAll (Holds : Machine → Prop)
    (kept : ∀ machine action, Holds machine → Holds (machine.act action)) (machine : Machine)
    (holds : Holds machine) (actions : List Action) : Holds (machine.actAll actions) := by
  induction actions generalizing machine with
  | nil => exact holds
  | cons action rest ih => exact ih (machine.act action) (kept machine action holds)

theorem takeFrame_of_written (machine : Machine)
    (written : machine.processor.display.written = true) :
    machine.takeFrame.1 = some machine.processor.display.frame := by
  simp [takeFrame, Display.takeMark, written]

theorem takeFrame_of_unwritten (machine : Machine)
    (unwritten : machine.processor.display.written = false) : machine.takeFrame.1 = none := by
  simp [takeFrame, Display.takeMark, unwritten]

@[simp]
theorem processor_act_step (machine : Machine) :
    (machine.act .step).processor = machine.processor.step.state := rfl

theorem processor_act_of_executes (machine : Machine) {instruction : Instruction}
    (executes : machine.processor.Executes instruction) :
    (machine.act .step).processor = (machine.processor.fetched.perform instruction).1 :=
  machine.processor.state_step_of_executes executes

theorem processor_act_tick (machine : Machine) :
    (machine.act .tick).processor =
      { machine.processor with timers := machine.processor.timers.tickBoth.1 } := rfl

@[simp]
theorem answer_step (machine : Machine) : machine.step.answer = machine.processor.step.answer := rfl

@[simp]
theorem journal_step (machine : Machine) :
    machine.step.journal = machine.processor.step.journal := rfl

theorem processor_startTimers (machine : Machine) (sound : Sound) :
    (machine.startTimers sound).state.processor = machine.processor := by
  simp only [startTimers]
  split
  next => rfl
  next => rfl

end Machine

end Chip8
