import Chip8.Proofs.Machine.History
import Chip8.Proofs.Memory.Loading
import Chip8.Proofs.Processor.Stepping

set_option autoImplicit false

namespace Chip8

def Action.program? : Action → Option (List Byte)
  | .load stream => stream.program?
  | _ => none

/-- The last program that a history loads with success, at first the empty one. -/
def lastProgram (actions : List Action) : List Byte :=
  (actions.filterMap Action.program?).getLastD []

namespace Machine

theorem load_of_loadStream (machine : Machine) (stream : Stream)
    {outcome : Outcome Memory (Except LoadError Nat)}
    (loaded : machine.processor.memory.loadStream stream = outcome) :
    machine.load stream =
      { state := { machine with processor := { machine.processor with memory := outcome.state } }
        answer := outcome.answer
        journal := outcome.journal } := by
  subst loaded
  rfl

theorem memory_act (machine : Machine) (action : Action) (earlier : List Byte)
    (held : machine.processor.memory = .image earlier) :
    (machine.act action).processor.memory = .image (action.program?.getD earlier) := by
  cases action with
  | step => exact machine.processor.memory_step.trans held
  | load stream =>
    have loaded : (machine.act (.load stream)).processor.memory =
      (machine.processor.memory.loadStream stream).state := rfl
    rw [loaded, held]
    exact Memory.state_loadStream_image earlier stream
  | startTimers sound =>
    rw [act, processor_startTimers]
    exact held
  | _ => exact held

theorem memory_actAll (machine : Machine) (actions : List Action) (earlier : List Byte)
    (held : machine.processor.memory = .image earlier) :
    (machine.actAll actions).processor.memory =
      .image ((actions.filterMap Action.program?).getLastD earlier) := by
  -- What the first action leaves is the earlier program of the rest.
  induction actions generalizing machine earlier with
  | nil => exact held
  | cons action rest ih =>
    rw [actAll, ih _ _ (machine.memory_act action earlier held)]
    cases loaded : action.program? with
    | none => rw [List.filterMap_cons_none loaded, Option.getD_none]
    | some program =>
      rw [List.filterMap_cons_some loaded, Option.getD_some, List.getLastD_cons]

theorem length_lastProgram_le (actions : List Action) :
    (lastProgram actions).length ≤ programRoom := by
  rcases List.eq_nil_or_concat (actions.filterMap Action.program?) with none | ⟨_, last, loaded⟩
  · rw [lastProgram, none]
    exact Nat.zero_le _
  · have member : last ∈ actions.filterMap Action.program? := by simp [loaded]
    obtain ⟨action, -, found⟩ := List.mem_filterMap.mp member
    rw [lastProgram, loaded, List.concat_eq_append, List.getLastD_concat]
    cases action with
    | load stream => exact ((stream.program?_eq_some_iff last).mp found).2
    | _ => cases found

/--
After any history of a new machine, memory holds the last program loaded with
success. A load succeeds exactly if its program can be read and is not longer than
3584 bytes, and changes nothing but memory; instructions never write it.
-/
theorem memory_of_lastProgram (settings : Settings) (entropy : Entropy) (actions : List Action) :
    let machine := (Machine.fresh settings entropy).actAll actions
    let memory := machine.processor.memory
    (memory = .image (lastProgram actions) ∧ memory.Holds (lastProgram actions)) ∧
      (∀ stream program, stream.readAll = .ok program → program.length ≤ 3584 →
        (machine.load stream).answer = .ok program.length ∧
          (machine.load stream).state =
            { machine with processor := { machine.processor with memory := .image program } }) ∧
      (∀ stream program, stream.readAll = .ok program → 3584 < program.length →
        (machine.load stream).answer = .error (.tooLarge program.length 3584) ∧
          (machine.load stream).state = machine) ∧
      (∀ stream cause, stream.readAll = .error cause →
        (machine.load stream).answer = .error (.unreadable cause) ∧
          (machine.load stream).state = machine) ∧
      ∀ (processor : Processor) (word : Word),
        (processor.execute word).state.memory = processor.memory := by
  intro machine memory
  have held : memory = .image (lastProgram actions) :=
    (Machine.fresh settings entropy).memory_actAll actions [] Memory.fresh_eq_image
  refine ⟨⟨held, ?_⟩, ?_, ?_, ?_, Processor.memory_execute⟩
  · rw [held]
    exact Memory.image_holds _ (length_lastProgram_le actions)
  · intro stream program read fits
    have loaded := Memory.loadStream_of_fits (lastProgram actions) program stream read fits
    rw [← held] at loaded
    rw [machine.load_of_loadStream stream loaded]
    exact ⟨rfl, rfl⟩
  · intro stream program read large
    have kept := memory.loadStream_of_large program stream read large
    rw [machine.load_of_loadStream stream kept]
    exact ⟨rfl, rfl⟩
  · intro stream cause read
    have kept := memory.loadStream_of_unreadable stream cause read
    rw [machine.load_of_loadStream stream kept]
    exact ⟨rfl, rfl⟩

theorem memory_of_lastProgram_shorter :
    let broken := ReadFailure.reported .timedOut none
    let machine := (Machine.fresh .standard (.constant 0)).actAll
      [.load (.ofBytes [1, 2, 3, 4]), .step, .load [.data [5], .failure broken],
        .load (.ofBytes [9])]
    machine.processor.memory.read 0x200 = .ok 9 ∧
      machine.processor.memory.read 0x201 = .ok 0 ∧
      (machine.load (.ofBytes [7, 8])).answer = .ok 2 := by
  intro broken machine
  obtain ⟨⟨-, holds⟩, loads, -⟩ := memory_of_lastProgram .standard (.constant 0)
    [.load (.ofBytes [1, 2, 3, 4]), .step, .load [.data [5], .failure broken],
      .load (.ofBytes [9])]
  refine ⟨holds.loaded 0 (by decide), holds.rest 0x201 (by decide) (by decide) (by decide), ?_⟩
  exact (loads (.ofBytes [7, 8]) [7, 8] rfl (by decide)).1

end Machine

end Chip8
