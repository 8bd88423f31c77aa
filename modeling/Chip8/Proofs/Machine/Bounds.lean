import Chip8.Proofs.Machine.Contents
import Chip8.Proofs.Machine.Policies
import Chip8.Proofs.Processor.Faults
import Chip8.Proofs.Processor.Meaning

set_option autoImplicit false

namespace Chip8

namespace Processor

structure Bounded (processor : Processor) : Prop where
  index : processor.index.toNat ≤ 0xFFF
  counter : processor.counter.toNat ≤ 0x10FE
  calls : ∀ back ∈ processor.calls, 2 ≤ back.toNat ∧ back.toNat ≤ 4096

theorem toNat_target_le (target : Address) : (target.setWidth 16 : Word).toNat ≤ 0xFFF := by
  have bound := target.isLt
  simp only [BitVec.toNat_setWidth_of_le (by decide : 12 ≤ 16)]
  omega

section Instructions

variable {processor : Processor} (bounded : processor.Bounded)
include bounded

theorem Bounded.index_perform (instruction : Instruction) :
    (processor.perform instruction).1.index.toNat ≤ 0xFFF := by
  rw [Processor.index_perform]
  cases instruction with
  | point target => exact toNat_target_le target
  | _ => exact bounded.index

theorem Bounded.counter_perform (instruction : Instruction) :
    (processor.perform instruction).1.counter.toNat ≤ 0x10FE := by
  have near (target : Address) : (target.setWidth 16 : Word).toNat ≤ 0x10FE :=
    (toNat_target_le target).trans (by decide)
  rw [Processor.counter_perform]
  cases instruction with
  | jump target => exact near target
  | call target => exact near target
  | jumpBeyond target =>
    have low := target.isLt
    have high := (processor.registers.read 0).isLt
    simp only [toNat_jumpBeyond]
    omega
  | ret =>
    -- The counter comes from the calls, which a call has filled with counters behind a word.
    cases calls : processor.calls with
    | nil => exact bounded.counter
    | cons back earlier =>
      have known := (bounded.calls back (by simp [calls])).2
      exact known.trans (by decide)
  | _ => exact bounded.counter

variable (behind : 2 ≤ processor.counter.toNat ∧ processor.counter.toNat ≤ 4096)
include behind

theorem Bounded.calls_perform (instruction : Instruction) :
    ∀ back ∈ (processor.perform instruction).1.calls, 2 ≤ back.toNat ∧ back.toNat ≤ 4096 := by
  rw [Processor.calls_perform]
  cases instruction with
  | call target =>
    intro back member
    rcases List.mem_cons.mp member with rfl | earlier
    · exact behind
    · exact bounded.calls back earlier
  | ret => exact fun back member => bounded.calls back (List.mem_of_mem_tail member)
  | _ => exact bounded.calls

theorem Bounded.perform (instruction : Instruction) :
    (processor.perform instruction).1.Bounded where
  index := bounded.index_perform instruction
  counter := bounded.counter_perform instruction
  calls := bounded.calls_perform behind instruction

end Instructions

theorem counter_fetched_behind (processor : Processor)
    (inside : processor.counter.toNat + 1 < memorySize) :
    2 ≤ processor.fetched.counter.toNat ∧ processor.fetched.counter.toNat ≤ 4096 := by
  have size : memorySize = 4096 := rfl
  rw [processor.toNat_counter_fetched inside]
  simp only [wordSize]
  omega

theorem Bounded.fetched {processor : Processor} (bounded : processor.Bounded)
    (inside : processor.counter.toNat + 1 < memorySize) : processor.fetched.Bounded where
  index := bounded.index
  counter := (processor.counter_fetched_behind inside).2.trans (by decide)
  calls := bounded.calls

theorem Bounded.step {processor : Processor} (bounded : processor.Bounded) :
    processor.step.state.Bounded := by
  cases processor.meets with
  | instruction instruction executes =>
    rw [processor.state_step_of_executes executes]
    apply (bounded.fetched executes.1).perform
    exact processor.counter_fetched_behind executes.1
  | unknownWord unknown =>
    rw [processor.state_step_of_findsNone unknown]
    exact bounded.fetched unknown.1
  | noWord outside =>
    rw [processor.step_of_le outside]
    exact bounded

theorem bounded_fresh (unknownWords : UnknownWords) (random : Random) :
    (Processor.fresh unknownWords random).Bounded where
  index := Nat.zero_le _
  counter := (by decide : 0x200 ≤ 0x10FE)
  calls := nofun

theorem answer_step_of_sprite (processor : Processor) {x y height : Nibble}
    (executes : processor.Executes (.draw x y height)) :
    processor.step.answer = (processor.fetched.draw x y height).2 :=
  processor.answer_step_of_executes executes

theorem Bounded.fault_of_sprite {processor : Processor} (bounded : processor.Bounded)
    {fault : Fault} {x y height : Nibble} (executes : processor.Executes (.draw x y height))
    (failed : processor.step.answer = .error fault) : fault = .outOfBounds 4096 := by
  rw [processor.answer_step_of_sprite executes] at failed
  have named := ((processor.fetched.draw_error_iff x y height fault).mp failed).2
  have address : processor.fetched.index.toNat ≤ memorySize :=
    bounded.index.trans (by decide)
  rw [named, Nat.max_eq_right address]

end Processor

/-- The faults that a machine can come to, with how it treats unknown words. -/
def Fault.WithinReach (policy : UnknownWords) : Fault → Prop
  | outOfBounds address => 4096 ≤ address ∧ address ≤ 4350
  | emptyCallStack => True
  | unknownWord _ => policy = .fail

theorem Processor.Bounded.fault_withinReach {processor : Processor} (bounded : processor.Bounded)
    {fault : Fault} (failed : processor.step.answer = .error fault) :
    fault.WithinReach processor.unknownWords := by
  cases processor.meets with
  | instruction instruction executes =>
    have performed := failed
    rw [processor.answer_step_of_executes executes] at performed
    rcases (processor.fetched.perform_error_iff instruction fault).mp performed with
      ⟨rfl, empty⟩ | ⟨x, y, height, rfl, -⟩
    · rw [((processor.fetched.goBack_error_iff fault).mp empty).2]
      exact trivial
    · rw [bounded.fault_of_sprite executes failed]
      exact ⟨Nat.le_refl _, by decide⟩
  | unknownWord unknown =>
    cases policy : processor.unknownWords with
    | skip => simp [processor.step_of_skip unknown policy] at failed
    | fail =>
      rw [processor.step_of_fail unknown policy] at failed
      cases failed
      exact rfl
  | noWord outside =>
    rw [processor.step_of_le outside] at failed
    cases failed
    have far := bounded.counter
    exact ⟨Nat.le_max_right _ _, Nat.max_le.mpr ⟨far, by decide⟩⟩

namespace Machine

theorem bounded_act (machine : Machine) (bounded : machine.processor.Bounded) (action : Action) :
    (machine.act action).processor.Bounded := by
  cases action with
  | step => exact bounded.step
  | startTimers sound =>
    rw [act, processor_startTimers]
    exact bounded
  | _ => exact { bounded with }

theorem bounded_actAll (machine : Machine) (bounded : machine.processor.Bounded)
    (actions : List Action) : (machine.actAll actions).processor.Bounded := by
  apply holds_actAll (fun later => later.processor.Bounded) _ machine bounded
  intro later action bounded
  exact later.bounded_act bounded action

/--
After any history of a new machine the index is an address, the counter is at most
4350 and every return address lies between 2 and 4096. So its next step can only fail
at a return without a call, at an unknown word where these are faults, or at an address
from 4096 to 4350, which is 4096 for a sprite.
-/
theorem bounds_of_history (settings : Settings) (entropy : Entropy) (actions : List Action) :
    let machine := (Machine.fresh settings entropy).actAll actions
    let processor := machine.processor
    (processor.index.toNat ≤ 0xFFF ∧ processor.counter.toNat ≤ 0x10FE ∧
        ∀ back ∈ processor.calls, 2 ≤ back.toNat ∧ back.toNat ≤ 4096) ∧
      ∀ fault, machine.step.answer = .error fault →
        fault.WithinReach settings.unknownWords ∧
          ∀ x y height, processor.Executes (.draw x y height) → fault = .outOfBounds 4096 := by
  intro machine processor
  have start : (Machine.fresh settings entropy).processor.Bounded :=
    Processor.bounded_fresh settings.unknownWords _
  have bounded : processor.Bounded :=
    (Machine.fresh settings entropy).bounded_actAll start actions
  have policy : processor.unknownWords = settings.unknownWords :=
    (Machine.fresh settings entropy).unknownWords_actAll actions
  refine ⟨⟨bounded.index, bounded.counter, bounded.calls⟩, fun fault failed => ?_⟩
  have reached := bounded.fault_withinReach failed
  rw [policy] at reached
  exact ⟨reached, fun x y height executes => bounded.fault_of_sprite executes failed⟩

theorem bounds_of_history_sprite :
    let machine := (Machine.fresh .standard (.constant 0)).actAll
      [.load (.ofBytes [0xAF, 0xFF, 0xD0, 0x02]), .step]
    machine.processor.Executes (.draw 0 0 2) ∧
      machine.step.answer = .error (.outOfBounds 4096) := by
  intro machine
  let loaded := (Machine.fresh .standard (.constant 0)).act
    (.load (.ofBytes [0xAF, 0xFF, 0xD0, 0x02]))
  have memory : loaded.processor.memory = .image [0xAF, 0xFF, 0xD0, 0x02] :=
    (Machine.fresh .standard (.constant 0)).memory_act _ [] Memory.fresh_eq_image
  have points : loaded.processor.Executes (.point 0xFFF) :=
    loaded.processor.executes_of_image 0 memory rfl (by decide) (by decide)
  let pointed := (loaded.processor.fetched.perform (.point 0xFFF)).1
  have stepped : machine.processor = pointed := loaded.processor_act_of_executes points
  have draws : machine.processor.Executes (.draw 0 0 2) := by
    rw [stepped]
    exact pointed.executes_of_image 2 memory rfl (by decide) (by decide)
  have outside : ¬ machine.processor.fetched.SpriteInMemory 0 2 := by
    rw [stepped, Processor.not_spriteInMemory_iff]
    decide
  have failed := (machine.processor.fetched.draw_error_iff 0 0 2 _).mpr ⟨outside, rfl⟩
  rw [← machine.processor.answer_step_of_sprite draws, ← answer_step] at failed
  have named := ((bounds_of_history .standard (.constant 0) _).2 _ failed).2 0 0 2 draws
  exact ⟨draws, failed.trans (congrArg Except.error named)⟩

end Machine

end Chip8
