import Chip8.Proofs.Machine.History
import Chip8.Proofs.Processor.Drawing

set_option autoImplicit false

namespace Chip8

namespace Processor

/-- The faults of executing a word, told by the state before it. -/
inductive Fails (processor : Processor) (word : Word) : Fault → Prop where
  | emptyCallStack (returns : word = 0x00EE) (empty : processor.calls = []) :
      Fails processor word .emptyCallStack
  | spriteOutside (x y n : Nibble) (draws : word = Word.ofNibbles 0xD x y n)
      (visible : 1 ≤ processor.spriteRows y n)
      (outside : memorySize < processor.index.toNat + processor.spriteRows y n) :
      Fails processor word (.outOfBounds (max processor.index.toNat memorySize))
  | unknownWord (unknown : Instruction.decode word = none)
      (policy : processor.unknownWords = .fail) :
      Fails processor word (.unknownWord word)

theorem not_spriteInMemory_iff (processor : Processor) (y height : Nibble) :
    ¬ processor.SpriteInMemory y height ↔
      1 ≤ processor.spriteRows y height ∧
        memorySize < processor.index.toNat + processor.spriteRows y height := by
  rw [SpriteInMemory]
  omega

theorem goBack_error_iff (processor : Processor) (fault : Fault) :
    processor.goBack.2 = .error fault ↔ processor.calls = [] ∧ fault = .emptyCallStack := by
  rw [goBack]
  split
  next empty => simp [empty, eq_comm]
  next pending => simp [pending]

theorem draw_error_iff (processor : Processor) (x y height : Nibble) (fault : Fault) :
    (processor.draw x y height).2 = .error fault ↔
      ¬ processor.SpriteInMemory y height ∧
        fault = .outOfBounds (max processor.index.toNat memorySize) := by
  by_cases inside : processor.SpriteInMemory y height
  next => simp [draw_of_inside processor x y height inside, inside]
  next => simp [draw_of_outside processor x y height inside, inside, eq_comm]

theorem perform_error_iff (processor : Processor) (instruction : Instruction) (fault : Fault) :
    (processor.perform instruction).2 = .error fault ↔
      (instruction = .ret ∧ processor.goBack.2 = .error fault) ∨
        ∃ x y n, instruction = .draw x y n ∧ (processor.draw x y n).2 = .error fault := by
  cases instruction with
  | ret => simp [perform]
  | draw x y n =>
    constructor
    · intro failed
      exact .inr ⟨x, y, n, rfl, failed⟩
    · intro failed
      rcases failed with ⟨other, -⟩ | ⟨_, _, _, same, failed⟩
      · cases other
      · cases same
        exact failed
  | _ => simp [perform]

theorem perform_of_error (processor : Processor) (instruction : Instruction) (fault : Fault)
    (failed : (processor.perform instruction).2 = .error fault) :
    (processor.perform instruction).1 = processor := by
  rcases (processor.perform_error_iff instruction fault).mp failed with
    ⟨rfl, fails⟩ | ⟨x, y, n, rfl, fails⟩
  · have empty := ((processor.goBack_error_iff fault).mp fails).1
    simp only [perform, goBack, empty]
  · have outside := ((processor.draw_error_iff x y n fault).mp fails).1
    rw [perform, draw_of_outside processor x y n outside]

theorem fails_iff_of_decode (processor : Processor) {word : Word} {instruction : Instruction}
    (decoded : Instruction.decode word = some instruction) (fault : Fault) :
    processor.Fails word fault ↔ (processor.perform instruction).2 = .error fault := by
  have same := Instruction.decode_eq_some_iff.mp decoded
  rw [perform_error_iff]
  constructor
  · intro fails
    cases fails with
    | emptyCallStack returns empty =>
      have known : instruction = .ret := Instruction.eq_of_decode decoded returns
      subst known
      exact .inl ⟨rfl, (processor.goBack_error_iff _).mpr ⟨empty, rfl⟩⟩
    | spriteOutside x y n draws visible beyond =>
      have known : instruction = .draw x y n := Instruction.eq_of_decode decoded draws
      subst known
      have outside := (processor.not_spriteInMemory_iff y n).mpr ⟨visible, beyond⟩
      exact .inr ⟨x, y, n, rfl, (processor.draw_error_iff x y n _).mpr ⟨outside, rfl⟩⟩
    | unknownWord unknown =>
      rw [decoded] at unknown
      cases unknown
  · intro failed
    rcases failed with ⟨rfl, failed⟩ | ⟨x, y, n, rfl, failed⟩
    · obtain ⟨empty, rfl⟩ := (processor.goBack_error_iff fault).mp failed
      exact .emptyCallStack same empty
    · obtain ⟨outside, rfl⟩ := (processor.draw_error_iff x y n fault).mp failed
      obtain ⟨visible, beyond⟩ := (processor.not_spriteInMemory_iff y n).mp outside
      exact .spriteOutside x y n same visible beyond

theorem fails_iff_of_none (processor : Processor) {word : Word}
    (unknown : Instruction.decode word = none) (fault : Fault) :
    processor.Fails word fault ↔
      processor.unknownWords = .fail ∧ fault = .unknownWord word := by
  have other (instruction : Instruction) : word ≠ instruction.encode := by
    intro same
    have known := Instruction.decode_eq_some_iff.mpr same
    rw [unknown] at known
    cases known
  constructor
  · intro fails
    cases fails with
    | emptyCallStack returns => exact absurd returns (other .ret)
    | spriteOutside x y n draws => exact absurd draws (other (.draw x y n))
    | unknownWord _ policy => exact ⟨policy, rfl⟩
  · intro both
    obtain ⟨policy, rfl⟩ := both
    exact .unknownWord unknown policy

theorem execute_error_iff (processor : Processor) (word : Word) (fault : Fault) :
    (processor.execute word).answer = .error fault ↔ processor.Fails word fault := by
  cases decoded : Instruction.decode word with
  | some instruction =>
    rw [processor.execute_of_decode decoded, processor.fails_iff_of_decode decoded]
  | none =>
    rw [processor.fails_iff_of_none decoded]
    cases policy : processor.unknownWords with
    | skip => simp [processor.execute_of_skip decoded policy]
    | fail => simp [processor.execute_of_fail decoded policy, eq_comm]

theorem execute_of_error (processor : Processor) (word : Word) (fault : Fault)
    (failed : (processor.execute word).answer = .error fault) :
    (processor.execute word).state = processor := by
  cases decoded : Instruction.decode word with
  | some instruction =>
    rw [processor.execute_of_decode decoded] at failed ⊢
    exact processor.perform_of_error instruction fault failed
  | none =>
    cases policy : processor.unknownWords with
    | skip => rw [processor.execute_of_skip decoded policy]
    | fail => rw [processor.execute_of_fail decoded policy]

theorem Fails.moved {processor : Processor} {word : Word} {fault : Fault}
    (fails : processor.Fails word fault) (counter : Word) :
    Fails { processor with counter := counter } word fault := by
  cases fails with
  | emptyCallStack returns empty => exact .emptyCallStack returns empty
  | spriteOutside x y n draws visible outside => exact .spriteOutside x y n draws visible outside
  | unknownWord unknown policy => exact .unknownWord unknown policy

theorem fails_fetched_iff (processor : Processor) (word : Word) (fault : Fault) :
    processor.fetched.Fails word fault ↔ processor.Fails word fault := by
  constructor
  · intro fails
    exact fails.moved processor.counter
  · intro fails
    exact fails.moved processor.fetched.counter

def AtEnd (processor : Processor) : Prop := memorySize ≤ processor.counter.toNat + 1

theorem fetch_error_iff (processor : Processor) (fault : Fault) :
    processor.fetch = .error fault ↔
      processor.AtEnd ∧ fault = .outOfBounds (max processor.counter.toNat memorySize) := by
  rw [fetch_eq, AtEnd]
  split
  next inside => simp [Nat.not_le.mpr inside]
  next outside => simp [Nat.not_lt.mp outside, eq_comm]

end Processor

namespace Machine

theorem counter_act_of_atEnd (machine : Machine) (atEnd : machine.processor.AtEnd)
    (action : Action) : (machine.act action).processor.counter = machine.processor.counter := by
  cases action with
  | step =>
    have stopped := machine.processor.step_of_le atEnd
    simp only [act, step, stopped]
  | startTimers sound => rw [act, processor_startTimers]
  | _ => rfl

theorem counter_actAll_of_atEnd (machine : Machine) (atEnd : machine.processor.AtEnd)
    (actions : List Action) :
    (machine.actAll actions).processor.counter = machine.processor.counter := by
  induction actions generalizing machine with
  | nil => rfl
  | cons action rest ih =>
    have stays := machine.counter_act_of_atEnd atEnd action
    have later : (machine.act action).processor.AtEnd := by
      rw [Processor.AtEnd, stays]
      exact atEnd
    exact (ih (machine.act action) later).trans stays

theorem step_of_atEnd (machine : Machine) (atEnd : machine.processor.AtEnd) :
    machine.step.answer =
        .error (.outOfBounds (max machine.processor.counter.toNat memorySize)) ∧
      machine.step.state = machine := by
  have stopped := machine.processor.step_of_le atEnd
  simp only [step, stopped, and_self]

end Machine

/--
A step fails while fetching exactly from the last byte of memory on, and then for
ever, whatever is loaded. Otherwise it fails exactly as its word does, and only
the counter has moved, behind that word.
-/
theorem Processor.step_faults (processor : Processor) :
    let counter := processor.counter.toNat
    let word :=
      Word.ofBytes (processor.memory.byteAt counter) (processor.memory.byteAt (counter + 1))
    let beyond := Fault.outOfBounds (max counter 4096)
    (∀ fault, processor.fetch = .error fault ↔ 4095 ≤ counter ∧ fault = beyond) ∧
      (4095 ≤ counter →
        processor.step.answer = .error beyond ∧ processor.step.state = processor ∧
          ∀ (machine : Machine) (actions : List Action), machine.processor = processor →
            let later := machine.actAll actions
            later.step.answer = .error beyond ∧ later.step.state = later) ∧
      (counter < 4095 → ∀ fault,
        (processor.step.answer = .error fault ↔ processor.Fails word fault) ∧
          (processor.step.answer = .error fault →
            processor.step.state = { processor with counter := processor.counter + 2 } ∧
              processor.step.state.counter.toNat = counter + 2)) := by
  intro counter word beyond
  refine ⟨fun fault => ?_, fun outside => ?_, fun inside fault => ?_⟩
  · have ends : processor.AtEnd ↔ 4095 ≤ counter := Nat.succ_le_succ_iff
    rw [fetch_error_iff, ends]
  · have atEnd : processor.AtEnd := Nat.succ_le_succ outside
    have stopped := processor.step_of_le atEnd
    refine ⟨by rw [stopped], by rw [stopped], ?_⟩
    rintro machine actions rfl later
    have same : later.processor.counter = machine.processor.counter :=
      machine.counter_actAll_of_atEnd atEnd actions
    have still : later.processor.AtEnd := by
      rw [AtEnd, same]
      exact atEnd
    have stuck := later.step_of_atEnd still
    rw [same] at stuck
    exact stuck
  · have whole : processor.counter.toNat + 1 < memorySize := Nat.succ_lt_succ inside
    rw [processor.step_of_lt whole, execute_error_iff, fails_fetched_iff]
    refine ⟨Iff.rfl, fun fails => ?_⟩
    have failed := (processor.fetched.execute_error_iff processor.wordAtCounter fault).mpr
      ((processor.fails_fetched_iff _ fault).mpr fails)
    rw [processor.fetched.execute_of_error _ fault failed]
    exact ⟨rfl, processor.toNat_counter_fetched whole⟩

theorem Processor.step_faults_lastByte :
    let processor : Processor :=
      { Processor.fresh .fail (Random.cycle 0 []) with
        memory := Memory.image [0xD0, 0x02]
        index := 0xFFF }
    processor.step.answer = .error (.outOfBounds 4096) ∧
      processor.step.state = { processor with counter := 0x202 } := by
  intro processor
  have faults := (step_faults processor).2.2 (by decide) (.outOfBounds 4096)
  have high : processor.memory.byteAt 0x200 = 0xD0 :=
    Memory.byteAt_image [0xD0, 0x02] 0x200 (by decide)
  have low : processor.memory.byteAt 0x201 = 0x02 :=
    Memory.byteAt_image [0xD0, 0x02] 0x201 (by decide)
  have draws : Word.ofBytes (processor.memory.byteAt 0x200) (processor.memory.byteAt 0x201) =
      Word.ofNibbles 0xD 0 0 2 := by
    rw [high, low]
    rfl
  have failed := faults.1.mpr (.spriteOutside 0 0 2 draws (by decide) (by decide))
  exact ⟨failed, (faults.2 failed).1⟩

end Chip8
