import Chip8.Proofs.Machine.Bounds
import Chip8.Proofs.Machine.Pacing
import Chip8.Proofs.Machine.Subroutines

set_option autoImplicit false

namespace Chip8

def Instruction.Transfers : Instruction → Prop
  | jump _ => True
  | call _ => True
  | ret => True
  | jumpBeyond _ => True
  | _ => False

namespace Processor

/-- What the next step executes, if anything, goes on behind its own word. -/
def GoesStraight (processor : Processor) : Prop :=
  ∀ instruction, processor.Executes instruction → ¬ instruction.Transfers

theorem counter_perform_of_not_transfers (processor : Processor) (instruction : Instruction)
    (stays : ¬ instruction.Transfers) :
    (processor.perform instruction).1.counter = processor.counter := by
  rw [counter_perform]
  cases instruction with
  | jump target => exact absurd trivial stays
  | call target => exact absurd trivial stays
  | ret => exact absurd trivial stays
  | jumpBeyond target => exact absurd trivial stays
  | _ => rfl

theorem counter_step_of_goesStraight (processor : Processor) (straight : processor.GoesStraight)
    (done : processor.step.answer = .ok ()) :
    processor.counter.toNat + 1 < memorySize ∧
      processor.step.state.counter.toNat = processor.counter.toNat + 2 := by
  cases processor.meets with
  | instruction instruction executes =>
    have stays := processor.fetched.counter_perform_of_not_transfers instruction
      (straight instruction executes)
    rw [processor.state_step_of_executes executes, stays]
    exact ⟨executes.1, processor.toNat_counter_fetched executes.1⟩
  | unknownWord unknown =>
    rw [processor.state_step_of_findsNone unknown]
    exact ⟨unknown.1, processor.toNat_counter_fetched unknown.1⟩
  | noWord outside =>
    rw [processor.step_of_le outside] at done
    cases done

end Processor

namespace Machine

theorem processor_tickTimers (machine : Machine) (roles : List TimerRole) :
    (machine.tickTimers roles).processor =
      { machine.processor with timers := (machine.tickTimers roles).processor.timers } := by
  induction roles generalizing machine with
  | nil => rfl
  | cons role rest ih => exact ih (machine.tickTimer role)

def before (machine : Machine) (ticks : Nat → List TimerRole) (count : Nat) : Machine :=
  (machine.stepped ticks count).tickTimers (ticks count)

section Stretches

variable (machine : Machine) (ticks : Nat → List TimerRole)

theorem counter_before (count : Nat) :
    (machine.before ticks count).processor.counter =
      (machine.stepped ticks count).processor.counter := by
  rw [before, processor_tickTimers]

theorem counter_stepped_of_goesStraight (first count : Nat)
    (done : ∀ k < count, (machine.attempt ticks (first + k)).answer = .ok ())
    (straight : ∀ k < count, (machine.before ticks (first + k)).processor.GoesStraight) :
    (machine.stepped ticks (first + count)).processor.counter.toNat =
        (machine.stepped ticks first).processor.counter.toNat + 2 * count ∧
      (count = 0 ∨ (machine.stepped ticks (first + count)).processor.counter.toNat ≤
        memorySize) := by
  induction count with
  | zero => exact ⟨rfl, .inl rfl⟩
  | succ count ih =>
    obtain ⟨reached, -⟩ := ih (fun k less => done k (Nat.lt_succ_of_lt less))
      (fun k less => straight k (Nat.lt_succ_of_lt less))
    have last := Nat.lt_succ_self count
    -- The last step found a whole word, which bounds the counter behind it.
    obtain ⟨inside, moved⟩ :=
      (machine.before ticks (first + count)).processor.counter_step_of_goesStraight
        (straight count last) (done count last)
    rw [counter_before] at inside moved
    have stepped : (machine.stepped ticks (first + (count + 1))).processor.counter.toNat =
      (machine.stepped ticks (first + count)).processor.counter.toNat + 2 := moved
    rw [stepped, reached]
    exact ⟨by omega, .inr (by omega)⟩

theorem length_stretch_le (count : Nat)
    (done : ∀ k < count, (machine.attempt ticks k).answer = .ok ())
    (straight : ∀ k < count, (machine.before ticks k).processor.GoesStraight) :
    count ≤ (4096 - machine.processor.counter.toNat) / 2 := by
  have counted := machine.counter_stepped_of_goesStraight ticks 0 count
  simp only [Nat.zero_add, stepped] at counted
  have size : memorySize = 4096 := rfl
  have bound := counted done straight
  omega

theorem exists_transfers_of_endless (endless : ∀ k, (machine.attempt ticks k).answer = .ok ())
    (first : Nat) :
    ∃ count ≥ first, ∃ instruction : Instruction, instruction.Transfers ∧
      (machine.before ticks count).processor.Executes instruction := by
  by_contra none
  have straight (k : Nat) : (machine.before ticks (first + k)).processor.GoesStraight := by
    intro instruction executes transfers
    exact none ⟨first + k, Nat.le_add_right first k, instruction, transfers, executes⟩
  -- So many words would not fit in memory.
  have counted := machine.counter_stepped_of_goesStraight ticks first memorySize
    (fun k _ => endless (first + k)) (fun k _ => straight k)
  have size : memorySize = 4096 := rfl
  omega

end Stretches

end Machine

/-- No word of the program, as words are counted from its start, is a jump or a call. -/
def Memory.StraightLine (memory : Memory) : Prop :=
  ∀ k < 1792, (memory.wordAt (0x200 + 2 * k)).group ∉ [0x1, 0x2, 0xB]

theorem Memory.wordAt_image_program (program : List Byte) {k : Nat} (within : k < 1792) :
    (image program).wordAt (0x200 + 2 * k) =
      Word.ofBytes (program.getD (2 * k) 0) (program.getD (2 * k + 1) 0) := by
  have size : memorySize = 4096 := rfl
  have inside : 0x200 + 2 * k + 1 < memorySize := by omega
  exact wordAt_program program (2 * k) inside

namespace Processor

structure OnLine (processor : Processor) (memory : Memory) (k : Nat) : Prop where
  counter : processor.counter.toNat = 0x200 + 2 * k
  memory : processor.memory = memory
  calls : processor.calls = []
  policy : processor.unknownWords = .skip
  bounded : processor.Bounded

section Lines

variable {processor : Processor} {memory : Memory} {k : Nat}

theorem OnLine.eq_ret_of_transfers (line : processor.OnLine memory k)
    (straight : memory.StraightLine) (within : k < 1792) {instruction : Instruction}
    (executes : processor.Executes instruction) (transfers : instruction.Transfers) :
    instruction = .ret := by
  have other := straight k within
  rw [← line.counter, ← line.memory] at other
  change processor.wordAtCounter.group ∉ _ at other
  rw [Instruction.decode_eq_some_iff.mp executes.2] at other
  cases instruction with
  | ret => rfl
  | jump target => simp [Instruction.encode] at other
  | call target => simp [Instruction.encode] at other
  | jumpBeyond target => simp [Instruction.encode] at other
  | _ => cases transfers

theorem OnLine.step (line : processor.OnLine memory k) (straight : memory.StraightLine)
    (within : k < 1792) (done : processor.step.answer = .ok ()) :
    processor.step.state.OnLine memory (k + 1) := by
  have goes : processor.GoesStraight := by
    intro instruction executes transfers
    cases line.eq_ret_of_transfers straight within executes transfers
    -- Without calls a return fails, and this step succeeds.
    have failed := processor.answer_step_of_ret_nil executes line.calls
    rw [done] at failed
    cases failed
  constructor
  case counter =>
    have moved := (processor.counter_step_of_goesStraight goes done).2
    have start := line.counter
    omega
  case memory => exact processor.memory_step.trans line.memory
  case calls =>
    cases processor.callsStep with
    | keeps same => exact same.trans line.calls
    | enters target executes pushed => exact absurd trivial (goes _ executes)
    | leaves back executes popped => exact absurd trivial (goes _ executes)
  case policy => exact processor.unknownWords_step.trans line.policy
  case bounded => exact line.bounded.step

theorem OnLine.fault (line : processor.OnLine memory k) (within : k < 1792) {fault : Fault}
    (failed : processor.step.answer = .error fault) :
    fault = .emptyCallStack ∧ processor.Executes .ret ∨
      fault = .outOfBounds 4096 ∧ ∃ x y height, processor.Executes (.draw x y height) ∧
        ¬ processor.SpriteInMemory y height := by
  cases processor.meets with
  | instruction instruction executes =>
    have performed := failed
    rw [processor.answer_step_of_executes executes] at performed
    rcases (processor.fetched.perform_error_iff instruction fault).mp performed with
      ⟨rfl, returned⟩ | ⟨x, y, height, rfl, drawn⟩
    · exact .inl ⟨((processor.fetched.goBack_error_iff fault).mp returned).2, executes⟩
    · have outside := ((processor.fetched.draw_error_iff x y height fault).mp drawn).1
      exact .inr ⟨line.bounded.fault_of_sprite executes failed, x, y, height, executes, outside⟩
  | unknownWord unknown =>
    rw [processor.step_of_skip unknown line.policy] at failed
    cases failed
  | noWord outside =>
    have inside := line.counter
    have size : memorySize = 4096 := rfl
    omega

theorem OnLine.answer_step_at_end (line : processor.OnLine memory 1792) :
    processor.step.answer = .error (.outOfBounds 4096) := by
  have outside : memorySize ≤ processor.counter.toNat + 1 := by
    rw [line.counter]
    decide
  rw [processor.step_of_le outside, line.counter]
  rfl

end Lines

end Processor

namespace Machine

theorem failsAfter_or_done (machine : Machine) (ticks : Nat → List TimerRole) (limit : Nat) :
    (∀ count < limit, (machine.attempt ticks count).answer = .ok ()) ∨
      ∃ count < limit, ∃ fault, machine.FailsAfter ticks count fault := by
  induction limit with
  | zero => exact .inl nofun
  | succ limit ih =>
    rcases ih with done | ⟨count, less, fails⟩
    · cases last : (machine.attempt ticks limit).answer with
      | ok => exact .inl (Nat.forall_lt_succ_right.mpr ⟨done, last⟩)
      | error fault => exact .inr ⟨limit, Nat.lt_succ_self limit, fault, done, last⟩
    · exact .inr ⟨count, Nat.lt_succ_of_lt less, fails⟩

section Lines

variable (machine : Machine) (ticks : Nat → List TimerRole) {memory : Memory}

theorem onLine_tickTimers (roles : List TimerRole) {k : Nat}
    (line : machine.processor.OnLine memory k) :
    (machine.tickTimers roles).processor.OnLine memory k := by
  rw [processor_tickTimers]
  exact { line with bounded := { line.bounded with } }

variable (start : machine.processor.OnLine memory 0) (straight : memory.StraightLine)
include start straight

theorem onLine_before (count : Nat) (within : count ≤ 1792)
    (done : ∀ k < count, (machine.attempt ticks k).answer = .ok ()) :
    (machine.before ticks count).processor.OnLine memory count := by
  apply onLine_tickTimers
  induction count with
  | zero => exact start
  | succ count ih =>
    have earlier := ih (Nat.le_of_succ_le within) fun k less => done k (Nat.lt_succ_of_lt less)
    apply (onLine_tickTimers _ (ticks count) earlier).step straight within
    exact done count (Nat.lt_succ_self count)

theorem ends_of_onLine :
    machine.FailsAfter ticks 1792 (.outOfBounds 4096) ∨
      ∃ count < 1792, ∃ fault, machine.FailsAfter ticks count fault ∧
        (machine.before ticks count).processor.OnLine memory count := by
  rcases machine.failsAfter_or_done ticks 1792 with done | ⟨count, less, fault, fails⟩
  · have last := machine.onLine_before ticks start straight 1792 (Nat.le_refl _) done
    exact .inl ⟨done, last.answer_step_at_end⟩
  · have line := machine.onLine_before ticks start straight count (Nat.le_of_lt less) fails.before
    exact .inr ⟨count, less, fault, fails, line⟩

theorem exists_failsAfter_of_onLine :
    ∃ count ≤ 1792, ∃ fault, machine.FailsAfter ticks count fault ∧
      (fault = .emptyCallStack ∨ fault = .outOfBounds 4096) := by
  rcases machine.ends_of_onLine ticks start straight with
    fails | ⟨count, less, fault, fails, line⟩
  · exact ⟨1792, Nat.le_refl _, _, fails, .inr rfl⟩
  · have known := (line.fault less fails.failed).imp And.left And.left
    exact ⟨count, Nat.le_of_lt less, fault, fails, known⟩

theorem failsAfter_end_of_onLine
    (returnless : ∀ k < 1792, memory.wordAt (0x200 + 2 * k) ≠ 0x00EE)
    (drawn : ∀ count < 1792, (∀ k < count, (machine.attempt ticks k).answer = .ok ()) →
      ∀ x y height, (machine.before ticks count).processor.Executes (.draw x y height) →
        (machine.before ticks count).processor.SpriteInMemory y height) :
    machine.FailsAfter ticks 1792 (.outOfBounds 4096) := by
  rcases machine.ends_of_onLine ticks start straight with
    fails | ⟨count, less, fault, fails, line⟩
  · exact fails
  · rcases line.fault less fails.failed with
      ⟨-, executes⟩ | ⟨-, x, y, height, executes, outside⟩
    · have found := Instruction.decode_eq_some_iff.mp executes.2
      rw [Processor.wordAtCounter, line.counter, line.memory] at found
      exact absurd found (returnless count less)
    · exact absurd (drawn count less fails.before x y height executes) outside

end Lines

theorem onLine_load (entropy : Entropy) (stream : Stream) :
    let loaded := ((Machine.fresh .standard entropy).load stream).state
    loaded.processor.OnLine loaded.processor.memory 0 where
  counter := rfl
  memory := rfl
  calls := rfl
  policy := rfl
  bounded := (Machine.fresh .standard entropy).bounded_act
    (Processor.bounded_fresh UnknownWords.skip _) (.load stream)

/--
A program without jumps and calls ends. With the usual settings it fails behind 1792 steps
at the latest, at a return or at address 4096, and if it has no return and draws only what
lies in memory it fails behind exactly 1792 steps. Whatever the machine, steps that succeed
and never go on elsewhere are at most as many as there are words from the counter on, and a
run without end goes on elsewhere again and again.
-/
theorem straight_line_ends (ticks : Nat → List TimerRole) :
    (∀ entropy stream,
        let loaded := ((Machine.fresh .standard entropy).load stream).state
        let memory := loaded.processor.memory
        memory.StraightLine →
          (∃ count ≤ 1792, ∃ fault, loaded.FailsAfter ticks count fault ∧
              (fault = .emptyCallStack ∨ fault = .outOfBounds 0x1000)) ∧
            ((∀ k < 1792, memory.wordAt (0x200 + 2 * k) ≠ 0x00EE) →
              (∀ count < 1792, (∀ k < count, (loaded.attempt ticks k).answer = .ok ()) →
                let processor := (loaded.before ticks count).processor
                ∀ x y height, processor.Executes (.draw x y height) →
                  processor.SpriteInMemory y height) →
              loaded.FailsAfter ticks 1792 (.outOfBounds 0x1000))) ∧
      (∀ (machine : Machine) (count : Nat),
        (∀ k < count, (machine.attempt ticks k).answer = .ok ()) →
        (∀ k < count, (machine.before ticks k).processor.GoesStraight) →
        count ≤ (4096 - machine.processor.counter.toNat) / 2) ∧
      ∀ machine : Machine, (∀ k, (machine.attempt ticks k).answer = .ok ()) →
        ∀ first, ∃ count ≥ first, ∃ instruction : Instruction, instruction.Transfers ∧
          (machine.before ticks count).processor.Executes instruction := by
  refine ⟨?_, ?_, ?_⟩
  · intro entropy stream loaded memory straight
    have start : loaded.processor.OnLine memory 0 := onLine_load entropy stream
    refine ⟨loaded.exists_failsAfter_of_onLine ticks start straight, ?_⟩
    exact loaded.failsAfter_end_of_onLine ticks start straight
  · intro machine count done straight
    exact machine.length_stretch_le ticks count done straight
  · intro machine endless first
    exact machine.exists_transfers_of_endless ticks endless first

theorem straight_line_ends_short :
    let loaded := ((Machine.fresh .standard (.constant 0)).load
      (.ofBytes [0x60, 0x05, 0x70])).state
    loaded.processor.memory.StraightLine ∧
      loaded.FailsAfter (fun _ => []) 1792 (.outOfBounds 0x1000) := by
  intro loaded
  have memory : loaded.processor.memory = .image [0x60, 0x05, 0x70] :=
    (Machine.fresh .standard (.constant 0)).memory_act
      (.load (.ofBytes [0x60, 0x05, 0x70])) [] Memory.fresh_eq_image
  have words (k : Nat) (within : k < 1792) :
      loaded.processor.memory.wordAt (0x200 + 2 * k) ∈ [0x6005, 0x7000, 0x0000] := by
    rw [memory, Memory.wordAt_image_program _ within]
    match k with
    | 0 => decide
    | 1 => decide
    | k + 2 => simp [Nat.mul_add, Word.ofBytes]
  have among {word : Word} (known : word ∈ [0x6005, 0x7000, 0x0000]) :
      word.group ∉ [0x1, 0x2, 0xB] ∧ word.group ≠ 0xD ∧ word ≠ 0x00EE := by
    simp only [List.mem_cons, List.not_mem_nil, or_false] at known
    rcases known with rfl | rfl | rfl
    all_goals decide
  have straight : loaded.processor.memory.StraightLine := by
    intro k within
    exact (among (words k within)).1
  have ends := (straight_line_ends fun _ => []).1 (.constant 0) _ straight
  refine ⟨straight, ends.2 (fun k within => (among (words k within)).2.2) ?_⟩
  intro count within done processor x y height executes
  have line := loaded.onLine_before _ (onLine_load _ _) straight count (Nat.le_of_lt within) done
  have drawn := Instruction.decode_eq_some_iff.mp executes.2
  rw [Processor.wordAtCounter, line.counter, line.memory] at drawn
  have other := (among (words count within)).2.1
  rw [drawn, Instruction.encode, Word.group_ofNibbles] at other
  exact absurd rfl other

end Machine

end Chip8
