import Chip8.Proofs.Processor.Execution
import Mathlib.Data.BitVec
import Mathlib.Data.List.Basic

set_option autoImplicit false

namespace Chip8

/--
The state of a processor, with every byte and word as a number. The two timers are places
in the store of counters, and may be one and the same.
-/
structure Numbers where
  register : Nibble → Nat
  index : Nat
  counter : Nat
  calls : List Nat
  memory : Nat → Option Nat
  lit : Cell → Bool
  written : Bool
  counters : Nat → Option Nat
  delay : Nat
  sound : Nat
  random : Random
  unknownWords : UnknownWords

def Numbers.put (numbers : Numbers) (x : Nibble) (value : Nat) : Numbers :=
  { numbers with register := Function.update numbers.register x value }

def Numbers.store (numbers : Numbers) (place value : Nat) : Numbers :=
  { numbers with counters := Function.update numbers.counters place (some value) }

def Registers.numbers (registers : Registers) (x : Nibble) : Nat := (registers.read x).toNat

def Counters.numbers (counters : Counters) (place : Nat) : Option Nat :=
  counters.values[place]?.map BitVec.toNat

def Processor.numbers (processor : Processor) : Numbers where
  register := processor.registers.numbers
  index := processor.index.toNat
  counter := processor.counter.toNat
  calls := processor.calls.map BitVec.toNat
  memory := fun address => (processor.memory.get? address).map BitVec.toNat
  lit := processor.display.lit
  written := processor.display.written
  counters := processor.timers.counters.numbers
  delay := processor.timers.delay.counter
  sound := processor.timers.sound.counter
  random := processor.random
  unknownWords := processor.unknownWords

def Arith.meaning (numbers : Numbers) (x y : Nibble) : Arith → Numbers
  | move => numbers.put x (numbers.register y)
  | or => numbers.put x (numbers.register x ||| numbers.register y)
  | and => numbers.put x (numbers.register x &&& numbers.register y)
  | xor => numbers.put x (numbers.register x ^^^ numbers.register y)
  | add =>
      let sum := numbers.register x + numbers.register y
      (numbers.put 0xF (if 255 < sum then 1 else 0)).put x (sum % 256)
  | sub =>
      let a := numbers.register x
      let b := numbers.register y
      (numbers.put 0xF (if b ≤ a then 1 else 0)).put x ((256 + a - b) % 256)
  | shiftRight =>
      let b := numbers.register y
      (numbers.put x (b / 2)).put 0xF (b % 2)
  | shiftLeft =>
      let b := numbers.register y
      (numbers.put x (2 * b % 256)).put 0xF (b / 128)

/--
What an instruction does, in whole numbers: all operands are read first, and where two
results go to one register the later one stays. There is no meaning for a return
without a call, and sprites are left to their rows.
-/
def Instruction.meaning (numbers : Numbers) : Instruction → Option Numbers
  | clear => some { numbers with lit := fun _ => false, written := true }
  | ret =>
      match numbers.calls with
      | [] => none
      | back :: earlier => some { numbers with counter := back, calls := earlier }
  | jump target => some { numbers with counter := target.toNat }
  | call target =>
      some { numbers with
        calls := numbers.counter :: numbers.calls
        counter := target.toNat }
  | load x value => some (numbers.put x value.toNat)
  | increase x value => some (numbers.put x ((numbers.register x + value.toNat) % 256))
  | arith op x y => some (op.meaning numbers x y)
  | point target => some { numbers with index := target.toNat }
  | jumpBeyond target => some { numbers with counter := target.toNat + numbers.register 0 }
  | random x mask =>
      let source := numbers.random
      some { numbers.put x ((source.byteAt source.taken).toNat &&& mask.toNat) with
        random := { source with taken := source.taken + 1 } }
  | draw .. => none
  | readDelay x => (numbers.counters numbers.delay).map (numbers.put x)
  | setDelay x => some (numbers.store numbers.delay (numbers.register x))
  | setSound x => some (numbers.store numbers.sound (numbers.register x))

theorem toNat_carry (a b : Byte) :
    (flagByte (BitVec.uaddOverflow a b)).toNat = if 255 < a.toNat + b.toNat then 1 else 0 := by
  by_cases exceeds : 255 < a.toNat + b.toNat
  next =>
    have carry : BitVec.uaddOverflow a b = true := decide_eq_true exceeds
    rw [carry, if_pos exceeds]
    rfl
  next =>
    have carry : BitVec.uaddOverflow a b = false := decide_eq_false exceeds
    rw [carry, if_neg exceeds]
    rfl

theorem toNat_noBorrow (a b : Byte) :
    (flagByte (!BitVec.usubOverflow a b)).toNat = if b.toNat ≤ a.toNat then 1 else 0 := by
  by_cases under : a.toNat < b.toNat
  next =>
    have borrow : BitVec.usubOverflow a b = true := decide_eq_true under
    rw [borrow, if_neg (Nat.not_le.mpr under)]
    rfl
  next =>
    have borrow : BitVec.usubOverflow a b = false := decide_eq_false under
    rw [borrow, if_pos (Nat.not_lt.mp under)]
    rfl

theorem toNat_difference (a b : Byte) : (a - b).toNat = (256 + a.toNat - b.toNat) % 256 := by
  have bound := b.isLt
  rw [BitVec.toNat_sub]
  congr 1
  omega

theorem toNat_shiftedRight (b : Byte) :
    (b >>> 1).toNat = b.toNat / 2 ∧ (b &&& 1).toNat = b.toNat % 2 := by
  constructor
  · rw [BitVec.toNat_ushiftRight, Nat.shiftRight_eq_div_pow]
  · exact (BitVec.toNat_and b 1).trans (Nat.and_one_is_mod b.toNat)

theorem toNat_shiftedLeft (b : Byte) :
    (b <<< 1).toNat = 2 * b.toNat % 256 ∧ (b >>> 7).toNat = b.toNat / 128 := by
  constructor
  · rw [BitVec.toNat_shiftLeft, Nat.shiftLeft_eq, Nat.mul_comm]
  · rw [BitVec.toNat_ushiftRight, Nat.shiftRight_eq_div_pow]

namespace Registers

theorem numbers_write (registers : Registers) (x : Nibble) (value : Byte) :
    (registers.write x value).numbers = Function.update registers.numbers x value.toNat := by
  funext z
  rw [numbers, read_write, Function.update_apply]
  by_cases same : z = x
  next => simp [same]
  next => simp [same, Ne.symm same, numbers]

theorem numbers_injective : Function.Injective Registers.numbers := by
  intro left right same
  apply ext_read
  intro x
  exact BitVec.eq_of_toNat_eq (congrFun same x)

end Registers

namespace Counters

theorem numbers_of_has (counters : Counters) (handle : Handle) (present : counters.Has handle) :
    counters.numbers handle.counter = some (counters.get handle).toNat := by
  have found : counters.values[handle.counter]? = some (counters.get handle) := by
    rw [get, Array.getD_eq_getD_getElem?, Array.getElem?_eq_getElem present, Option.getD_some]
  rw [numbers, found, Option.map_some]

theorem numbers_set (counters : Counters) (handle : Handle) (value : Byte)
    (present : counters.Has handle) :
    (counters.set handle value).numbers =
      Function.update counters.numbers handle.counter (some value.toNat) := by
  have inside : handle.counter < counters.values.size := present
  funext place
  rw [numbers, set, Array.getElem?_setIfInBounds, Function.update_apply]
  by_cases same : place = handle.counter
  next => simp [same, inside]
  next => simp [same, Ne.symm same, numbers]

theorem numbers_injective : Function.Injective Counters.numbers := by
  intro left right same
  have values : left.values = right.values := by
    apply Array.ext_getElem?
    intro place
    exact Option.map_injective BitVec.toNat_injective (congrFun same place)
  exact congrArg Counters.mk values

end Counters

namespace Processor

theorem numbers_setRegister (processor : Processor) (x : Nibble) (value : Byte) :
    (processor.setRegister x value).numbers = processor.numbers.put x value.toNat := by
  simp only [numbers, setRegister, Numbers.put, Registers.numbers_write]

theorem numbers_injective : Function.Injective Processor.numbers := by
  intro left right same
  obtain ⟨_, _, _, _, _, ⟨_, _⟩, ⟨_, ⟨_⟩, ⟨_⟩, _, _⟩, _, _⟩ := left
  obtain ⟨_, _, _, _, _, ⟨_, _⟩, ⟨_, ⟨_⟩, ⟨_⟩, _, _⟩, _, _⟩ := right
  simp only [numbers, Numbers.mk.injEq] at same
  obtain ⟨registers, index, counter, calls, memory, lit, written, counters, delay, sound, random,
    policy⟩ := same
  cases Registers.numbers_injective registers
  cases BitVec.toNat_injective index
  cases BitVec.toNat_injective counter
  cases List.map_injective_iff.mpr BitVec.toNat_injective calls
  cases Memory.ext_get? fun address _ =>
    Option.map_injective BitVec.toNat_injective (congrFun memory address)
  cases Frame.ext_lit (congrFun lit)
  cases written
  cases Counters.numbers_injective counters
  cases delay
  cases sound
  cases random
  cases policy
  rfl

theorem numbers_combine (processor : Processor) (op : Arith) (x y : Nibble) :
    ({ processor with registers := processor.registers.combine op x y } : Processor).numbers =
      op.meaning processor.numbers x y := by
  cases op with
  | move => exact processor.numbers_setRegister x _
  | or =>
    refine (processor.numbers_setRegister x _).trans ?_
    rw [BitVec.toNat_or]
    rfl
  | and =>
    refine (processor.numbers_setRegister x _).trans ?_
    rw [BitVec.toNat_and]
    rfl
  | xor =>
    refine (processor.numbers_setRegister x _).trans ?_
    rw [BitVec.toNat_xor]
    rfl
  | add =>
    refine ((processor.setRegister Registers.flag _).numbers_setRegister x _).trans ?_
    rw [numbers_setRegister, toNat_carry, BitVec.toNat_add]
    rfl
  | sub =>
    refine ((processor.setRegister Registers.flag _).numbers_setRegister x _).trans ?_
    rw [numbers_setRegister, toNat_noBorrow, toNat_difference]
    rfl
  | shiftRight =>
    refine ((processor.setRegister x _).numbers_setRegister Registers.flag _).trans ?_
    rw [numbers_setRegister, (toNat_shiftedRight _).1, (toNat_shiftedRight _).2]
    rfl
  | shiftLeft =>
    refine ((processor.setRegister x _).numbers_setRegister Registers.flag _).trans ?_
    rw [numbers_setRegister, (toNat_shiftedLeft _).1, (toNat_shiftedLeft _).2]
    rfl

theorem numbers_setTimer (processor : Processor) (role : TimerRole) (value : Byte) :
    ({ processor with timers := processor.timers.set role value } : Processor).numbers =
      processor.numbers.store (processor.timers.handle role).counter value.toNat := by
  have stored := processor.timers.counters.numbers_set _ value (processor.timers.has_handle role)
  exact congrArg (fun counters => { processor.numbers with counters := counters }) stored

theorem toNat_jumpBeyond (target : Address) (offset : Byte) :
    (target.setWidth 16 + offset.setWidth 16 : Word).toNat = target.toNat + offset.toNat := by
  have low := target.isLt
  have high := offset.isLt
  rw [BitVec.toNat_add, BitVec.toNat_setWidth_of_le (by decide),
    BitVec.toNat_setWidth_of_le (by decide)]
  omega

theorem goBack_succeeds_iff (processor : Processor) :
    processor.goBack.2 = .ok () ↔ processor.calls ≠ [] := by
  rw [goBack]
  split
  next empty => simp [empty]
  next pending => simp [pending]

theorem perform_succeeds_iff (processor : Processor) (instruction : Instruction)
    (other : ∀ x y height, instruction ≠ .draw x y height) :
    (processor.perform instruction).2 = .ok () ↔
      (instruction = .ret → processor.calls ≠ []) := by
  cases instruction with
  | ret =>
    rw [perform, goBack_succeeds_iff]
    simp
  | draw x y height => exact absurd rfl (other x y height)
  | _ => simp [perform]

theorem perform_meaning (processor : Processor) (instruction : Instruction)
    (other : ∀ x y height, instruction ≠ .draw x y height)
    (done : (processor.perform instruction).2 = .ok ()) :
    instruction.meaning processor.numbers = some (processor.perform instruction).1.numbers := by
  have wide (target : Address) : (target.setWidth 16 : Word).toNat = target.toNat :=
    BitVec.toNat_setWidth_of_le (by decide)
  cases instruction with
  | clear =>
    have dark : processor.display.clear.lit = fun _ => false :=
      funext processor.display.lit_clear
    simp only [perform, numbers, dark]
    rfl
  | ret =>
    rw [perform, goBack] at done ⊢
    split at done
    next => cases done
    next back earlier pending =>
      simp only [Instruction.meaning, numbers, pending]
      rfl
  | jump target =>
    simp only [perform, numbers, wide]
    rfl
  | call target =>
    simp only [perform, numbers, wide]
    rfl
  | load x value =>
    rw [perform, numbers_setRegister]
    rfl
  | increase x value =>
    rw [perform, numbers_setRegister, BitVec.toNat_add]
    rfl
  | arith op x y =>
    rw [perform, numbers_combine]
    rfl
  | point target =>
    simp only [perform, numbers, wide]
    rfl
  | jumpBeyond target =>
    simp only [perform, numbers, toNat_jumpBeyond]
    rfl
  | random x mask =>
    have masked := processor.numbers_setRegister x (processor.random.next.1 &&& mask)
    rw [BitVec.toNat_and] at masked
    exact congrArg (fun numbers => some { numbers with random := processor.random.next.2 })
      masked.symm
  | draw x y height => exact absurd rfl (other x y height)
  | readDelay x =>
    have read := processor.timers.counters.numbers_of_has _ processor.timers.hasDelay
    have value : processor.numbers.counters processor.numbers.delay = _ := read
    rw [perform, numbers_setRegister, Instruction.meaning, value]
    rfl
  | setDelay x =>
    rw [perform, numbers_setTimer]
    rfl
  | setSound x =>
    rw [perform, numbers_setTimer]
    rfl

/--
Executing a word with an instruction, sprites apart, ends in exactly the state of
its meaning. It fails only where a return finds no call.
-/
theorem execute_meaning (processor : Processor) (word : Word) (instruction : Instruction)
    (decoded : Instruction.decode word = some instruction)
    (other : ∀ x y height, instruction ≠ .draw x y height) :
    ((processor.execute word).answer = .ok () ↔ (instruction = .ret → processor.calls ≠ [])) ∧
      ((processor.execute word).answer = .ok () →
        instruction.meaning processor.numbers = some (processor.execute word).state.numbers) ∧
      ∀ expected : Processor, (processor.execute word).answer = .ok () →
        instruction.meaning processor.numbers = some expected.numbers →
          (processor.execute word).state = expected := by
  rw [processor.execute_of_decode decoded]
  have means := processor.perform_meaning instruction other
  refine ⟨processor.perform_succeeds_iff instruction other, means, ?_⟩
  intro expected done known
  exact numbers_injective (Option.some.inj ((means done).symm.trans known))

theorem execute_meaning_flag :
    let processor : Processor :=
      { Processor.fresh .fail (Random.cycle 0 []) with
        registers := (Registers.zero.write 0xF 200).write 0x1 101 }
    (processor.execute 0x8F14).state.registers.read 0xF = 45 ∧
      (processor.execute 0x8F16).state.registers.read 0xF = 1 := by
  intro processor
  have added := execute_meaning processor 0x8F14 (.arith .add 0xF 0x1) (by decide) nofun
  have shifted := execute_meaning processor 0x8F16 (.arith .shiftRight 0xF 0x1) (by decide) nofun
  have sum := Option.some.inj (added.2.1 (added.1.mpr nofun))
  have bit := Option.some.inj (shifted.2.1 (shifted.1.mpr nofun))
  constructor
  · apply BitVec.eq_of_toNat_eq
    change (processor.execute 0x8F14).state.numbers.register 0xF = 45
    rw [← sum]
    decide
  · apply BitVec.eq_of_toNat_eq
    change (processor.execute 0x8F16).state.numbers.register 0xF = 1
    rw [← bit]
    decide

end Processor

end Chip8
