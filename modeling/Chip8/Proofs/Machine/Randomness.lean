import Chip8.Proofs.Machine.Alteration
import Chip8.Proofs.Machine.Contents

set_option autoImplicit false

namespace Chip8

namespace Alteration

def stream (words : Nat → UInt32) : Alteration where
  random := fun source => { source with words := words }
  unknownWords := id
  settings := id
  advance_random := fun _ _ => rfl
  timerRate_settings := fun _ => rfl

def seed (entropy : Entropy) (seed : UInt64) : Alteration :=
  { stream (entropy.seeded seed) with
    settings := fun old => { old with seed := some seed }
    timerRate_settings := fun _ => rfl }

theorem keeps_of_zeros (change : Alteration) (source : Random) (masks : List Byte)
    (zeros : ∀ mask ∈ masks, mask = 0) : change.Keeps source masks := by
  intro place mask found
  simp [zeros mask (List.mem_of_getElem? found)]

end Alteration

theorem Processor.read_step_of_random (processor : Processor) {x : Nibble} {mask : Byte}
    (executes : processor.Executes (.random x mask)) :
    processor.step.state.registers.read x = processor.random.next.1 &&& mask := by
  rw [processor.state_step_of_executes executes]
  exact Registers.read_write_self _ x _

namespace Machine

def restream (machine : Machine) (words : Nat → UInt32) : Machine :=
  machine.alter (.stream words)

@[simp]
theorem registers_restream (machine : Machine) (words : Nat → UInt32) :
    (machine.restream words).processor.registers = machine.processor.registers := rfl

def reseed (machine : Machine) (entropy : Entropy) (seed : UInt64) : Machine :=
  machine.alter (.seed entropy seed)

theorem fresh_reseed (settings : Settings) (entropy : Entropy) (first second : UInt64) :
    (Machine.fresh { settings with seed := some first } entropy).reseed entropy second =
      Machine.fresh { settings with seed := some second } entropy := rfl

/--
Over any history each random instruction takes one byte, and nothing else takes any;
so the next one uses the byte behind those of the random instructions before it.
Hence two sources that agree in the bits their masks select lead through the same
states and the same answers and journals. Where all masks are zero, so do two seeds.
-/
theorem masked_bits_decide (machine : Machine) (actions : List Action) :
    let later := machine.actAll actions
    let taken := machine.gather masks actions
    let source := machine.processor.random
    later.processor.random = source.advance taken.length ∧
      (∀ x mask, later.processor.Executes (.random x mask) →
        (later.act .step).processor.registers.read x = source.upcoming taken.length &&& mask ∧
          (later.act .step).processor.random = source.advance (taken.length + 1)) ∧
      (∀ words : Nat → UInt32,
        let other : Random := { source with words := words }
        (∀ place mask, taken[place]? = some mask →
          other.upcoming place &&& mask = source.upcoming place &&& mask) →
            (machine.restream words).actAll actions = later.restream words ∧
              (machine.restream words).gather told actions = machine.gather told actions) ∧
      ∀ (settings : Settings) (entropy : Entropy) (first second : UInt64),
        machine = Machine.fresh { settings with seed := some first } entropy →
          (∀ mask ∈ taken, mask = 0) →
            let other := Machine.fresh { settings with seed := some second } entropy
            other.actAll actions = later.reseed entropy second ∧
              other.gather told actions = machine.gather told actions := by
  intro later taken source
  have position : later.processor.random = source.advance taken.length :=
    machine.random_actAll actions
  refine ⟨position, ?_, ?_, ?_⟩
  · intro x mask executes
    constructor
    · rw [processor_act_step, later.processor.read_step_of_random executes, position]
      rfl
    · rw [processor_act_step, later.processor.random_step, position,
        later.processor.mask?_of_random executes]
      exact (source.advance_add taken.length 1).symm
  · intro words other same
    have keeps : (Alteration.stream words).Keeps source taken := same
    exact ⟨machine.actAll_alter _ actions keeps,
      machine.gather_told_alter _ actions keeps fun _ => rfl⟩
  · rintro settings entropy first second rfl zeros
    have keeps := (Alteration.seed entropy second).keeps_of_zeros source taken zeros
    rw [← fresh_reseed settings entropy first second]
    exact ⟨actAll_alter _ _ actions keeps, gather_told_alter _ _ actions keeps fun _ => rfl⟩

theorem masked_bits_decide_half :
    let machine : Machine :=
      { processor :=
          { Processor.fresh .fail (Random.cycle 0x1A []) with memory := .image [0xC1, 0x0F] }
        settings := .standard }
    let other := machine.restream fun _ => 0x2A
    let entropy : Entropy := { seeded := fun seed _ => seed.toUInt32, unseeded := .cycle 0 [] }
    let seeded seed := Machine.fresh { Settings.standard with seed := some seed } entropy
    let blind : List Action := [.load (.ofBytes [0xC1, 0x00]), .step]
    ((machine.act .step).processor.registers.read 1 = 0x0A ∧
        (other.act .step).processor.registers.read 1 = 0x0A ∧
        other.gather told [.step] = machine.gather told [.step]) ∧
      (seeded 1).gather masks blind = [0] ∧
      (seeded 2).gather told blind = (seeded 1).gather told blind := by
  intro machine other entropy seeded blind
  have executes : machine.processor.Executes (.random 1 0x0F) :=
    machine.processor.executes_of_image 0 rfl rfl (by decide) (by decide)
  have drawn : machine.gather masks [.step] = [0x0F] := by
    rw [gather, gather, masks, machine.processor.mask?_of_random executes]
    rfl
  have value : (machine.act .step).processor.registers.read 1 = 0x0A :=
    ((masked_bits_decide machine []).2.1 1 0x0F executes).1.trans (by decide)
  have agree : ∀ place mask, (machine.gather masks [.step])[place]? = some mask →
      ({ machine.processor.random with words := fun _ => 0x2A } : Random).upcoming place &&& mask =
        machine.processor.random.upcoming place &&& mask := by
    rw [drawn]
    intro place mask found
    obtain ⟨rfl, rfl⟩ : place = 0 ∧ mask = 0x0F := by
      cases place with
      | zero => simpa using found.symm
      | succ place => simp at found
    decide
  obtain ⟨states, tells⟩ := (masked_bits_decide machine [.step]).2.2.1 (fun _ => 0x2A) agree
  have same : other.act .step = (machine.act .step).restream fun _ => 0x2A := states
  refine ⟨⟨value, by rw [same, registers_restream, value], tells⟩, ?_⟩
  let loaded := (seeded 1).act (.load (.ofBytes [0xC1, 0x00]))
  have memory : loaded.processor.memory = .image [0xC1, 0x00] :=
    (seeded 1).memory_act _ [] Memory.fresh_eq_image
  have blindly : loaded.processor.Executes (.random 1 0) :=
    loaded.processor.executes_of_image 0 memory rfl (by decide) (by decide)
  have oneStep (fresh : Machine) (stream : Stream) :
      fresh.gather masks [.load stream, .step] =
        (fresh.act (.load stream)).processor.mask?.toList := by
    simp [gather, masks]
  have zeros : (seeded 1).gather masks blind = [0] := by
    rw [oneStep, Processor.mask?_of_random _ blindly]
    rfl
  have seeds := (masked_bits_decide (seeded 1) blind).2.2.2 Settings.standard entropy
    1 2 rfl (by rw [zeros]; simp)
  exact ⟨zeros, seeds.2⟩

end Machine

end Chip8
