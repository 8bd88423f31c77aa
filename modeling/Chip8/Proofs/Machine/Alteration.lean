import Chip8.Proofs.Machine.History
import Chip8.Proofs.Processor.Stepping

set_option autoImplicit false

namespace Chip8

namespace Random

def advance (random : Random) (count : Nat) : Random :=
  { random with taken := random.taken + count }

def upcoming (random : Random) (place : Nat) : Byte := random.byteAt (random.taken + place)

@[simp]
theorem advance_zero (random : Random) : random.advance 0 = random := rfl

theorem advance_add (random : Random) (count more : Nat) :
    random.advance (count + more) = (random.advance count).advance more := by
  simp [advance, Nat.add_assoc]

theorem upcoming_add (random : Random) (count place : Nat) :
    random.upcoming (count + place) = (random.advance count).upcoming place := by
  simp [upcoming, advance, byteAt, Nat.add_assoc]

end Random

/-- Another random source that is taken from as before, and other settings at the same rate. -/
structure Alteration where
  random : Random → Random
  unknownWords : UnknownWords → UnknownWords
  settings : Settings → Settings
  advance_random (source : Random) (count : Nat) :
    (random source).advance count = random (source.advance count)
  timerRate_settings (old : Settings) : (settings old).timerRate = old.timerRate

namespace Alteration

/-- Of the bytes to come, the bits that these masks select in turn are as before. -/
def Keeps (change : Alteration) (source : Random) (masks : List Byte) : Prop :=
  ∀ place mask, masks[place]? = some mask →
    (change.random source).upcoming place &&& mask = source.upcoming place &&& mask

theorem Keeps.left {change : Alteration} {source : Random} {masks others : List Byte}
    (keeps : change.Keeps source (masks ++ others)) : change.Keeps source masks := by
  intro place mask found
  have inside := (List.getElem?_eq_some_iff.mp found).1
  apply keeps place mask
  simpa [List.getElem?_append_left inside] using found

theorem Keeps.right {change : Alteration} {source : Random} {masks others : List Byte}
    (keeps : change.Keeps source (masks ++ others)) :
    change.Keeps (source.advance masks.length) others := by
  intro place mask found
  have kept := keeps (masks.length + place) mask
    (by simpa [List.getElem?_append_right] using found)
  rwa [Random.upcoming_add, Random.upcoming_add, change.advance_random] at kept

end Alteration

namespace Processor

def mask? (processor : Processor) : Option Byte :=
  match processor.instruction? with
  | some (.random _ mask) => some mask
  | _ => none

theorem mask?_of_random (processor : Processor) {x : Nibble} {mask : Byte}
    (executes : processor.Executes (.random x mask)) : processor.mask? = some mask := by
  rw [mask?, processor.instruction?_of_executes executes]

theorem random_step (processor : Processor) :
    processor.step.state.random = processor.random.advance processor.mask?.toList.length := by
  rw [processor.part_step random fun _ => rfl, mask?]
  cases processor.instruction? with
  | none => rfl
  | some instruction =>
    simp only [random_perform]
    cases instruction <;> rfl

def alter (processor : Processor) (change : Alteration) : Processor :=
  { processor with
    random := change.random processor.random
    unknownWords := change.unknownWords processor.unknownWords }

section Altered

variable (processor : Processor) (change : Alteration)

theorem goBack_alter :
    (processor.alter change).goBack =
      (processor.goBack.1.alter change, processor.goBack.2) := by
  have calls : (processor.alter change).calls = processor.calls := rfl
  simp only [goBack, calls]
  split
  next => rfl
  next => rfl

theorem draw_alter (x y height : Nibble) :
    (processor.alter change).draw x y height =
      ((processor.draw x y height).1.alter change, (processor.draw x y height).2) := by
  have bytes : (processor.alter change).memory.readRange (processor.alter change).index.toNat
      (visibleRows ((processor.alter change).spriteOrigin x y) height) =
        processor.memory.readRange processor.index.toNat
          (visibleRows (processor.spriteOrigin x y) height) := rfl
  simp only [draw, bytes]
  split
  next => rfl
  next => rfl

theorem perform_alter (instruction : Instruction)
    (kept : ∀ x mask, instruction = .random x mask →
      (change.random processor.random).next.1 &&& mask = processor.random.next.1 &&& mask) :
    (processor.alter change).perform instruction =
      ((processor.perform instruction).1.alter change, (processor.perform instruction).2) := by
  cases instruction with
  | ret => exact processor.goBack_alter change
  | draw x y height => exact processor.draw_alter change x y height
  | random x mask =>
    have byte := kept x mask rfl
    have source : (change.random processor.random).next.2 = change.random processor.random.next.2 :=
      change.advance_random processor.random 1
    simp [perform, alter, setRegister, byte, source]
  | _ => rfl

variable (keeps : change.Keeps processor.random processor.mask?.toList)
include keeps

theorem perform_fetched_alter {instruction : Instruction}
    (executes : processor.Executes instruction) :
    (processor.alter change).fetched.perform instruction =
      ((processor.fetched.perform instruction).1.alter change,
        (processor.fetched.perform instruction).2) := by
  apply processor.fetched.perform_alter change
  rintro x mask rfl
  exact keeps 0 mask (by simp [processor.mask?_of_random executes])

theorem state_step_alter :
    (processor.alter change).step.state = processor.step.state.alter change := by
  cases processor.meets with
  | instruction instruction executes =>
    have same : (processor.alter change).Executes instruction := executes
    have performed := processor.perform_fetched_alter change keeps executes
    rw [step_of_executes _ same, processor.step_of_executes executes, performed]
  | unknownWord unknown =>
    have same : (processor.alter change).FindsNone := unknown
    rw [state_step_of_findsNone _ same, processor.state_step_of_findsNone unknown]
    rfl
  | noWord outside =>
    rw [step_of_le (processor.alter change) outside, processor.step_of_le outside]

theorem answer_step_alter
    (known : processor.FindsNone →
      change.unknownWords processor.unknownWords = processor.unknownWords) :
    (processor.alter change).step.answer = processor.step.answer ∧
      (processor.alter change).step.journal = processor.step.journal := by
  cases processor.meets with
  | instruction instruction executes =>
    have same : (processor.alter change).Executes instruction := executes
    have performed := processor.perform_fetched_alter change keeps executes
    rw [step_of_executes _ same, processor.step_of_executes executes, performed]
    exact ⟨rfl, rfl⟩
  | unknownWord unknown =>
    have same : (processor.alter change).FindsNone := unknown
    cases policy : processor.unknownWords with
    | skip =>
      have skips := (known unknown).trans policy
      rw [step_of_skip _ same skips, processor.step_of_skip unknown policy]
      exact ⟨rfl, rfl⟩
    | fail =>
      have fails := (known unknown).trans policy
      rw [step_of_fail _ same fails, processor.step_of_fail unknown policy]
      exact ⟨rfl, rfl⟩
  | noWord outside =>
    rw [step_of_le (processor.alter change) outside, processor.step_of_le outside]
    exact ⟨rfl, rfl⟩

end Altered

end Processor

namespace Machine

def alter (machine : Machine) (change : Alteration) : Machine :=
  { machine with
    processor := machine.processor.alter change
    settings := change.settings machine.settings }

def masks (machine : Machine) : Action → List Byte
  | .step => machine.processor.mask?.toList
  | _ => []

def told (machine : Machine) : Action → List (Except Fault Unit × List Event)
  | .step => [(machine.step.answer, machine.step.journal)]
  | _ => []

theorem startTimers_alter (machine : Machine) (change : Alteration) (sound : Sound) :
    ((machine.alter change).startTimers sound).state =
      (machine.startTimers sound).state.alter change := by
  have period : (machine.alter change).settings.timerPeriod? = machine.settings.timerPeriod? := by
    simp only [alter, Settings.timerPeriod?, change.timerRate_settings]
  simp only [startTimers, period]
  split
  next => rfl
  next => rfl

theorem random_act (machine : Machine) (action : Action) :
    (machine.act action).processor.random =
      machine.processor.random.advance (machine.masks action).length := by
  cases action with
  | step => exact machine.processor.random_step
  | startTimers sound => simp [act, processor_startTimers, masks]
  | _ => rfl

theorem random_actAll (machine : Machine) (actions : List Action) :
    (machine.actAll actions).processor.random =
      machine.processor.random.advance (machine.gather masks actions).length := by
  induction actions generalizing machine with
  | nil => rfl
  | cons action rest ih =>
    rw [actAll, ih, random_act, gather, List.length_append, Random.advance_add]

section Altered

variable (machine : Machine) (change : Alteration)

theorem act_alter (action : Action)
    (keeps : change.Keeps machine.processor.random (machine.masks action)) :
    (machine.alter change).act action = (machine.act action).alter change := by
  cases action with
  | step =>
    have stepped := machine.processor.state_step_alter change keeps
    simp only [act, step, alter, stepped]
  | startTimers sound => exact machine.startTimers_alter change sound
  | _ => rfl

theorem actAll_alter (actions : List Action)
    (keeps : change.Keeps machine.processor.random (machine.gather masks actions)) :
    (machine.alter change).actAll actions = (machine.actAll actions).alter change := by
  -- The source moves on by the bytes of the first action, and the masks behind them are the rest's.
  induction actions generalizing machine with
  | nil => rfl
  | cons action rest ih =>
    have later := keeps.right
    rw [← random_act] at later
    rw [actAll, act_alter machine change action keeps.left]
    exact ih (machine.act action) later

theorem gather_told_alter (actions : List Action)
    (keeps : change.Keeps machine.processor.random (machine.gather masks actions))
    (known : ∀ policy, change.unknownWords policy = policy) :
    (machine.alter change).gather told actions = machine.gather told actions := by
  induction actions generalizing machine with
  | nil => rfl
  | cons action rest ih =>
    have later := keeps.right
    rw [← random_act] at later
    rw [gather, gather, act_alter machine change action keeps.left,
      ih (machine.act action) later]
    cases action with
    | step =>
      obtain ⟨answers, journals⟩ := machine.processor.answer_step_alter change keeps.left
        fun _ => known machine.processor.unknownWords
      simp only [told, answer_step, journal_step, alter, answers, journals]
    | _ => rfl

end Altered

end Machine

end Chip8
