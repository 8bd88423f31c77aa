import Chip8.Proofs.Machine.Alteration

set_option autoImplicit false

namespace Chip8

def Alteration.policy (unknownWords : UnknownWords) : Alteration where
  random := id
  unknownWords := fun _ => unknownWords
  settings := fun old => { old with unknownWords := unknownWords }
  advance_random := fun _ _ => rfl
  timerRate_settings := fun _ => rfl

theorem Alteration.policy_keeps (unknownWords : UnknownWords) (source : Random)
    (masks : List Byte) : (policy unknownWords).Keeps source masks :=
  fun _ _ _ => rfl

namespace Processor

theorem eq_alter_policy {left right : Processor} {policy : UnknownWords}
    (same : left.alter (.policy .skip) = right.alter (.policy .skip))
    (known : right.unknownWords = policy) : right = left.alter (.policy policy) := by
  subst known
  calc
    right = (right.alter (.policy .skip)).alter (.policy right.unknownWords) := rfl
    _ = (left.alter (.policy .skip)).alter (.policy right.unknownWords) := by rw [same]
    _ = left.alter (.policy right.unknownWords) := rfl

end Processor

namespace Machine

def withPolicy (machine : Machine) (unknownWords : UnknownWords) : Machine :=
  machine.alter (.policy unknownWords)

theorem actAll_withPolicy (machine : Machine) (unknownWords : UnknownWords)
    (actions : List Action) :
    (machine.withPolicy unknownWords).actAll actions =
      (machine.actAll actions).withPolicy unknownWords := by
  apply actAll_alter
  apply Alteration.policy_keeps

theorem unknownWords_act (machine : Machine) (action : Action) :
    (machine.act action).processor.unknownWords = machine.processor.unknownWords := by
  cases action with
  | step => exact machine.processor.unknownWords_step
  | startTimers sound => rw [act, processor_startTimers]
  | _ => rfl

theorem unknownWords_actAll (machine : Machine) (actions : List Action) :
    (machine.actAll actions).processor.unknownWords = machine.processor.unknownWords := by
  apply holds_actAll (fun later => later.processor.unknownWords = machine.processor.unknownWords)
  · intro later action same
    exact (later.unknownWords_act action).trans same
  · rfl

/--
Two machines that are equal but for their policies stay so over any history, and
every step of the two tells the same. Only where it finds an unknown word, the one
succeeds and warns, and the other fails without a warning.
-/
theorem policy_tells_apart (left right : Machine)
    (same : left.withPolicy .skip = right.withPolicy .skip)
    (skips : left.processor.unknownWords = .skip) (fails : right.processor.unknownWords = .fail)
    (actions : List Action) :
    let lenient := left.actAll actions
    let strict := right.actAll actions
    let processor := lenient.processor
    let word := processor.wordAtCounter
    let behind := processor.counter + 2
    let traced := Event.executing word processor.registers processor.index behind
    let warned := Event.skipped word behind
    (lenient.withPolicy .skip = strict.withPolicy .skip ∧
        processor.unknownWords = .skip ∧ strict.processor.unknownWords = .fail) ∧
      (¬ processor.FindsNone →
        lenient.step.answer = strict.step.answer ∧
          lenient.step.journal = strict.step.journal) ∧
      (processor.FindsNone →
        (lenient.step.answer = .ok () ∧ lenient.step.journal = [traced, warned]) ∧
          (strict.step.answer = .error (.unknownWord word) ∧ strict.step.journal = [traced]) ∧
            traced.level = .trace ∧ warned.level = .warn) := by
  intro lenient strict processor word behind traced warned
  have still : lenient.withPolicy .skip = strict.withPolicy .skip := by
    rw [← actAll_withPolicy, ← actAll_withPolicy, same]
  have skipping : processor.unknownWords = .skip := (left.unknownWords_actAll actions).trans skips
  have failing : strict.processor.unknownWords = .fail :=
    (right.unknownWords_actAll actions).trans fails
  -- The strict machine is the lenient one with its policy altered, so one step tells of both.
  have other : strict.processor = processor.alter (.policy .fail) :=
    Processor.eq_alter_policy (congrArg Machine.processor still) failing
  refine ⟨⟨still, skipping, failing⟩, fun known => ?_, fun unknown => ?_⟩
  · obtain ⟨answers, journals⟩ := processor.answer_step_alter (.policy .fail)
      (Alteration.policy_keeps _ _ _) fun unknown => absurd unknown known
    rw [answer_step, answer_step, journal_step, journal_step, other]
    exact ⟨answers.symm, journals.symm⟩
  · have strictly : (processor.alter (.policy .fail)).FindsNone := unknown
    have skipped := processor.step_of_skip unknown skipping
    have failed := Processor.step_of_fail _ strictly rfl
    rw [answer_step, answer_step, journal_step, journal_step, other, skipped, failed]
    exact ⟨⟨rfl, rfl⟩, ⟨rfl, rfl⟩, rfl, rfl⟩

theorem policy_tells_apart_clear :
    let left : Machine :=
      { processor :=
          { Processor.fresh .skip (Random.cycle 0 []) with
            memory := .image [0x31, 0x11, 0x00, 0xE0] }
        settings := .standard }
    let right := left.withPolicy .fail
    left.step.answer = .ok () ∧
      right.step.answer = .error (.unknownWord 0x3111) ∧
      (left.act .step).step.answer = (right.act .step).step.answer := by
  intro left right
  have first : left.processor.wordAtCounter = 0x3111 :=
    left.processor.wordAtCounter_of_image 0 rfl rfl (by decide)
  have unknown : left.processor.FindsNone :=
    left.processor.findsNone_of_image 0 rfl rfl (by decide) (by decide)
  have moved : (left.act .step).processor = left.processor.fetched :=
    left.processor_act_step.trans (left.processor.state_step_of_findsNone unknown)
  have clears : left.processor.fetched.Executes .clear :=
    left.processor.fetched.executes_of_image 2 rfl rfl (by decide) (by decide)
  have known : ¬ (left.act .step).processor.FindsNone := by
    rw [moved]
    exact clears.not_findsNone
  have apart := (policy_tells_apart left right rfl rfl rfl []).2.2 unknown
  have alike := (policy_tells_apart left right rfl rfl rfl [.step]).2.1 known
  refine ⟨apart.1.1, apart.2.1.1.trans ?_, alike.1⟩
  exact congrArg (fun word => Except.error (Fault.unknownWord word)) first

end Machine

end Chip8
