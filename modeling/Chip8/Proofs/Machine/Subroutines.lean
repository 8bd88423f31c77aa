import Chip8.Proofs.Machine.History
import Chip8.Proofs.Processor.Stepping

set_option autoImplicit false

namespace Chip8

namespace Processor

inductive CallsStep (processor : Processor) : Prop where
  | keeps (same : processor.step.state.calls = processor.calls)
  | enters (target : Address) (executes : processor.Executes (.call target))
      (pushed : processor.step.state.calls = (processor.counter + 2) :: processor.calls)
  | leaves (back : Word) (executes : processor.Executes .ret)
      (popped : processor.calls = back :: processor.step.state.calls)
      (resumed : processor.step.state.counter = back) (done : processor.step.answer = .ok ())

theorem calls_step_of_executes (processor : Processor) {instruction : Instruction}
    (executes : processor.Executes instruction) :
    processor.step.state.calls =
      match instruction with
      | .call _ => (processor.counter + 2) :: processor.calls
      | .ret => processor.calls.tail
      | _ => processor.calls := by
  rw [processor.state_step_of_executes executes, calls_perform]
  cases instruction <;> rfl

theorem callsStep (processor : Processor) : processor.CallsStep := by
  rcases processor.executes_or_idle with ⟨instruction, executes⟩ | still | moved
  · have changed := processor.calls_step_of_executes executes
    cases instruction with
    | call target => exact .enters target executes changed
    | ret =>
      cases pending : processor.calls with
      | nil => exact .keeps (by rw [changed, pending, List.tail_nil])
      | cons back earlier =>
        obtain ⟨done, resumed⟩ := processor.step_of_ret_cons executes back earlier pending
        refine .leaves back executes ?_ resumed done
        rw [changed, pending, List.tail_cons]
    | _ => exact .keeps changed
  · exact .keeps (by rw [still])
  · exact .keeps (by rw [moved]; rfl)

end Processor

namespace Machine

def StaysAbove (machine : Machine) (depth : Nat) (actions : List Action) : Prop :=
  ∀ count, depth < (machine.actAll (actions.take count)).processor.calls.length

theorem StaysAbove.tail {machine : Machine} {depth : Nat} {action : Action}
    {rest : List Action} (stays : machine.StaysAbove depth (action :: rest)) :
    (machine.act action).StaysAbove depth rest := by
  intro count
  exact stays (count + 1)

theorem StaysAbove.nil {machine : Machine} {depth : Nat}
    (above : depth < machine.processor.calls.length) : machine.StaysAbove depth [] := by
  intro count
  rw [List.take_nil]
  exact above

theorem StaysAbove.cons {machine : Machine} {depth : Nat} {action : Action} {rest : List Action}
    (above : depth < machine.processor.calls.length)
    (later : (machine.act action).StaysAbove depth rest) :
    machine.StaysAbove depth (action :: rest) := by
  intro count
  cases count with
  | zero => exact above
  | succ count => exact later count

/-- The action is the return from the call at that depth, and resumes behind it. -/
structure Returns (machine : Machine) (action : Action) (back : Word) (earlier : List Word) :
    Prop where
  step : action = .step
  executes : machine.processor.Executes .ret
  done : machine.step.answer = .ok ()
  calls : (machine.act action).processor.calls = earlier
  counter : (machine.act action).processor.counter = back

theorem calls_act_of_ne_step (machine : Machine) (action : Action) (other : action ≠ .step) :
    (machine.act action).processor.calls = machine.processor.calls := by
  cases action with
  | step => exact absurd rfl other
  | startTimers sound => rw [act, processor_startTimers]
  | _ => rfl

theorem suffix_or_returns (machine : Machine) (action : Action) (back : Word)
    (earlier : List Word) (pending : back :: earlier <:+ machine.processor.calls) :
    back :: earlier <:+ (machine.act action).processor.calls ∨
      machine.Returns action back earlier := by
  by_cases stepping : action = .step
  next =>
    subst stepping
    rw [processor_act_step]
    cases machine.processor.callsStep with
    | keeps same => exact .inl (same ▸ pending)
    | enters target executes pushed =>
      rw [pushed]
      exact .inl (pending.trans (List.suffix_cons _ _))
    | leaves top executes popped resumed done =>
      rw [popped] at pending
      -- The address taken away is either a newer one or the one in question.
      rcases List.suffix_cons_iff.mp pending with same | below
      · obtain ⟨rfl, left⟩ := List.cons.inj same
        exact .inr ⟨rfl, executes, done, left.symm, resumed⟩
      · exact .inl below
  next => exact .inl ((machine.calls_act_of_ne_step action stepping).symm ▸ pending)

theorem suffix_of_staysAbove (machine : Machine) (actions : List Action) (back : Word)
    (earlier : List Word) (stays : machine.StaysAbove earlier.length actions)
    (pending : back :: earlier <:+ machine.processor.calls) :
    back :: earlier <:+ (machine.actAll actions).processor.calls := by
  induction actions generalizing machine with
  | nil => exact pending
  | cons action rest ih =>
    rcases machine.suffix_or_returns action back earlier pending with still | returns
    · exact ih (machine.act action) stays.tail still
    · -- Such a return leaves too few calls for a history that stays above.
      have above := stays 1
      rw [List.take_succ_cons, List.take_zero, actAll, actAll, returns.calls] at above
      exact absurd above (Nat.lt_irrefl _)

/--
A call puts the address behind it on top of the earlier ones. In every history
that follows, this address and those below it stay as they are while there are
more calls than before, and the first action that leaves as many is the return
to that address.
-/
theorem call_nests (machine : Machine) (target : Address)
    (executes : machine.processor.Executes (.call target)) :
    let earlier := machine.processor.calls
    let back := machine.processor.counter + 2
    let called := machine.act .step
    (called.processor.calls = back :: earlier ∧
        back.toNat = machine.processor.counter.toNat + 2) ∧
      ∀ actions, called.StaysAbove earlier.length actions →
        let later := called.actAll actions
        back :: earlier <:+ later.processor.calls ∧
          ∀ action, (later.act action).processor.calls.length = earlier.length →
            later.Returns action back earlier := by
  intro earlier back called
  have pushed : called.processor.calls = back :: earlier :=
    machine.processor.calls_step_of_executes executes
  refine ⟨⟨pushed, machine.processor.toNat_counter_fetched executes.1⟩, ?_⟩
  intro actions stays later
  have pending : back :: earlier <:+ later.processor.calls :=
    called.suffix_of_staysAbove actions back earlier stays (pushed ▸ List.suffix_refl _)
  refine ⟨pending, fun action left => ?_⟩
  rcases later.suffix_or_returns action back earlier pending with still | returns
  · have longer := still.length_le
    rw [left, List.length_cons] at longer
    exact absurd longer (Nat.not_succ_le_self _)
  · exact returns

theorem call_nests_twice :
    let machine : Machine :=
      { processor :=
          { Processor.fresh .fail (Random.cycle 0 []) with
            memory := .image
              [0x22, 0x04, 0x00, 0x00, 0x31, 0x11, 0x22, 0x0A, 0x00, 0xEE, 0x00, 0xEE]
            calls := [0x300] }
        settings := .standard }
    let called := machine.act .step
    called.processor.calls = [0x202, 0x300] ∧
      called.step.answer = .error (.unknownWord 0x3111) ∧
      (called.actAll [.step, .step]).processor.calls = [0x208, 0x202, 0x300] ∧
      (called.actAll [.step, .step, .step]).Returns .step 0x202 [0x300] := by
  intro machine called
  have enters : machine.processor.Executes (.call 0x204) :=
    machine.processor.executes_of_image 0 rfl rfl (by decide) (by decide)
  let entered := (machine.processor.fetched.perform (.call 0x204)).1
  have first : called.processor = entered := machine.processor_act_of_executes enters
  have unknown : entered.FindsNone :=
    entered.findsNone_of_image 4 rfl rfl (by decide) (by decide)
  have second : (called.act .step).processor = entered.fetched := by
    rw [processor_act_step, first, entered.state_step_of_findsNone unknown]
  have nests : entered.fetched.Executes (.call 0x20A) :=
    entered.fetched.executes_of_image 6 rfl rfl (by decide) (by decide)
  let nested := (entered.fetched.fetched.perform (.call 0x20A)).1
  have third : ((called.act .step).act .step).processor = nested := by
    rw [processor_act_of_executes _ (second ▸ nests), second]
  have leaves : nested.Executes .ret :=
    nested.executes_of_image 10 rfl rfl (by decide) (by decide)
  let left := (nested.fetched.perform .ret).1
  have fourth : (((called.act .step).act .step).act .step).processor = left := by
    rw [processor_act_of_executes _ (third ▸ leaves), third]
  have returns : left.Executes .ret :=
    left.executes_of_image 8 rfl rfl (by decide) (by decide)
  have stays : called.StaysAbove 1 [.step, .step, .step] := by
    refine .cons ?_ (.cons ?_ (.cons ?_ (.nil ?_)))
    · rw [first]
      decide
    · rw [second]
      decide
    · rw [third]
      decide
    · rw [fourth]
      decide
  obtain ⟨⟨pushed, -⟩, awaits⟩ := call_nests machine 0x204 enters
  refine ⟨pushed, ?_, ?_, (awaits [.step, .step, .step] stays).2 .step ?_⟩
  · rw [answer_step, first, entered.step_of_fail unknown rfl,
      entered.wordAtCounter_of_image 4 rfl rfl (by decide)]
    rfl
  · rw [actAll, actAll, actAll, third]
    rfl
  · rw [actAll, actAll, actAll, actAll, processor_act_of_executes _ (fourth ▸ returns), fourth]
    rfl

end Machine

end Chip8
