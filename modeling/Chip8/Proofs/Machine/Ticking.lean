import Chip8.Proofs.Machine.Alteration
import Chip8.Proofs.Machine.Countdown
import Chip8.Proofs.Processor.Untimed

set_option autoImplicit false

namespace Chip8

def Action.ticks : Action → Bool
  | .tick => true
  | .tickClock _ => true
  | _ => false

def Action.untick (actions : List Action) : List Action :=
  actions.filter fun action => !action.ticks

theorem Action.untick_cons_of_ticks {action : Action} (ticks : action.ticks = true)
    (rest : List Action) : untick (action :: rest) = untick rest := by
  simp [untick, ticks]

theorem Action.untick_cons_of_not_ticks {action : Action} (ticks : action.ticks = false)
    (rest : List Action) : untick (action :: rest) = action :: untick rest := by
  simp [untick, ticks]

namespace Machine

def performed (machine : Machine) : Action → List Instruction
  | .step => machine.processor.instruction?.toList
  | _ => []

def stored (machine : Machine) : Action → List (TimerRole × Byte)
  | .step => machine.processor.store?.toList
  | _ => []

theorem untimed_act_of_ticks (machine : Machine) {action : Action} (ticks : action.ticks = true) :
    (machine.act action).processor.untimed = machine.processor.untimed ∧
      machine.told action = [] := by
  cases action with
  | tick => exact ⟨rfl, rfl⟩
  | tickClock role => exact ⟨rfl, rfl⟩
  | _ => cases ticks

theorem act_congr_untimed {left right : Machine}
    (same : left.processor.untimed = right.processor.untimed) (action : Action)
    (blind : ∀ x, .readDelay x ∉ left.performed action) :
    (left.act action).processor.untimed = (right.act action).processor.untimed ∧
      left.told action = right.told action := by
  cases action with
  | step =>
    have blindly (x : Nibble) : ¬ left.processor.Executes (.readDelay x) := by
      intro executes
      apply blind x
      simp [performed, left.processor.instruction?_of_executes executes]
    obtain ⟨answers, journals, states⟩ := Processor.step_congr_untimed same blindly
    have tells : left.told .step = right.told .step := by
      simp only [told, answer_step, journal_step, answers, journals]
    exact ⟨states, tells⟩
  | load stream =>
    have loaded := congrArg (fun processor : Processor =>
      { processor with memory := (processor.memory.loadStream stream).state }) same
    exact ⟨loaded, rfl⟩
  | takeFrame =>
    have taken := congrArg (fun processor : Processor =>
      { processor with display := processor.display.takeMark.2 }) same
    exact ⟨taken, rfl⟩
  | startTimers sound =>
    rw [act, act, processor_startTimers, processor_startTimers]
    exact ⟨same, rfl⟩
  | _ => exact ⟨same, rfl⟩

theorem actAll_congr_untimed {left right : Machine}
    (same : left.processor.untimed = right.processor.untimed) (actions : List Action)
    (blind : ∀ x, .readDelay x ∉ left.gather performed actions) :
    (left.actAll actions).processor.untimed =
        (right.actAll (Action.untick actions)).processor.untimed ∧
      left.gather told actions = right.gather told (Action.untick actions) := by
  -- The second machine stands still while the first one ticks.
  induction actions generalizing left right with
  | nil => exact ⟨same, rfl⟩
  | cons action rest ih =>
    have now (x : Nibble) : .readDelay x ∉ left.performed action := fun reads =>
      blind x (List.mem_append_left _ reads)
    have later (x : Nibble) : .readDelay x ∉ (left.act action).gather performed rest :=
      fun reads => blind x (List.mem_append_right _ reads)
    cases ticks : action.ticks with
    | true =>
      obtain ⟨still, silent⟩ := left.untimed_act_of_ticks ticks
      rw [Action.untick_cons_of_ticks ticks, actAll, gather, silent, List.nil_append]
      exact ih (still.trans same) later
    | false =>
      obtain ⟨states, tells⟩ := act_congr_untimed same action now
      obtain ⟨finals, rests⟩ := ih states later
      rw [Action.untick_cons_of_not_ticks ticks, actAll, actAll, gather, gather, tells, rests]
      exact ⟨finals, rfl⟩

end Machine

namespace Clock

theorem tick_zero (clock : Clock) : clock.tick 0 = (clock, 0) := by
  rw [tick]
  split
  next => cases clock.role <;> rfl
  next => rfl

theorem tickAll_zero (role : TimerRole) (clocks : List Clock) :
    tickAll role clocks 0 = (clocks, 0) := by
  induction clocks with
  | nil => rfl
  | cons clock rest ih =>
    have passed : (if clock.role = role then clock.tick 0 else (clock, 0)) = (clock, 0) := by
      rw [tick_zero, ite_self]
    simp only [tickAll, passed, ih]

end Clock

namespace Timers

def Zero (timers : Timers) : Prop := ∀ role, timers.get role = 0

theorem Zero.set {timers : Timers} (zero : timers.Zero) (role : TimerRole) :
    (timers.set role 0).Zero := by
  intro read
  rw [get_set, zero read, ite_self]

theorem Zero.tick {timers : Timers} (zero : timers.Zero) (role : TimerRole) :
    timers.tick role = (timers, false) := by
  have kept := timers.set_get_self role
  rw [zero role] at kept
  have lowered : countDown (timers.counters.get (timers.handle role)) = (0, false) :=
    congrArg countDown (zero role)
  rw [Timers.tick]
  simp only [Counters.tick, lowered]
  exact congrArg (·, false) kept

theorem Zero.tickBoth {timers : Timers} (zero : timers.Zero) :
    timers.tickBoth = (timers, false) := by
  rw [tickBoth_eq, zero.tick .delay, zero.tick .sound]

end Timers

namespace Machine

theorem act_of_ticks_zero (machine : Machine) (zero : machine.processor.timers.Zero)
    (action : Action) (ticks : action.ticks = true) :
    machine.act action = machine ∧ machine.beepsMade action = 0 := by
  cases action with
  | tick =>
    have ticked := zero.tickBoth
    have still : machine.tick = (machine, false) := by
      rw [tick, ticked]
      rfl
    simp [act, beepsMade, still]
  | tickClock role =>
    have still : machine.tickClock role = machine := by
      apply machine.tickClock_of_still role
      rw [zero role, Clock.tickAll_zero]
    simp [act, beepsMade, still]
  | _ => cases ticks

theorem timers_act_zero (machine : Machine) (zero : machine.processor.timers.Zero)
    (action : Action) (zeros : ∀ use ∈ machine.stored action, use.2 = 0) :
    (machine.act action).processor.timers.Zero ∧ machine.beepsMade action = 0 := by
  cases action with
  | step =>
    refine ⟨?_, rfl⟩
    rw [processor_act_step]
    cases stores : machine.processor.store? with
    | none =>
      rw [machine.processor.timers_step_of_no_store stores]
      exact zero
    | some use =>
      obtain ⟨role, value⟩ := use
      have nothing : value = 0 := zeros (role, value) (by simp [stored, stores])
      rw [machine.processor.timers_step_of_store stores, nothing]
      exact zero.set role
  | tick =>
    obtain ⟨still, silent⟩ := machine.act_of_ticks_zero zero .tick rfl
    rw [still]
    exact ⟨zero, silent⟩
  | tickClock role =>
    obtain ⟨still, silent⟩ := machine.act_of_ticks_zero zero (.tickClock role) rfl
    rw [still]
    exact ⟨zero, silent⟩
  | startTimers sound =>
    rw [act, processor_startTimers]
    exact ⟨zero, rfl⟩
  | _ => exact ⟨zero, rfl⟩

theorem timers_actAll_zero (machine : Machine) (zero : machine.processor.timers.Zero)
    (actions : List Action) (zeros : ∀ use ∈ machine.gather stored actions, use.2 = 0) :
    (machine.actAll actions).processor.timers.Zero ∧ machine.beepsAlong actions = 0 := by
  induction actions generalizing machine with
  | nil => exact ⟨zero, rfl⟩
  | cons action rest ih =>
    obtain ⟨now, later⟩ := List.forall_mem_append.mp zeros
    obtain ⟨still, silent⟩ := machine.timers_act_zero zero action now
    obtain ⟨stays, silently⟩ := ih (machine.act action) still later
    rw [beepsAlong_cons, silent, silently]
    exact ⟨stays, rfl⟩

theorem actAll_untick_zero (machine : Machine) (zero : machine.processor.timers.Zero)
    (actions : List Action) (zeros : ∀ use ∈ machine.gather stored actions, use.2 = 0) :
    machine.actAll actions = machine.actAll (Action.untick actions) ∧
      machine.gather told actions = machine.gather told (Action.untick actions) := by
  induction actions generalizing machine with
  | nil => exact ⟨rfl, rfl⟩
  | cons action rest ih =>
    obtain ⟨now, later⟩ := List.forall_mem_append.mp zeros
    obtain ⟨still, -⟩ := machine.timers_act_zero zero action now
    obtain ⟨states, tells⟩ := ih (machine.act action) still later
    -- A tick at zero changes nothing, so here the two runs stay one machine.
    cases ticks : action.ticks with
    | true =>
      obtain ⟨same, -⟩ := machine.act_of_ticks_zero zero action ticks
      obtain ⟨-, nothing⟩ := machine.untimed_act_of_ticks ticks
      rw [Action.untick_cons_of_ticks ticks, actAll, gather, nothing, List.nil_append]
      rw [same] at states tells ⊢
      exact ⟨states, tells⟩
    | false =>
      rw [Action.untick_cons_of_not_ticks ticks, actAll, actAll, gather, gather, tells]
      exact ⟨states, rfl⟩

/--
A run in which no step reads the delay timer is, up to the timers, the run without its
ticks: the same answers, the same journal and the same processor. If both timers are
zero and all that steps store in them is zero, they stay so, no beep is made, and the
whole machine is that of the run without ticks.
-/
theorem ticks_pass_unread (machine : Machine) (actions : List Action) :
    let quiet := Action.untick actions
    let later := machine.actAll actions
    let undisturbed := machine.actAll quiet
    ((∀ x, .readDelay x ∉ machine.gather performed actions) →
        machine.gather told actions = machine.gather told quiet ∧
          later.processor = { undisturbed.processor with timers := later.processor.timers }) ∧
      ((∀ role, machine.processor.timers.get role = 0) →
        (∀ use ∈ machine.gather stored actions, use.2 = 0) →
          (∀ earlier, earlier <+: actions →
              ∀ role, (machine.actAll earlier).processor.timers.get role = 0) ∧
            machine.beepsAlong actions = 0 ∧
              machine.gather told actions = machine.gather told quiet ∧ later = undisturbed) := by
  intro quiet later undisturbed
  constructor
  · intro blind
    have self : machine.processor.untimed = machine.processor.untimed := rfl
    obtain ⟨states, tells⟩ := actAll_congr_untimed self actions blind
    exact ⟨tells, Processor.eq_of_untimed states⟩
  · intro zero zeros
    obtain ⟨-, silent⟩ := machine.timers_actAll_zero zero actions zeros
    obtain ⟨states, tells⟩ := machine.actAll_untick_zero zero actions zeros
    refine ⟨?_, silent, tells, states⟩
    rintro earlier ⟨rest, rfl⟩
    rw [gather_append] at zeros
    exact (machine.timers_actAll_zero zero earlier (List.forall_mem_append.mp zeros).1).1

theorem ticks_pass_unread_zero :
    let machine (program : List Byte) (timers : Timers) : Machine :=
      { processor :=
          { Processor.fresh .skip (Random.cycle 0 []) with
            memory := .image program
            timers := timers }
        settings := .standard
        clocks := [Clock.delay 1, Clock.sounding 1 .bell] }
    let loads := machine [0x61, 0x07] (.ofValues 5 1)
    let reads := machine [0xF1, 0x07] .fresh
    let actions := [.tickClock .delay, .step, .tickClock .sound, .tick]
    (loads.actAll actions).processor.registers = (loads.act .step).processor.registers ∧
      loads.gather told actions = loads.gather told [.step] ∧
      reads.actAll actions = reads.act .step ∧ reads.beepsAlong actions = 0 := by
  intro machine loads reads actions
  have loading : (loads.act (.tickClock .delay)).processor.Executes (.load 1 7) := by
    rw [executes_act_tickClock]
    exact loads.processor.executes_of_image 0 rfl rfl (by decide) (by decide)
  have reading : (reads.act (.tickClock .delay)).processor.Executes (.readDelay 1) := by
    rw [executes_act_tickClock]
    exact reads.processor.executes_of_image 0 rfl rfl (by decide) (by decide)
  have blind : ∀ x, .readDelay x ∉ loads.gather performed actions := by
    intro x
    simp [actions, gather, performed, Processor.instruction?_of_executes _ loading]
  have none : (reads.act (.tickClock .delay)).processor.store? = none := by
    rw [Processor.store?, Processor.instruction?_of_executes _ reading]
  have nothing : reads.gather stored actions = [] := by
    simp only [actions, gather, stored, none, Option.toList_none, List.append_nil]
  have quiet : Action.untick actions = [.step] := rfl
  have alone (start : Machine) : start.actAll [.step] = start.act .step := rfl
  have registers {left right : Processor} {timers : Timers}
      (same : left = { right with timers := timers }) : left.registers = right.registers := by
    rw [same]
  obtain ⟨tells, states⟩ := (ticks_pass_unread loads actions).1 blind
  have zero (role : TimerRole) : reads.processor.timers.get role = 0 := by cases role <;> rfl
  obtain ⟨-, silent, -, same⟩ := (ticks_pass_unread reads actions).2 zero (by simp [nothing])
  rw [quiet] at tells states same
  rw [alone] at states same
  exact ⟨registers states, tells, same, silent⟩

end Machine

end Chip8
