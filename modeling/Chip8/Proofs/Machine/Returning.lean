import Chip8.Proofs.Machine.Bounds
import Chip8.Proofs.Machine.Subroutines
import Mathlib.Data.List.Induction

set_option autoImplicit false

namespace Chip8

def Instruction.isCall : Instruction → Bool
  | call _ => true
  | _ => false

namespace Processor

theorem group_word_of_call (processor : Processor) {target : Address}
    (executes : processor.Executes (.call target)) : processor.wordAtCounter.group = 2 := by
  rw [Instruction.decode_eq_some_iff.mp executes.2, Instruction.encode]
  exact Word.group_ofAddress 2 target

theorem resumes_of_ret (processor : Processor) (executes : processor.Executes .ret)
    (done : processor.step.answer = .ok ()) :
    ∃ below, processor.calls = processor.step.state.counter :: below := by
  cases pending : processor.calls with
  | nil =>
    rw [processor.answer_step_of_ret_nil executes pending] at done
    cases done
  | cons back below =>
    rw [(processor.step_of_ret_cons executes back below pending).2]
    exact ⟨below, rfl⟩

end Processor

namespace Machine

/-- The action behind the earlier ones is a call, and the later ones leave more calls than before. -/
structure Pending (machine : Machine) (earlier later : List Action) : Prop where
  executes : ∃ target, (machine.actAll earlier).processor.Executes (.call target)
  stays : ((machine.actAll earlier).act .step).StaysAbove
    (machine.actAll earlier).processor.calls.length later

/-- The return address, and all below it, are those of a pending call. -/
structure Awaits (machine : Machine) (actions : List Action) (back : Word) (below : List Word)
    (earlier later : List Action) : Prop where
  split : actions = earlier ++ .step :: later
  pending : machine.Pending earlier later
  back : back = (machine.actAll earlier).processor.counter + 2
  below : below = (machine.actAll earlier).processor.calls

theorem StaysAbove.concat {machine : Machine} {depth : Nat} {actions : List Action}
    {action : Action} (stays : machine.StaysAbove depth actions)
    (above : depth < (machine.actAll (actions ++ [action])).processor.calls.length) :
    machine.StaysAbove depth (actions ++ [action]) := by
  intro count
  by_cases within : count ≤ actions.length
  next =>
    rw [List.take_append_of_le_length within]
    exact stays count
  next =>
    have whole : (actions ++ [action]).length ≤ count := by
      rw [List.length_append, List.length_singleton]
      omega
    rw [List.take_of_length_le whole]
    exact above

theorem actAll_step_append (machine : Machine) (earlier later : List Action) :
    machine.actAll (earlier ++ .step :: later) =
      ((machine.actAll earlier).act .step).actAll later :=
  machine.actAll_append earlier (.step :: later)

theorem Awaits.concat {machine : Machine} {actions earlier later : List Action} {back : Word}
    {below : List Word} (awaits : machine.Awaits actions back below earlier later)
    {action : Action}
    (still : back :: below <:+ (machine.actAll (actions ++ [action])).processor.calls) :
    machine.Awaits (actions ++ [action]) back below earlier (later ++ [action]) where
  split := by rw [awaits.split, List.append_assoc, List.cons_append]
  pending := by
    refine ⟨awaits.pending.executes, awaits.pending.stays.concat ?_⟩
    have longer := still.length_le
    rw [awaits.split, List.append_assoc, List.cons_append, actAll_step_append, awaits.below,
      List.length_cons] at longer
    exact longer
  back := awaits.back
  below := awaits.below

theorem calls_suffix_act (machine : Machine) (action : Action) (back : Word) (below : List Word)
    (stacked : back :: below <:+ (machine.act action).processor.calls) :
    back :: below <:+ machine.processor.calls ∨
      action = .step ∧ (∃ target, machine.processor.Executes (.call target)) ∧
        back = machine.processor.counter + 2 ∧ below = machine.processor.calls := by
  by_cases stepping : action = .step
  next =>
    subst stepping
    rw [processor_act_step] at stacked
    cases machine.processor.callsStep with
    | keeps same => exact .inl (same ▸ stacked)
    | enters target executes pushed =>
      rw [pushed] at stacked
      rcases List.suffix_cons_iff.mp stacked with new | old
      · obtain ⟨rfl, rfl⟩ := List.cons.inj new
        exact .inr ⟨rfl, ⟨target, executes⟩, rfl, rfl⟩
      · exact .inl old
    | leaves top executes popped resumed done =>
      rw [popped]
      exact .inl (stacked.trans (List.suffix_cons _ _))
  next =>
    rw [machine.calls_act_of_ne_step action stepping] at stacked
    exact .inl stacked

theorem exists_awaits (machine : Machine) (none : machine.processor.calls = [])
    (actions : List Action) (back : Word) (below : List Word)
    (stacked : back :: below <:+ (machine.actAll actions).processor.calls) :
    ∃ earlier later, machine.Awaits actions back below earlier later := by
  induction actions using List.reverseRecOn with
  | nil =>
    rw [actAll, none] at stacked
    exact absurd (List.suffix_nil.mp stacked) (List.cons_ne_nil back below)
  | append_singleton actions action ih =>
    have after : machine.actAll (actions ++ [action]) = (machine.actAll actions).act action :=
      machine.actAll_append actions [action]
    have before := stacked
    rw [after] at before
    rcases (machine.actAll actions).calls_suffix_act action back below before with
      older | ⟨rfl, executes, rfl, rfl⟩
    · obtain ⟨earlier, later, awaits⟩ := ih older
      exact ⟨earlier, later ++ [action], awaits.concat stacked⟩
    · refine ⟨actions, [], rfl, ⟨executes, ?_⟩, rfl, rfl⟩
      intro count
      rw [List.take_nil, actAll, ← after]
      exact stacked.length_le

-- A call that is pending behind the one of the top entry would have left an entry above it.
theorem Awaits.latest {machine : Machine} {actions earlier later : List Action} {back : Word}
    {below : List Word} (awaits : machine.Awaits actions back below earlier later)
    (top : (machine.actAll actions).processor.calls = back :: below)
    {others behind : List Action} (split : actions = others ++ .step :: behind)
    (pending : machine.Pending others behind) : others.length ≤ earlier.length := by
  by_contra longer
  -- The other call was made while the call of the top entry was pending.
  have tail : ∃ count, others = earlier ++ .step :: later.take count := by
    have same := awaits.split.symm.trans split
    obtain ⟨rest, rfl⟩ := List.prefix_of_prefix_length_le ⟨_, same⟩ (List.prefix_append others _)
      (Nat.le_of_not_le longer)
    rw [List.append_assoc] at same
    have inner := List.append_cancel_left same
    cases rest with
    | nil => simp at longer
    | cons first rest =>
      have start : Action.step = first := (List.cons.inj inner).1
      have left : later = rest ++ .step :: behind := (List.cons.inj inner).2
      exact ⟨rest.length, by rw [start, left, List.take_left]⟩
  obtain ⟨count, rfl⟩ := tail
  have deeper := awaits.pending.stays count
  rw [← actAll_step_append, ← awaits.below] at deeper
  have above := pending.stays behind.length
  rw [List.take_length, ← actAll_step_append, ← split, top, List.length_cons] at above
  omega

/-- The instruction that an action executes, if it is a step that comes to one. -/
def executed (machine : Machine) : Action → List Instruction
  | .step => machine.processor.instruction?.toList
  | _ => []

def completed (machine : Machine) (action : Action) : List Instruction :=
  match machine.step.answer with
  | .ok _ => machine.executed action
  | .error _ => []

theorem completed_of_executed_eq_nil (machine : Machine) (action : Action)
    (idle : machine.executed action = []) : machine.completed action = [] := by
  rw [completed, idle]
  split
  next => rfl
  next => rfl

theorem count_ret_completed_of_executed (machine : Machine) (action : Action)
    (instruction : Instruction) (executed : machine.executed action = [instruction])
    (other : instruction ≠ .ret) : (machine.completed action).count .ret = 0 := by
  rw [completed]
  split
  next =>
    rw [executed]
    exact List.count_eq_zero_of_not_mem (by simpa using Ne.symm other)
  next => rfl

theorem length_calls_step (machine : Machine) :
    (machine.act .step).processor.calls.length + (machine.completed .step).count .ret =
      machine.processor.calls.length + (machine.executed .step).countP Instruction.isCall := by
  rw [processor_act_step]
  cases machine.processor.meets with
  | instruction instruction executes =>
    have finds : machine.executed .step = [instruction] := by
      rw [executed, machine.processor.instruction?_of_executes executes, Option.toList_some]
    have changed := machine.processor.calls_step_of_executes executes
    have completes := machine.count_ret_completed_of_executed .step instruction finds
    cases instruction with
    | call target =>
      rw [changed, completes (by simp), finds]
      rfl
    | ret =>
      cases pending : machine.processor.calls with
      | nil =>
        have failed : machine.step.answer = .error .emptyCallStack :=
          machine.processor.answer_step_of_ret_nil executes pending
        rw [changed, pending, completed, failed, finds]
        rfl
      | cons back below =>
        have done : machine.step.answer = .ok () :=
          (machine.processor.step_of_ret_cons executes back below pending).1
        rw [changed, pending, completed, done, finds]
        rfl
    | _ =>
      rw [changed, completes (by simp), finds]
      rfl
  | unknownWord unknown =>
    have finds : machine.executed .step = [] := by
      rw [executed, machine.processor.instruction?_of_findsNone unknown, Option.toList_none]
    rw [machine.processor.state_step_of_findsNone unknown, finds,
      machine.completed_of_executed_eq_nil .step finds]
    rfl
  | noWord outside =>
    have finds : machine.executed .step = [] := by
      rw [executed, machine.processor.instruction?_of_le outside, Option.toList_none]
    rw [machine.processor.step_of_le outside, finds,
      machine.completed_of_executed_eq_nil .step finds]
    rfl

theorem length_calls_act (machine : Machine) (action : Action) :
    (machine.act action).processor.calls.length + (machine.completed action).count .ret =
      machine.processor.calls.length + (machine.executed action).countP Instruction.isCall := by
  by_cases stepping : action = .step
  next =>
    subst stepping
    exact machine.length_calls_step
  next =>
    have finds : machine.executed action = [] := by
      cases action with
      | step => exact absurd rfl stepping
      | _ => rfl
    rw [machine.calls_act_of_ne_step action stepping, finds,
      machine.completed_of_executed_eq_nil action finds]
    rfl

theorem length_calls_actAll (machine : Machine) (actions : List Action) :
    (machine.actAll actions).processor.calls.length +
        (machine.gather completed actions).count .ret =
      machine.processor.calls.length +
        (machine.gather executed actions).countP Instruction.isCall := by
  induction actions generalizing machine with
  | nil => rfl
  | cons action rest ih =>
    have first := machine.length_calls_act action
    have later := ih (machine.act action)
    rw [actAll, gather, gather, List.count_append, List.countP_append]
    omega

theorem memory_actAll_of_unloaded (machine : Machine) (program : List Byte)
    (held : machine.processor.memory = .image program) (actions : List Action)
    (unloaded : ∀ action ∈ actions, action.program? = none) :
    (machine.actAll actions).processor.memory = machine.processor.memory := by
  rw [machine.memory_actAll actions program held, List.filterMap_eq_nil_iff.mpr unloaded, held]
  rfl

theorem Awaits.group_word {machine : Machine} {actions earlier later : List Action} {back : Word}
    {below : List Word} (awaits : machine.Awaits actions back below earlier later)
    (kept : (machine.actAll earlier).processor.memory = machine.processor.memory) :
    (machine.processor.memory.wordAt (back.toNat - 2)).group = 2 := by
  obtain ⟨target, executes⟩ := awaits.pending.executes
  have behind : back.toNat = (machine.actAll earlier).processor.counter.toNat + 2 := by
    rw [awaits.back]
    exact (machine.actAll earlier).processor.toNat_counter_fetched executes.1
  rw [behind, Nat.add_sub_cancel, ← kept]
  exact (machine.actAll earlier).processor.group_word_of_call executes

/--
After a load, and as long as nothing else is loaded, every return address lies from 2 to
4096 behind a word whose top digit is 2. The newest one was pushed by the latest call that
is still pending, and there are as many as calls were made, less the returns that
succeeded. So whatever returns goes on right behind such a word of the program.
-/
theorem returns_lead_behind_calls (settings : Settings) (entropy : Entropy) (stream : Stream)
    (actions : List Action) (unloaded : ∀ action ∈ actions, action.program? = none) :
    let loaded := ((Machine.fresh settings entropy).load stream).state
    let machine := loaded.actAll actions
    let calls := machine.processor.calls
    let BehindCall (back : Word) :=
      (2 ≤ back.toNat ∧ back.toNat ≤ 4096) ∧
        (loaded.processor.memory.wordAt (back.toNat - 2)).group = 2
    machine.processor.memory = loaded.processor.memory ∧
      (∀ back ∈ calls, BehindCall back) ∧
      (∀ top below, calls = top :: below →
        ∃ earlier later, loaded.Awaits actions top below earlier later ∧
          ∀ others behind, actions = others ++ .step :: behind → loaded.Pending others behind →
            others.length ≤ earlier.length) ∧
      calls.length + (loaded.gather completed actions).count .ret =
        (loaded.gather executed actions).countP Instruction.isCall ∧
      (machine.processor.Executes .ret → machine.step.answer = .ok () →
        BehindCall machine.step.state.processor.counter) := by
  intro loaded machine calls BehindCall
  have held : loaded.processor.memory = .image (stream.program?.getD []) :=
    (Machine.fresh settings entropy).memory_act (.load stream) [] Memory.fresh_eq_image
  have none : loaded.processor.calls = [] := rfl
  have start : (Machine.fresh settings entropy).processor.Bounded :=
    Processor.bounded_fresh settings.unknownWords _
  have bounded : machine.processor.Bounded :=
    loaded.bounded_actAll ((Machine.fresh settings entropy).bounded_act start (.load stream))
      actions
  have stands : ∀ back ∈ calls, BehindCall back := by
    intro back member
    obtain ⟨above, below, stacked⟩ := List.append_of_mem member
    obtain ⟨earlier, later, awaits⟩ :=
      loaded.exists_awaits none actions back below ⟨above, stacked.symm⟩
    refine ⟨bounded.calls back member, awaits.group_word ?_⟩
    apply loaded.memory_actAll_of_unloaded _ held
    intro action among
    apply unloaded
    rw [awaits.split]
    exact List.mem_append_left _ among
  refine ⟨loaded.memory_actAll_of_unloaded _ held actions unloaded, stands, ?_, ?_, ?_⟩
  · intro top below stacked
    obtain ⟨earlier, later, awaits⟩ :=
      loaded.exists_awaits none actions top below (stacked ▸ List.suffix_refl _)
    refine ⟨earlier, later, awaits, fun others behind split pending => ?_⟩
    exact awaits.latest stacked split pending
  · have counted := loaded.length_calls_actAll actions
    rw [none, List.length_nil, Nat.zero_add] at counted
    exact counted
  · intro executes done
    obtain ⟨below, stacked⟩ := machine.processor.resumes_of_ret executes done
    apply stands
    change machine.processor.step.state.counter ∈ machine.processor.calls
    rw [stacked]
    exact List.mem_cons_self

theorem returns_lead_behind_calls_odd :
    let loaded := ((Machine.fresh .standard (.constant 0)).load
      (.ofBytes [0x12, 0x03, 0x00, 0x22, 0x00])).state
    let machine := loaded.actAll [.step, .step]
    machine.processor.calls = [0x205] ∧ (loaded.processor.memory.wordAt 0x203).group = 2 := by
  intro loaded machine
  have memory : loaded.processor.memory = .image [0x12, 0x03, 0x00, 0x22, 0x00] :=
    (Machine.fresh .standard (.constant 0)).memory_act
      (.load (.ofBytes [0x12, 0x03, 0x00, 0x22, 0x00])) [] Memory.fresh_eq_image
  have jumps : loaded.processor.Executes (.jump 0x203) :=
    loaded.processor.executes_of_image 0 memory rfl (by decide) (by decide)
  let jumped := (loaded.processor.fetched.perform (.jump 0x203)).1
  have stepped : (loaded.act .step).processor = jumped := loaded.processor_act_of_executes jumps
  have calls : jumped.Executes (.call 0x200) :=
    jumped.executes_of_image 3 memory rfl (by decide) (by decide)
  have pushed : (loaded.actAll [.step, .step]).processor.calls = [0x205] := by
    have entered := jumped.calls_step_of_executes calls
    rw [actAll, actAll, actAll, processor_act_step, stepped, entered]
    rfl
  obtain ⟨-, stands, -⟩ := returns_lead_behind_calls .standard (.constant 0)
    (.ofBytes [0x12, 0x03, 0x00, 0x22, 0x00]) [.step, .step] (by simp [Action.program?])
  have member : 0x205 ∈ machine.processor.calls := by
    rw [pushed]
    exact List.mem_singleton_self 0x205
  refine ⟨pushed, (stands 0x205 ?_).2⟩
  with_reducible exact member

end Machine

end Chip8
