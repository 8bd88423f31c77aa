import Chip8.Proofs.Machine.History
import Chip8.Proofs.Machine.Pacing
import Chip8.Proofs.Timer.Sharing

set_option autoImplicit false

namespace Chip8

namespace Processor

/-- The timer that the next step stores a value in, and that value. -/
def store? (processor : Processor) : Option (TimerRole × Byte) :=
  match processor.instruction? with
  | some (.setDelay x) => some (.delay, processor.registers.read x)
  | some (.setSound x) => some (.sound, processor.registers.read x)
  | _ => none

theorem timers_step (processor : Processor) :
    processor.step.state.timers =
      match processor.store? with
      | some (role, value) => processor.timers.set role value
      | none => processor.timers := by
  rw [processor.part_step timers fun _ => rfl, store?]
  cases processor.instruction? with
  | none => rfl
  | some instruction =>
    simp only [timers_perform]
    cases instruction <;> rfl

theorem timers_step_of_store (processor : Processor) {role : TimerRole} {value : Byte}
    (stores : processor.store? = some (role, value)) :
    processor.step.state.timers = processor.timers.set role value := by
  rw [timers_step, stores]

theorem timers_step_of_no_store (processor : Processor) (stores : processor.store? = none) :
    processor.step.state.timers = processor.timers := by
  rw [timers_step, stores]

theorem read_step_of_readDelay (processor : Processor) (x : Nibble)
    (executes : processor.Executes (.readDelay x)) :
    processor.step.state.registers.read x = processor.timers.get .delay := by
  rw [processor.state_step_of_executes executes]
  exact Registers.read_write_self _ x _

end Processor

namespace Machine

def timer (machine : Machine) (role : TimerRole) : Nat :=
  (machine.processor.timers.get role).toNat

def uses (role : TimerRole) (machine : Machine) : Action → List TimerUse
  | .step =>
      match machine.processor.store? with
      | some (stored, value) =>
          if stored = role then [.store (machine.processor.timers.get role) value] else []
      | none => []
  | .tick => [.tick]
  | .tickClock ticked =>
      if ticked = role then List.replicate (Clock.shares role machine.clocks) .tick else []
  | _ => []

def beepsMade (machine : Machine) : Action → Nat
  | .tick => machine.tick.2.toNat
  | .tickClock role => (machine.tickClock role).beeps - machine.beeps
  | _ => 0

def beepsAlong (machine : Machine) (actions : List Action) : Nat :=
  (machine.gather (fun machine action => [machine.beepsMade action]) actions).sum

inductive Follows (machine : Machine) (role : TimerRole) (action : Action) : Prop where
  | stores (new : Byte)
      (uses : machine.uses role action = [.store (machine.processor.timers.get role) new])
      (value : (machine.act action).timer role = new.toNat)
      (silent : machine.beepsMade action = 0)
  | waits (count : Nat) (uses : machine.uses role action = List.replicate count .tick)
      (value : (machine.act action).timer role = machine.timer role - count)
      (beeps : role = .sound → machine.beepsMade action = min (machine.timer role) count)

theorem Follows.idle {machine : Machine} {role : TimerRole} {action : Action}
    (uses : machine.uses role action = [])
    (value : (machine.act action).processor.timers.get role = machine.processor.timers.get role)
    (silent : role = .sound → machine.beepsMade action = 0) : machine.Follows role action := by
  refine .waits 0 uses ?_ ?_
  · simp [timer, value]
  · simpa using silent

theorem handle_act (machine : Machine) (action : Action) :
    (machine.act action).processor.timers.handle = machine.processor.timers.handle := by
  cases action with
  | step =>
    rw [processor_act_step, Processor.timers_step]
    split
    next => rfl
    next => rfl
  | startTimers sound => rw [act, processor_startTimers]
  | _ => rfl

theorem apart_act (machine : Machine) (action : Action)
    (apart : machine.processor.timers.Apart) : (machine.act action).processor.timers.Apart := by
  rw [Timers.Apart, handle_act]
  exact apart

theorem apart_actAll (machine : Machine) (actions : List Action)
    (apart : machine.processor.timers.Apart) :
    (machine.actAll actions).processor.timers.Apart :=
  holds_actAll (fun later => later.processor.timers.Apart) apart_act machine apart actions

section Apart

variable (machine : Machine) (apart : machine.processor.timers.Apart) (role : TimerRole)
include apart

theorem follows_step : machine.Follows role .step := by
  cases stores : machine.processor.store? with
  | none =>
    have stepped := machine.processor.timers_step_of_no_store stores
    rw [← processor_act_step] at stepped
    exact .idle (by simp [uses, stores]) (by rw [stepped]) fun _ => rfl
  | some stored =>
    obtain ⟨other, new⟩ := stored
    have stepped := machine.processor.timers_step_of_store stores
    rw [← processor_act_step] at stepped
    by_cases own : other = role
    next =>
      refine .stores new (by simp [uses, stores, own]) ?_ rfl
      rw [timer, stepped, Timers.get_set_of_apart apart, if_pos own]
    next =>
      refine .idle (by simp [uses, stores, own]) ?_ fun _ => rfl
      rw [stepped, Timers.get_set_of_apart apart, if_neg own]

theorem follows_tick : machine.Follows role .tick := by
  refine .waits 1 rfl (Timers.toNat_tickBoth apart role) ?_
  rintro rfl
  exact Timers.beep_tickBoth apart

end Apart

theorem get_tickClock (machine : Machine) (role ticked : TimerRole) :
    (machine.tickClock ticked).processor.timers.get role =
      if machine.processor.timers.handle ticked = machine.processor.timers.handle role then
        (Clock.tickAll ticked machine.clocks (machine.processor.timers.get ticked)).2
      else machine.processor.timers.get role :=
  machine.processor.timers.get_set ticked role _

theorem timer_tickClock_self (machine : Machine) (role : TimerRole) :
    (machine.tickClock role).timer role =
      machine.timer role - Clock.shares role machine.clocks := by
  rw [timer, get_tickClock, if_pos rfl]
  exact Clock.toNat_tickAll role machine.clocks _

theorem timer_tickClock (machine : Machine) (apart : machine.processor.timers.Apart)
    (role ticked : TimerRole) :
    (machine.tickClock ticked).timer role =
      machine.timer role - if ticked = role then Clock.shares role machine.clocks else 0 := by
  by_cases own : ticked = role
  next => rw [own, if_pos rfl, timer_tickClock_self]
  next =>
    have other := (Timers.handle_eq_iff apart ticked role).not.mpr own
    rw [timer, get_tickClock, if_neg other, if_neg own, Nat.sub_zero, timer]

theorem tickClock_of_still (machine : Machine) (role : TimerRole)
    (still : Clock.tickAll role machine.clocks (machine.processor.timers.get role) =
      (machine.clocks, machine.processor.timers.get role)) :
    machine.tickClock role = machine := by
  have kept := machine.processor.timers.set_get_self role
  simp only [tickClock, still, kept]
  rfl

theorem beepsMade_tickClock (machine : Machine) (ticked : TimerRole) :
    machine.beepsMade (.tickClock ticked) =
      if ticked = .sound then
        min (machine.timer .sound) (Clock.shares .sound machine.clocks)
      else 0 := by
  have after : (machine.tickClock ticked).beeps = Clock.totalBeeps
      (Clock.tickAll ticked machine.clocks (machine.processor.timers.get ticked)).1 := rfl
  have before : machine.beeps = Clock.totalBeeps machine.clocks := rfl
  rw [beepsMade, after, before]
  cases ticked with
  | delay => simp [Clock.totalBeeps_tickAll_delay]
  | sound => simp [Clock.totalBeeps_tickAll_sound, timer]

theorem follows (machine : Machine) (apart : machine.processor.timers.Apart) (role : TimerRole)
    (action : Action) : machine.Follows role action := by
  cases action with
  | step => exact machine.follows_step apart role
  | tick => exact machine.follows_tick apart role
  | tickClock ticked =>
    have value := machine.timer_tickClock apart role ticked
    have beeps := machine.beepsMade_tickClock ticked
    by_cases own : ticked = role
    next =>
      subst own
      refine .waits (Clock.shares ticked machine.clocks) (by simp [uses]) ?_ ?_
      · simpa [act] using value
      · rintro rfl
        simpa using beeps
    next =>
      refine .waits 0 (by simp [uses, own]) ?_ ?_
      · simpa [act, own] using value
      · rintro rfl
        simpa [own] using beeps
  | startTimers sound =>
    exact .idle rfl (by rw [act, processor_startTimers]) fun _ => rfl
  | _ => exact .idle rfl rfl fun _ => rfl

section Runs

variable (machine : Machine) (actions : List Action)

theorem beepsAlong_cons (action : Action) :
    machine.beepsAlong (action :: actions) =
      machine.beepsMade action + (machine.act action).beepsAlong actions := by
  simp [beepsAlong, gather]

variable (apart : machine.processor.timers.Apart)
include apart

theorem timer_actAll (role : TimerRole) (stretch : Stretch)
    (running : machine.timer role = stretch.left) :
    (machine.actAll actions).timer role =
      (stretch.after (machine.gather (uses role) actions)).left := by
  induction actions generalizing machine stretch with
  | nil => exact running
  | cons action rest ih =>
    have still := machine.apart_act action apart
    cases machine.follows apart role action with
    | stores new used value silent =>
      have next := ih (machine.act action) still { start := new.toNat } value
      simpa [actAll, gather, used, Stretch.after, Stretch.follow] using next
    | waits count used value beeps =>
      have next := ih (machine.act action) still (stretch.wait count) (by simp [value, running])
      simpa [actAll, gather, used, Stretch.after_append, Stretch.after_ticks] using next

theorem beepsAlong_stretches (stretch : Stretch)
    (running : machine.timer .sound = stretch.left) :
    stretch.beeps + machine.beepsAlong actions =
      ((stretch.all (machine.gather (uses .sound) actions)).map Stretch.beeps).sum := by
  -- The stretch under way has its own beeps behind it, and the ticks to come are added to it.
  induction actions generalizing machine stretch with
  | nil => simp [gather, Stretch.all, beepsAlong]
  | cons action rest ih =>
    have still := machine.apart_act action apart
    rw [beepsAlong_cons]
    cases machine.follows apart .sound action with
    | stores new used value silent =>
      have next := ih (machine.act action) still { start := new.toNat } value
      have fresh : ({ start := new.toNat } : Stretch).beeps = 0 := Nat.min_zero _
      simp only [gather, used, List.singleton_append, Stretch.all, Stretch.follow, List.map_cons,
        List.sum_cons, silent, ← next, fresh]
    | waits count used value beeps =>
      have next := ih (machine.act action) still (stretch.wait count) (by simp [value, running])
      rw [gather, used, Stretch.all_ticks_append, ← next, beeps rfl, running,
        Stretch.beeps_wait, Nat.add_assoc]

theorem beepsAlong_balance :
    (machine.beepsAlong actions : Int) + (machine.actAll actions).timer .sound =
      machine.timer .sound + ((machine.gather (uses .sound) actions).map TimerUse.gain).sum := by
  induction actions generalizing machine with
  | nil => simp [beepsAlong, gather, actAll]
  | cons action rest ih =>
    have next := ih (machine.act action) (machine.apart_act action apart)
    rw [beepsAlong_cons, gather, actAll, List.map_append, List.sum_append]
    cases machine.follows apart .sound action with
    | stores new used value silent =>
      have gained : (([TimerUse.store (machine.processor.timers.get .sound) new].map
          TimerUse.gain).sum : Int) = new.toNat - machine.timer .sound := by
        simp [TimerUse.gain, timer]
      rw [used, gained]
      omega
    | waits count used value beeps =>
      have still : (((List.replicate count TimerUse.tick).map TimerUse.gain).sum : Int) = 0 := by
        simp [TimerUse.gain]
      have made := beeps rfl
      rw [used, still]
      omega

end Runs

theorem shares_of_clocked (machine : Machine) (clocked : machine.Clocked) (role : TimerRole) :
    Clock.shares role machine.clocks = 1 := by
  obtain ⟨period, sound, ticks, lasts, clocks⟩ := clocked
  rw [clocks]
  cases role with
  | delay => rw [Clock.shares_delay_both period rfl, if_pos ticks]
  | sound => rw [Clock.shares_sound_both period rfl, if_pos ⟨rfl, ticks⟩]

theorem gather_uses_of_clocked (machine : Machine) (clocked : machine.Clocked)
    (roles : List TimerRole) (role : TimerRole) :
    machine.gather (uses role) (roles.map .tickClock) =
      List.replicate (roles.count role) .tick := by
  induction roles generalizing machine with
  | nil => rfl
  | cons ticked rest ih =>
    have later := ih (machine.tickClock ticked) (machine.tickClock_of_clocked ticked clocked).1
    rw [List.map_cons, gather, act, later, uses, machine.shares_of_clocked clocked]
    by_cases own : ticked = role
    next => simp [own, List.replicate_succ]
    next => simp [own]

/--
Let the two timers have a counter each, as those of a new machine and all that it comes to.
After any history a timer is the value stored in it last, or its first one, less its
own ticks since then. That is what a program reads. The beeps are those of each
stretch from one store to the next, so that they make up for what the stores put in
and the timer no longer has. Uses of one timer make no difference to the other, and
each tick of a running clock is one use of its own timer.
-/
theorem timers_follow_uses (machine : Machine) (apart : machine.processor.timers.Apart)
    (actions : List Action) :
    let later := machine.actAll actions
    let history role := machine.gather (uses role) actions
    let first role : Stretch := { start := machine.timer role }
    (∀ role, later.timer role = ((first role).after (history role)).left) ∧
      (∀ x, later.processor.Executes (.readDelay x) →
        ((later.act .step).processor.registers.read x).toNat =
          ((first .delay).after (history .delay)).left) ∧
      machine.beepsAlong actions =
        (((first .sound).all (history .sound)).map Stretch.beeps).sum ∧
      (machine.beepsAlong actions : Int) + later.timer .sound =
        machine.timer .sound + ((history .sound).map TimerUse.gain).sum ∧
      (∀ (other : Machine) (others : List Action) (role : TimerRole),
        other.processor.timers.Apart → other.timer role = machine.timer role →
          other.gather (uses role) others = history role →
            (other.actAll others).timer role = later.timer role ∧
              (role = .sound → other.beepsAlong others = machine.beepsAlong actions)) ∧
      (machine.Clocked → ∀ role ticked,
        machine.uses role (.tickClock ticked) = if ticked = role then [.tick] else []) := by
  intro later history first
  have exact (any : Machine) (own : any.processor.timers.Apart) (taken : List Action)
      (role : TimerRole) :
      (any.actAll taken).timer role =
        (({ start := any.timer role } : Stretch).after (any.gather (uses role) taken)).left :=
    any.timer_actAll taken own role { start := any.timer role } rfl
  have sums (any : Machine) (own : any.processor.timers.Apart) (taken : List Action) :
      any.beepsAlong taken =
        ((({ start := any.timer .sound } : Stretch).all
          (any.gather (uses .sound) taken)).map Stretch.beeps).sum := by
    have counted := any.beepsAlong_stretches taken own { start := any.timer .sound } rfl
    simpa [Stretch.beeps] using counted
  refine ⟨exact machine apart actions, ?_, sums machine apart actions,
    machine.beepsAlong_balance actions apart, ?_, ?_⟩
  · intro x executes
    rw [processor_act_step, later.processor.read_step_of_readDelay x executes]
    exact exact machine apart actions .delay
  · intro other others role own same uses
    constructor
    · rw [exact other own others role, same, uses]
      exact (exact machine apart actions role).symm
    · rintro rfl
      rw [sums other own others, same, uses]
      exact (sums machine apart actions).symm
  · intro clocked role ticked
    simp [Machine.uses, machine.shares_of_clocked clocked]

theorem timers_follow_uses_runOut :
    let machine : Machine :=
      { processor :=
          { Processor.fresh .skip (Random.cycle 0 []) with
            registers := Registers.zero.write 2 2
            memory := .image [0xF2, 0x18, 0xF1, 0x07]
            timers := .ofValues 5 1 }
        settings := .standard
        clocks := [Clock.delay 1, Clock.sounding 1 .bell] }
    let actions := [.tickClock .sound, .step] ++ [.sound, .delay, .sound, .sound].map .tickClock
    machine.beepsAlong actions = 3 ∧
      (((machine.actAll actions).act .step).processor.registers.read 1).toNat = 4 := by
  intro machine actions
  let ticked := machine.act (.tickClock .sound)
  have sets : ticked.processor.Executes (.setSound 2) :=
    ticked.processor.executes_of_image 0 rfl rfl (by decide) (by decide)
  let behind := (ticked.processor.fetched.perform (.setSound 2)).1
  have stored : (ticked.act .step).processor = behind := ticked.processor_act_of_executes sets
  have stores : ticked.processor.store? = some (.sound, 2) := by
    rw [Processor.store?, ticked.processor.instruction?_of_executes sets]
    rfl
  have running : machine.Clocked := .both 1 .bell (by decide) Sound.lasts_bell rfl
  have clocked : (ticked.act .step).Clocked := by
    obtain ⟨period, sound, ticks, lasts, clocks⟩ :=
      (machine.tickClock_of_clocked .sound running).1
    exact .both period sound ticks lasts clocks
  have used (role : TimerRole) : machine.gather (uses role) actions =
      uses role machine (.tickClock .sound) ++ (uses role ticked .step ++
        List.replicate ([TimerRole.sound, .delay, .sound, .sound].count role) .tick) := by
    rw [gather_append, actAll, actAll, actAll, gather_uses_of_clocked _ clocked, gather, gather,
      gather, List.append_nil, List.append_assoc]
  have reads : (machine.actAll actions).processor.Executes (.readDelay 1) := by
    rw [actAll_append, actAll, actAll, actAll, actAll_map_tickClock, executes_tickClocks, stored]
    exact behind.executes_of_image 2 rfl rfl (by decide) (by decide)
  have apart : machine.processor.timers.Apart := Timers.apart_ofValues 5 1
  obtain ⟨-, read, beeps, -⟩ := timers_follow_uses machine apart actions
  constructor
  · refine beeps.trans ?_
    dsimp only
    rw [used, uses, uses, stores]
    rfl
  · refine (read 1 reads).trans ?_
    dsimp only
    rw [used, uses, uses, stores]
    rfl

end Machine

end Chip8
