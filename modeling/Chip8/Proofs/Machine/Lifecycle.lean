import Chip8.Proofs.Machine.Contents
import Chip8.Proofs.Machine.Countdown
import Chip8.Proofs.Machine.Holding

set_option autoImplicit false

namespace Chip8

theorem Clock.shares_le_live (role : TimerRole) (clocks : List Clock) :
    shares role clocks ≤ (live role clocks).length := by
  induction clocks with
  | nil => exact Nat.le_refl 0
  | cons clock rest ih =>
    simp only [shares, live, ← List.countP_eq_length_filter] at ih ⊢
    rw [List.map_cons, List.sum_cons, List.countP_cons, Nat.add_comm]
    apply Nat.add_le_add ih
    by_cases shares : clock.role = role ∧ clock.Ticks
    next => simp [share, shares.1, shares.2, shares.2.1]
    next => simp [share, shares]

def Action.sparesClocks : Action → Bool
  | .startTimers _ => false
  | .stopTimers => false
  | _ => true

namespace Machine

theorem timer_tick (machine : Machine) (apart : machine.processor.timers.Apart)
    (role : TimerRole) : (machine.act .tick).timer role = machine.timer role - 1 :=
  Timers.toNat_tickBoth apart role

theorem timer_step_of_store (machine : Machine) {role : TimerRole} {value : Byte}
    (stores : machine.processor.store? = some (role, value)) :
    (machine.act .step).timer role = value.toNat := by
  rw [timer, processor_act_step, machine.processor.timers_step_of_store stores, Timers.get_set,
    if_pos rfl]

theorem timer_act_of_noClocks (machine : Machine) (apart : machine.processor.timers.Apart)
    (clocks : machine.clocks = []) (action : Action) (role : TimerRole)
    (changed : (machine.act action).timer role ≠ machine.timer role) :
    action = .tick ∨
      action = .step ∧ ∃ value, machine.processor.store? = some (role, value) := by
  cases action with
  | tick => exact .inl rfl
  | step =>
    refine .inr ⟨rfl, ?_⟩
    cases stores : machine.processor.store? with
    | none =>
      rw [timer, processor_act_step, machine.processor.timers_step_of_no_store stores] at changed
      exact absurd rfl changed
    | some use =>
      obtain ⟨stored, value⟩ := use
      rw [timer, processor_act_step, machine.processor.timers_step_of_store stores,
        Timers.get_set_of_apart apart] at changed
      by_cases own : stored = role
      next => exact ⟨value, by rw [own]⟩
      next =>
        rw [if_neg own] at changed
        exact absurd rfl changed
  | tickClock ticked =>
    have lowered := machine.timer_tickClock apart role ticked
    rw [clocks] at lowered
    refine absurd (lowered.trans ?_) changed
    simp [Clock.shares]
  | startTimers sound =>
    rw [timer, act, processor_startTimers] at changed
    exact absurd rfl changed
  | _ => exact absurd rfl changed

/-- No clock is alive, and up to the next start only stores and ticks from outside change a timer. -/
def AtRest (machine : Machine) : Prop :=
  ∀ actions, (∀ sound, .startTimers sound ∉ actions) →
    let later := machine.actAll actions
    (later.clocks = [] ∧ ∀ role, Clock.live role later.threads = []) ∧
      ∀ action role, (later.act action).timer role ≠ later.timer role →
        action = .tick ∨ action = .step ∧ ∃ value, later.processor.store? = some (role, value)

theorem clocks_act_of_noClocks (machine : Machine) (clocks : machine.clocks = [])
    (action : Action) (unstarted : ∀ sound, action ≠ .startTimers sound) :
    (machine.act action).clocks = [] := by
  cases action with
  | startTimers sound => exact absurd rfl (unstarted sound)
  | stopTimers => rfl
  | tickClock role =>
    rw [clocks_tickClock, clocks]
    rfl
  | _ => exact clocks

theorem atRest_of_noClocks (machine : Machine) (apart : machine.processor.timers.Apart)
    (clocks : machine.clocks = []) : machine.AtRest := by
  intro actions unstarted later
  have none : later.clocks = [] := by
    clear apart
    induction actions generalizing machine with
    | nil => exact clocks
    | cons action rest ih =>
      have first := machine.clocks_act_of_noClocks clocks action fun sound same =>
        unstarted sound (by simp [same])
      exact ih (machine.act action) first fun sound member =>
        unstarted sound (List.mem_cons_of_mem _ member)
  refine ⟨⟨none, fun role => ?_⟩, ?_⟩
  · rw [live_threads, none]
    rfl
  · exact later.timer_act_of_noClocks (machine.apart_actAll actions apart) none

theorem live_startTimers (machine : Machine) (sound : Sound)
    (running : machine.settings.timerRate ≠ 0) :
    Clock.live .delay (machine.startTimers sound).state.threads =
        [Clock.delay (period machine.settings.timerRate)] ∧
      Clock.live .sound (machine.startTimers sound).state.threads =
        [Clock.sounding (period machine.settings.timerRate) sound] := by
  have paced := machine.settings.timerPeriod?_of_ne running
  rw [live_threads, live_threads, machine.clocks_startTimers_of_some sound paced,
    Clock.live_delay_both _ rfl, Clock.live_sound_both _ rfl]
  exact ⟨rfl, rfl⟩

theorem HoldsClocks.timer_le_tickClock {machine : Machine} (holds : machine.HoldsClocks)
    (role : TimerRole) :
    machine.timer role ≤ (machine.act (.tickClock role)).timer role + 1 := by
  have shared := (Clock.shares_le_live role machine.clocks).trans (holds.length_live_le role)
  rw [act, machine.timer_tickClock_self role]
  omega

theorem breaks_stopTimers (machine : Machine) (role : TimerRole) :
    machine.stopTimers.journal.count (.clockBroken role) = Clock.broken role machine.clocks :=
  Clock.breaks_stop role machine.clocks

theorem breaks_startTimers (machine : Machine) (sound : Sound) (role : TimerRole) :
    (machine.startTimers sound).journal.count (.clockBroken role) =
      Clock.broken role machine.clocks := by
  rw [← breaks_stopTimers, startTimers]
  split
  next => simp
  next => simp [Clock.started]

inductive HoldsBroken (machine : Machine) : Prop where
  | beside (period : Nat) (sounding : Clock) (ticks : 0 < period)
      (role : sounding.role = .sound) (broken : sounding.status = .broken)
      (clocks : machine.clocks = [Clock.delay period, sounding])

theorem HoldsClocks.tickClock_of_breaksNext {machine : Machine} (holds : machine.HoldsClocks)
    (next : machine.BreaksNext) : (machine.act (.tickClock .sound)).HoldsBroken := by
  cases holds with
  | none clocks => simp [BreaksNext, clocks] at next
  | both period sounding rate role paced unstopped clocks =>
    have breaks := (machine.breaksNext_iff_of_both clocks).mp next
    obtain ⟨sameRole, samePeriod⟩ := sounding.role_tick (machine.processor.timers.get .sound)
    have broken := sounding.status_tick (machine.processor.timers.get .sound)
    rw [if_pos breaks] at broken
    have ticks : 0 < period := paced ▸ breaks.2.1.2
    exact .beside period _ ticks (sameRole.trans role) broken
      (machine.clocks_tickClock_sound role clocks)

theorem clocks_act_of_spares (machine : Machine) (action : Action)
    (spares : action.sparesClocks = true) (silent : action ≠ .tickClock .sound) :
    (machine.act action).clocks = machine.clocks := by
  cases action with
  | startTimers sound => cases spares
  | stopTimers => cases spares
  | tickClock role =>
    cases role with
    | delay => exact machine.clocks_tickClock_delay
    | sound => exact absurd rfl silent
  | _ => rfl

section Broken

variable {machine : Machine} (holds : machine.HoldsBroken)
include holds

theorem HoldsBroken.tickClock_sound : machine.act (.tickClock .sound) = machine := by
  obtain ⟨period, sounding, ticks, role, broken, clocks⟩ := holds
  have dead := sounding.not_live_of_broken broken
  have other := Clock.role_delay_ne_sound period
  apply machine.tickClock_of_still .sound
  rw [clocks]
  simp only [Clock.tickAll, if_neg other, if_pos role, sounding.tick_of_not_live _ dead]

theorem HoldsBroken.act (action : Action) (spares : action.sparesClocks = true) :
    (machine.act action).HoldsBroken := by
  -- The broken clock no longer ticks, and no other action reaches it.
  by_cases sounds : action = .tickClock .sound
  next =>
    rw [sounds, holds.tickClock_sound]
    exact holds
  next =>
    obtain ⟨period, sounding, ticks, role, broken, clocks⟩ := holds
    have same := machine.clocks_act_of_spares action spares sounds
    exact .beside period sounding ticks role broken (same.trans clocks)

theorem HoldsBroken.actAll (actions : List Action)
    (spared : ∀ action ∈ actions, action.sparesClocks = true) :
    (machine.actAll actions).HoldsBroken := by
  induction actions generalizing machine with
  | nil => exact holds
  | cons action rest ih =>
    obtain ⟨first, others⟩ := List.forall_mem_cons.mp spared
    exact ih (holds.act action first) others

end Broken

/--
The sound clock has broken. The delay clock ticks on, both timers count and can be read
and written, and whoever stops the clocks next is told of the break once.
-/
structure Silenced (machine : Machine) : Prop where
  sound : Clock.live .sound machine.threads = []
  soundTick : machine.act (.tickClock .sound) = machine
  delay : (Clock.live .delay machine.threads).length = 1
  delayTick : (machine.act (.tickClock .delay)).timer .delay = machine.timer .delay - 1
  tick : ∀ role, (machine.act .tick).timer role = machine.timer role - 1
  store : ∀ role value, machine.processor.store? = some (role, value) →
    (machine.act .step).timer role = value.toNat
  read : ∀ x, machine.processor.Executes (.readDelay x) →
    (machine.act .step).processor.registers.read x = machine.processor.timers.get .delay
  stop : machine.stopTimers.journal.count (.clockBroken .sound) = 1
  restart : ∀ sound, (machine.startTimers sound).journal.count (.clockBroken .sound) = 1

theorem HoldsBroken.silenced {machine : Machine} (holds : machine.HoldsBroken)
    (apart : machine.processor.timers.Apart) : machine.Silenced := by
  have soundTick := holds.tickClock_sound
  obtain ⟨period, sounding, ticks, role, broken, clocks⟩ := holds
  have dead := sounding.not_live_of_broken broken
  have once : Clock.broken .sound machine.clocks = 1 := by
    rw [clocks, Clock.broken_sound_both period role, if_pos broken]
  have share : Clock.shares .delay machine.clocks = 1 := by
    rw [clocks, Clock.shares_delay_both period role, if_pos ticks]
  constructor
  case sound => rw [live_threads, clocks, Clock.live_sound_both period role, if_neg dead]
  case soundTick => exact soundTick
  case delay => rw [live_threads, clocks, Clock.live_delay_both period role, List.length_singleton]
  case delayTick =>
    have lowered := machine.timer_tickClock_self .delay
    rwa [share] at lowered
  case tick => exact machine.timer_tick apart
  case store => exact fun role value stores => machine.timer_step_of_store stores
  case read =>
    intro x executes
    rw [processor_act_step]
    exact machine.processor.read_step_of_readDelay x executes
  case stop => rw [breaks_stopTimers, once]
  case restart =>
    intro sound
    rw [breaks_startTimers, once]

theorem HoldsClocks.broke {machine : Machine} (holds : machine.HoldsClocks)
    (apart : machine.processor.timers.Apart) (next : machine.BreaksNext) :
    (machine.act (.tickClock .sound)).timer .sound + 1 = machine.timer .sound ∧
      (machine.act (.tickClock .sound)).timer .delay = machine.timer .delay ∧
      Clock.live .delay (machine.act (.tickClock .sound)).threads =
        Clock.live .delay machine.threads := by
  cases holds with
  | none clocks => simp [BreaksNext, clocks] at next
  | both period sounding rate role paced unstopped clocks =>
    obtain ⟨-, ticks, running, -⟩ := (machine.breaksNext_iff_of_both clocks).mp next
    have positive : machine.timer .sound ≠ 0 := fun zero => running (BitVec.eq_of_toNat_eq zero)
    have share : Clock.shares .sound machine.clocks = 1 := by
      rw [clocks, Clock.shares_sound_both period role, if_pos ticks]
    have lowered := machine.timer_tickClock_self .sound
    have kept := machine.timer_tickClock apart .delay .sound
    have still := (sounding.role_tick (machine.processor.timers.get .sound)).1.trans role
    rw [share] at lowered
    refine ⟨?_, kept, ?_⟩
    · rw [act, lowered]
      omega
    · rw [live_threads, live_threads, machine.clocks_tickClock_sound role clocks, clocks,
        Clock.live_delay_both period still, Clock.live_delay_both period role]

/--
Whatever is done to a fresh machine, each clock whose start was told is held or stopped,
and those that are stopped are those whose end was told. Of all that were ever started,
what is neither stopped nor broken is alive: at most one for each timer, and one period
lowers that timer by one at most. A start leaves one clock for each timer, a stop
leaves none, and a machine at rest stays so until the next start. Each break is told
of once, by the stop that follows it. It ends the sound clock, behind the tick, and
nothing else.
-/
theorem clocks_of_history (settings : Settings) (entropy : Entropy) (actions : List Action) :
    let start := Machine.fresh settings entropy
    let machine := start.actAll actions
    let log := start.gather writes actions
    (∀ role,
        log.countP (Event.starts role) = Clock.held role machine.threads ∧
          log.countP (Event.ends role) = Clock.held role machine.stopped ∧
          log.countP (Event.starts role) =
            log.countP (Event.ends role) + Clock.broken role machine.clocks +
              (Clock.live role machine.threads).length ∧
          (Clock.live role machine.threads).length ≤ 1 ∧
          machine.timer role ≤ (machine.act (.tickClock role)).timer role + 1) ∧
      (settings.timerRate ≠ 0 →
        ∀ sound,
          let started := (machine.startTimers sound).state
          Clock.live .delay started.threads = [Clock.delay (period settings.timerRate)] ∧
            Clock.live .sound started.threads =
              [Clock.sounding (period settings.timerRate) sound]) ∧
      machine.stopTimers.state.AtRest ∧
      machine.drop.state.AtRest ∧
      (settings.timerRate = 0 → ∀ sound, (machine.startTimers sound).state.AtRest) ∧
      machine.stopTimers.state.stopTimers =
        { state := machine.stopTimers.state, answer := (), journal := [] } ∧
      (∀ clock ∈ machine.clocks,
        clock.stop.state.stop = { state := clock.stop.state, answer := (), journal := [] }) ∧
      (∀ role,
        log.count (.clockBroken role) + Clock.broken role machine.clocks =
            (start.gather breaking actions).count role ∧
          machine.stopTimers.journal.count (.clockBroken role) =
            Clock.broken role machine.clocks ∧
          ∀ sound, (machine.startTimers sound).journal.count (.clockBroken role) =
            Clock.broken role machine.clocks) ∧
      (machine.BreaksNext →
        let broke := machine.act (.tickClock .sound)
        broke.timer .sound + 1 = machine.timer .sound ∧
          broke.timer .delay = machine.timer .delay ∧
          Clock.live .delay broke.threads = Clock.live .delay machine.threads ∧
          ∀ others, (∀ action ∈ others, action.sparesClocks = true) →
            (broke.actAll others).Silenced) := by
  intro start machine log
  have empty : start.HoldsClocks := .none rfl
  have holds : machine.HoldsClocks := start.holdsClocks_actAll empty actions
  have same : machine.settings = settings := start.settings_actAll actions
  have apart : machine.processor.timers.Apart :=
    start.apart_actAll actions (Timers.apart_ofValues 0 0)
  refine ⟨?_, ?_, atRest_of_noClocks _ apart rfl, atRest_of_noClocks _ apart rfl, ?_, rfl,
    fun clock _ => clock.stop_stop, ?_, ?_⟩
  · intro role
    have accounts := empty.accounts_actAll actions role
    have none : Clock.held role start.clocks = 0 := rfl
    have unstopped : Clock.held role start.stopped = 0 := rfl
    have accounted : log.countP (Event.starts role) =
        log.countP (Event.ends role) + Clock.held role machine.clocks := by
      rw [← accounts.clocks, none, Nat.zero_add]
    have ended : log.countP (Event.ends role) = Clock.held role machine.stopped := by
      rw [← accounts.stopped, unstopped, Nat.zero_add]
    have counted := Clock.held_eq_live_add_broken role machine.clocks holds.unstopped
    -- A clock that is held is alive or broken.
    rw [live_threads, held_threads]
    refine ⟨?_, ended, ?_, holds.length_live_le role, holds.timer_le_tickClock role⟩
    · rw [accounted, ended, Nat.add_comm]
    · omega
  · intro running sound started
    rw [← same] at running ⊢
    exact machine.live_startTimers sound running
  · intro off sound
    have still := machine.apart_act (.startTimers sound) apart
    rw [← same] at off
    have rate := machine.settings.timerPeriod?_eq_none_iff.mpr off
    exact atRest_of_noClocks _ still (machine.clocks_startTimers_of_none sound rate)
  · intro role
    have accounted := (empty.accounts_actAll actions role).breaks
    have none : Clock.broken role start.clocks = 0 := rfl
    rw [none, Nat.zero_add] at accounted
    exact ⟨accounted.symm, machine.breaks_stopTimers role,
      fun sound => machine.breaks_startTimers sound role⟩
  · intro next broke
    obtain ⟨lowered, kept, alive⟩ := holds.broke apart next
    refine ⟨lowered, kept, alive, ?_⟩
    intro others spared
    have still := broke.apart_actAll others (machine.apart_act (.tickClock .sound) apart)
    exact ((holds.tickClock_of_breaksNext next).actAll others spared).silenced still

theorem clocks_of_history_breaking :
    let machine := (Machine.fresh .standard (.constant 0)).actAll
      [.load (.ofBytes [0x61, 0x02, 0xF1, 0x18]), .step, .step, .startTimers (.breakingAt 1)]
    let broke := machine.act (.tickClock .sound)
    let unclocked := Machine.fresh { Settings.standard with timerRate := 0 } (.constant 0)
    machine.timer .sound = 2 ∧ machine.BreaksNext ∧ broke.timer .sound = 1 ∧
      (broke.actAll [.tickClock .delay, .tick]).Silenced ∧
      Clock.live .sound (machine.startTimers .mute).state.threads =
        [Clock.sounding (period 60) .mute] ∧
      (unclocked.startTimers .mute).state.AtRest := by
  intro machine broke unclocked
  let loaded := (Machine.fresh .standard (.constant 0)).act
    (.load (.ofBytes [0x61, 0x02, 0xF1, 0x18]))
  have memory : loaded.processor.memory = .image [0x61, 0x02, 0xF1, 0x18] :=
    (Machine.fresh .standard (.constant 0)).memory_act _ [] Memory.fresh_eq_image
  have loads : loaded.processor.Executes (.load 1 2) :=
    loaded.processor.executes_of_image 0 memory rfl (by decide) (by decide)
  let chosen := (loaded.processor.fetched.perform (.load 1 2)).1
  have ready : (loaded.act .step).processor = chosen := loaded.processor_act_of_executes loads
  have sets : (loaded.act .step).processor.Executes (.setSound 1) := by
    rw [ready]
    exact chosen.executes_of_image 2 memory rfl (by decide) (by decide)
  have two : (loaded.act .step).processor.registers.read 1 = 2 := by
    rw [ready]
    exact Registers.read_write_self _ 1 2
  have stores : (loaded.act .step).processor.store? = some (.sound, 2) := by
    rw [Processor.store?, Processor.instruction?_of_executes _ sets]
    simp only [two]
  have stored : machine.timer .sound = 2 := by
    have kept := processor_startTimers ((loaded.act .step).act .step) (.breakingAt 1)
    refine Eq.trans ?_ ((loaded.act .step).timer_step_of_store stores)
    exact congrArg (fun processor : Processor => (processor.timers.get .sound).toNat) kept
  have clocks : machine.clocks =
      [Clock.delay (period 60), Clock.sounding (period 60) (.breakingAt 1)] :=
    ((loaded.act .step).act .step).clocks_startTimers_of_some _ rfl
  have next : machine.BreaksNext := by
    refine (machine.breaksNext_iff_of_both clocks).mpr ⟨rfl, ⟨rfl, by decide⟩, ?_, rfl⟩
    intro zero
    simp [timer, zero] at stored
  obtain ⟨-, started, -, -, -, -, -, -, breaks⟩ :=
    clocks_of_history .standard (.constant 0)
      [.load (.ofBytes [0x61, 0x02, 0xF1, 0x18]), .step, .step, .startTimers (.breakingAt 1)]
  obtain ⟨lowered, -, -, silenced⟩ := breaks next
  obtain ⟨-, -, -, -, resting, -⟩ :=
    clocks_of_history { Settings.standard with timerRate := 0 } (.constant 0) []
  refine ⟨stored, next, ?_, silenced _ (by decide), (started (by decide) .mute).2,
    resting rfl .mute⟩
  rw [stored] at lowered
  exact Nat.succ.inj lowered

end Machine

end Chip8
