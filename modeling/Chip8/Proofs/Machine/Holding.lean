import Chip8.Proofs.Machine.History
import Chip8.Proofs.Processor.Stepping
import Chip8.Proofs.Timer.Lives

set_option autoImplicit false

namespace Chip8

namespace Machine

def writes (machine : Machine) : Action → List Event
  | .step => machine.step.journal
  | .load stream => (machine.load stream).journal
  | .startTimers sound => (machine.startTimers sound).journal
  | .stopTimers => machine.stopTimers.journal
  | _ => []

/-- The next tick of the sound clock makes a beep, which breaks. -/
def BreaksNext (machine : Machine) : Prop :=
  ∃ clock ∈ machine.clocks, clock.Breaks (machine.processor.timers.get .sound)

instance (machine : Machine) : Decidable machine.BreaksNext :=
  inferInstanceAs (Decidable (∃ clock ∈ machine.clocks,
    clock.Breaks (machine.processor.timers.get .sound)))

def breaking (machine : Machine) : Action → List TimerRole
  | .tickClock .sound => if machine.BreaksNext then [.sound] else []
  | _ => []

inductive HoldsClocks (machine : Machine) : Prop where
  | none (clocks : machine.clocks = [])
  | both (period : Nat) (sounding : Clock) (rate : machine.settings.timerPeriod? = some period)
      (role : sounding.role = .sound) (paced : sounding.period = period)
      (unstopped : sounding.status ≠ .stopped)
      (clocks : machine.clocks = [Clock.delay period, sounding])

theorem settings_act (machine : Machine) (action : Action) :
    (machine.act action).settings = machine.settings := by
  cases action with
  | startTimers sound =>
    simp only [act, startTimers]
    split
    next => rfl
    next => rfl
  | _ => rfl

theorem settings_actAll (machine : Machine) (actions : List Action) :
    (machine.actAll actions).settings = machine.settings := by
  apply holds_actAll (fun later => later.settings = machine.settings)
  · intro later action same
    exact (later.settings_act action).trans same
  · rfl

theorem clocks_startTimers_of_some (machine : Machine) (sound : Sound) {period : Nat}
    (rate : machine.settings.timerPeriod? = some period) :
    (machine.startTimers sound).state.clocks = [Clock.delay period, Clock.sounding period sound] := by
  simp only [startTimers, rate]

theorem clocks_startTimers_of_none (machine : Machine) (sound : Sound)
    (rate : machine.settings.timerPeriod? = none) :
    (machine.startTimers sound).state.clocks = [] := by
  simp only [startTimers, rate]
  rfl

theorem clocks_tickClock (machine : Machine) (role : TimerRole) :
    (machine.act (.tickClock role)).clocks =
      (Clock.tickAll role machine.clocks (machine.processor.timers.get role)).1 := rfl

theorem clocks_tickClock_delay (machine : Machine) :
    (machine.act (.tickClock .delay)).clocks = machine.clocks :=
  Clock.clocks_tickAll_delay machine.clocks _

theorem clocks_tickClock_sound (machine : Machine) {period : Nat} {sounding : Clock}
    (role : sounding.role = .sound) (clocks : machine.clocks = [Clock.delay period, sounding]) :
    (machine.act (.tickClock .sound)).clocks =
      [Clock.delay period, (sounding.tick (machine.processor.timers.get .sound)).1] := by
  have other := Clock.role_delay_ne_sound period
  rw [clocks_tickClock, clocks]
  simp only [Clock.tickAll, if_neg other, if_pos role]

theorem HoldsClocks.congr {machine other : Machine} (holds : machine.HoldsClocks)
    (settings : other.settings = machine.settings) (same : other.clocks = machine.clocks) :
    other.HoldsClocks := by
  cases holds with
  | none clocks => exact .none (same.trans clocks)
  | both period sounding rate role paced unstopped clocks =>
    rw [← settings] at rate
    exact .both period sounding rate role paced unstopped (same.trans clocks)

theorem HoldsClocks.tickSound {machine : Machine} (holds : machine.HoldsClocks) :
    (machine.act (.tickClock .sound)).HoldsClocks := by
  cases holds with
  | none clocks =>
    apply HoldsClocks.none
    rw [clocks_tickClock, clocks]
    rfl
  | both period sounding rate role paced unstopped clocks =>
    have ticked := machine.clocks_tickClock_sound role clocks
    have still := sounding.unstopped_tick (machine.processor.timers.get .sound) unstopped
    obtain ⟨sameRole, samePeriod⟩ := sounding.role_tick (machine.processor.timers.get .sound)
    exact .both period _ rate (sameRole.trans role) (samePeriod.trans paced) still ticked

theorem holdsClocks_startTimers (machine : Machine) (sound : Sound) :
    (machine.act (.startTimers sound)).HoldsClocks := by
  have settings := machine.settings_act (.startTimers sound)
  cases rate : machine.settings.timerPeriod? with
  | none => exact .none (machine.clocks_startTimers_of_none sound rate)
  | some period =>
    have clocks := machine.clocks_startTimers_of_some sound rate
    rw [← settings] at rate
    exact .both period (Clock.sounding period sound) rate rfl rfl nofun clocks

theorem holdsClocks_act (machine : Machine) (holds : machine.HoldsClocks) (action : Action) :
    (machine.act action).HoldsClocks := by
  cases action with
  | startTimers sound => exact machine.holdsClocks_startTimers sound
  | stopTimers => exact .none rfl
  | tickClock role =>
    cases role with
    | delay => exact holds.congr rfl machine.clocks_tickClock_delay
    | sound => exact holds.tickSound
  | _ => exact holds.congr rfl rfl

theorem holdsClocks_actAll (machine : Machine) (holds : machine.HoldsClocks)
    (actions : List Action) : (machine.actAll actions).HoldsClocks := by
  apply holds_actAll HoldsClocks _ machine holds
  intro later action holds
  exact later.holdsClocks_act holds action

theorem live_threads (machine : Machine) (role : TimerRole) :
    Clock.live role machine.threads = Clock.live role machine.clocks := by
  have none := Clock.live_of_stopped role machine.rests
  rw [threads, Clock.live, List.filter_append]
  exact (congrArg (_ ++ ·) none).trans (List.append_nil _)

theorem held_threads (machine : Machine) (role : TimerRole) :
    Clock.held role machine.threads =
      Clock.held role machine.clocks + Clock.held role machine.stopped :=
  List.countP_append

theorem HoldsClocks.length_live_le {machine : Machine} (holds : machine.HoldsClocks)
    (role : TimerRole) : (Clock.live role machine.clocks).length ≤ 1 := by
  cases holds with
  | none clocks => simp [clocks, Clock.live]
  | both period sounding rate sounds paced unstopped clocks =>
    rw [clocks]
    cases role with
    | delay => simp [Clock.live_delay_both period sounds]
    | sound =>
      rw [Clock.live_sound_both period sounds]
      split
      next => exact Nat.le_refl 1
      next => exact Nat.zero_le 1

theorem HoldsClocks.unstopped {machine : Machine} (holds : machine.HoldsClocks) :
    ∀ clock ∈ machine.clocks, clock.status ≠ .stopped := by
  cases holds with
  | none clocks =>
    rw [clocks]
    nofun
  | both period sounding rate role paced unstopped clocks =>
    rw [clocks]
    refine List.forall_mem_cons.mpr ⟨nofun, ?_⟩
    exact List.forall_mem_singleton.mpr unstopped

theorem unclocked_step (machine : Machine) : ∀ event ∈ machine.step.journal, event.Unclocked := by
  intro event member role
  obtain rfl | rfl := machine.processor.entry_or_skipped_of_mem_step event member
  next => exact ⟨rfl, rfl⟩
  next => exact ⟨rfl, rfl⟩

theorem unclocked_load (machine : Machine) (stream : Stream) :
    ∀ event ∈ (machine.load stream).journal, event.Unclocked := by
  simp only [load, Memory.loadStream, Memory.load]
  split
  next => exact List.forall_mem_nil _
  next =>
    split
    next => exact List.forall_mem_nil _
    next => exact List.forall_mem_singleton.mpr fun role => ⟨rfl, rfl⟩

/--
From one machine to a later one, a journal tells of all clocks that were started and
that ended, and those that ended are kept as stopped. It tells of each break, or else the
broken clock is still held.
-/
structure Accounts (machine : Machine) (journal : List Event) (breaking : List TimerRole)
    (later : Machine) (role : TimerRole) : Prop where
  clocks : Clock.held role machine.clocks + journal.countP (Event.starts role) =
    journal.countP (Event.ends role) + Clock.held role later.clocks
  stopped : Clock.held role machine.stopped + journal.countP (Event.ends role) =
    Clock.held role later.stopped
  breaks : Clock.broken role machine.clocks + breaking.count role =
    journal.count (.clockBroken role) + Clock.broken role later.clocks

theorem Accounts.idle {machine later : Machine} {journal : List Event} {role : TimerRole}
    (same : later.clocks = machine.clocks) (kept : later.stopped = machine.stopped)
    (unclocked : ∀ event ∈ journal, event.Unclocked) :
    machine.Accounts journal [] later role := by
  have starts := Event.starts_of_unclocked unclocked role
  have ends := Event.ends_of_unclocked unclocked role
  have breaks := Event.breaks_of_unclocked unclocked role
  constructor
  case clocks => rw [same, starts, ends, Nat.add_comm]
  case stopped => rw [kept, ends, Nat.add_zero]
  case breaks => rw [same, breaks, List.count_nil, Nat.add_comm]

theorem Accounts.append {machine later last : Machine} {journal others : List Event}
    {breaking more : List TimerRole} {role : TimerRole}
    (first : machine.Accounts journal breaking later role)
    (second : later.Accounts others more last role) :
    machine.Accounts (journal ++ others) (breaking ++ more) last role := by
  obtain ⟨clocks, stopped, breaks⟩ := first
  obtain ⟨moreClocks, moreStopped, moreBreaks⟩ := second
  constructor
  case clocks =>
    rw [List.countP_append, List.countP_append]
    omega
  case stopped =>
    rw [List.countP_append]
    omega
  case breaks =>
    rw [List.count_append, List.count_append]
    omega

theorem HoldsClocks.accounts_stopTimers {machine : Machine} (holds : machine.HoldsClocks)
    (role : TimerRole) :
    machine.Accounts machine.stopTimers.journal [] machine.stopTimers.state role := by
  have starts := Clock.starts_stop role machine.clocks
  have ends := Clock.ends_stop role machine.clocks holds.unstopped
  have breaks := Clock.breaks_stop role machine.clocks
  have kept := Clock.held_stopAll role machine.clocks
  constructor
  case clocks =>
    simp only [stopTimers, starts, ends]
    rfl
  case stopped =>
    simp only [stopTimers, ends]
    rw [← kept, Nat.add_comm]
    exact List.countP_append.symm
  case breaks =>
    simp only [stopTimers, breaks]
    rfl

theorem HoldsClocks.accounts_startTimers {machine : Machine} (holds : machine.HoldsClocks)
    (sound : Sound) (role : TimerRole) :
    machine.Accounts (machine.startTimers sound).journal [] (machine.startTimers sound).state
      role := by
  have stopped := holds.accounts_stopTimers role
  have none : machine.stopTimers.state.clocks = [] := rfl
  rw [startTimers]
  split
  next => exact stopped.append (.idle rfl rfl (List.forall_mem_singleton.mpr fun _ => ⟨rfl, rfl⟩))
  next period rate =>
    dsimp only
    rw [List.append_assoc]
    -- All that was held has ended, so the two new clocks are all there is.
    apply stopped.append
    constructor
    case clocks =>
      cases role <;> simp [none, Clock.held, Clock.started, Clock.delay, Clock.sounding,
        Event.starts, Event.ends]
    case stopped =>
      cases role <;> simp [Clock.started, Event.ends]
    case breaks =>
      cases role <;> simp [none, Clock.broken, Clock.started, Clock.delay, Clock.sounding]

theorem breaksNext_iff_of_both (machine : Machine) {period : Nat} {sounding : Clock}
    (clocks : machine.clocks = [Clock.delay period, sounding]) :
    machine.BreaksNext ↔ sounding.Breaks (machine.processor.timers.get .sound) := by
  have lasts : ¬ (Clock.delay period).Breaks (machine.processor.timers.get .sound) := fun breaks =>
    nomatch breaks.1
  simp [BreaksNext, clocks, lasts]

theorem HoldsClocks.accounts_tickSound {machine : Machine} (holds : machine.HoldsClocks)
    (role : TimerRole) :
    machine.Accounts [] (machine.breaking (.tickClock .sound)) (machine.act (.tickClock .sound))
      role := by
  cases holds with
  | none clocks =>
    have lasts : ¬ machine.BreaksNext := by simp [BreaksNext, clocks]
    have same : (machine.act (.tickClock .sound)).clocks = machine.clocks := by
      rw [clocks_tickClock, clocks]
      rfl
    rw [breaking, if_neg lasts]
    exact .idle same rfl (List.forall_mem_nil _)
  | both period sounding rate sounds paced unstopped clocks =>
    have ticked := machine.clocks_tickClock_sound sounds clocks
    have status := sounding.status_tick (machine.processor.timers.get .sound)
    have still := (sounding.role_tick (machine.processor.timers.get .sound)).1.trans sounds
    constructor
    case clocks =>
      rw [ticked, clocks, Clock.held_both period sounds, Clock.held_both period still]
      rfl
    case stopped => rfl
    case breaks =>
      simp only [ticked, clocks, breaking, machine.breaksNext_iff_of_both clocks]
      cases role with
      | delay =>
        rw [Clock.broken_delay_both period sounds, Clock.broken_delay_both period still]
        split <;> rfl
      | sound =>
        rw [Clock.broken_sound_both period sounds, Clock.broken_sound_both period still, status]
        by_cases breaks : sounding.Breaks (machine.processor.timers.get .sound)
        next =>
          -- Only a running clock can break, so none was broken before.
          have runs : sounding.status = .running := breaks.2.1.1
          simp [breaks, runs]
        next => simp [breaks]

theorem HoldsClocks.accounts_act {machine : Machine} (holds : machine.HoldsClocks)
    (action : Action) (role : TimerRole) :
    machine.Accounts (machine.writes action) (machine.breaking action) (machine.act action)
      role := by
  cases action with
  | step => exact .idle rfl rfl machine.unclocked_step
  | load stream => exact .idle rfl rfl (machine.unclocked_load stream)
  | startTimers sound => exact holds.accounts_startTimers sound role
  | stopTimers => exact holds.accounts_stopTimers role
  | tickClock ticked =>
    cases ticked with
    | delay => exact .idle machine.clocks_tickClock_delay rfl (List.forall_mem_nil _)
    | sound => exact holds.accounts_tickSound role
  | _ => exact .idle rfl rfl (List.forall_mem_nil _)

theorem HoldsClocks.accounts_actAll {machine : Machine} (holds : machine.HoldsClocks)
    (actions : List Action) (role : TimerRole) :
    machine.Accounts (machine.gather writes actions) (machine.gather breaking actions)
      (machine.actAll actions) role := by
  induction actions generalizing machine with
  | nil => exact .idle rfl rfl (List.forall_mem_nil _)
  | cons action rest ih =>
    have later := ih (machine.holdsClocks_act holds action)
    exact (holds.accounts_act action role).append later

end Machine

end Chip8
