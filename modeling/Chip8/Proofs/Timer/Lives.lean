import Chip8.Timer.Clock

set_option autoImplicit false

namespace Chip8

namespace Event

def starts (role : TimerRole) : Event → Bool
  | clockStarted started _ => started = role
  | _ => false

def ends (role : TimerRole) : Event → Bool
  | clockStopped ended => ended = role
  | clockBroken ended => ended = role
  | _ => false

def Unclocked (event : Event) : Prop :=
  ∀ role, event.starts role = false ∧ event.ends role = false

section Unclocked

variable {journal : List Event} (unclocked : ∀ event ∈ journal, event.Unclocked) (role : TimerRole)
include unclocked

theorem starts_of_unclocked : journal.countP (starts role) = 0 := by
  apply List.countP_eq_zero.mpr
  intro event member
  simp [(unclocked event member role).1]

theorem ends_of_unclocked : journal.countP (ends role) = 0 := by
  apply List.countP_eq_zero.mpr
  intro event member
  simp [(unclocked event member role).2]

theorem breaks_of_unclocked : journal.count (.clockBroken role) = 0 := by
  apply List.count_eq_zero.mpr
  intro member
  have ends := (unclocked _ member role).2
  simp [Event.ends] at ends

end Unclocked

end Event

namespace Clock

def held (role : TimerRole) (clocks : List Clock) : Nat :=
  clocks.countP fun clock => clock.role = role

def live (role : TimerRole) (clocks : List Clock) : List Clock :=
  clocks.filter fun clock => clock.role = role ∧ clock.Live

def broken (role : TimerRole) (clocks : List Clock) : Nat :=
  clocks.countP fun clock => clock.role = role ∧ clock.status = .broken

theorem role_delay_ne_sound (period : Nat) : (delay period).role ≠ .sound := nofun

section Both

variable (period : Nat) {sounding : Clock} (role : sounding.role = .sound)
include role

theorem held_both (either : TimerRole) : held either [delay period, sounding] = 1 := by
  cases either <;> simp [held, delay, role]

theorem live_delay_both : live .delay [delay period, sounding] = [delay period] := by
  simp [live, delay, Live, role]

theorem live_sound_both :
    live .sound [delay period, sounding] = if sounding.Live then [sounding] else [] := by
  by_cases lives : sounding.Live <;> simp [live, delay, role, lives]

theorem broken_delay_both : broken .delay [delay period, sounding] = 0 := by
  simp [broken, delay, role]

theorem broken_sound_both :
    broken .sound [delay period, sounding] = if sounding.status = .broken then 1 else 0 := by
  simp [broken, List.countP_cons, delay, role]

end Both

theorem held_eq_live_add_broken (role : TimerRole) (clocks : List Clock)
    (unstopped : ∀ clock ∈ clocks, clock.status ≠ .stopped) :
    held role clocks = (live role clocks).length + broken role clocks := by
  induction clocks with
  | nil => rfl
  | cons clock rest ih =>
    obtain ⟨first, others⟩ := List.forall_mem_cons.mp unstopped
    have counted := ih others
    simp only [held, live, broken, ← List.countP_eq_length_filter] at counted ⊢
    rw [List.countP_cons, List.countP_cons, List.countP_cons, counted]
    by_cases own : clock.role = role
    next =>
      cases status : clock.status with
      | running =>
        simp only [own, Live, status]
        simp
        omega
      | broken =>
        simp only [own, Live, status]
        simp
        omega
      | stopped => exact absurd status first
    next => simp [own]

theorem stop_stop (clock : Clock) :
    clock.stop.state.stop = { state := clock.stop.state, answer := (), journal := [] } := rfl

theorem held_stopAll (role : TimerRole) (clocks : List Clock) :
    held role (stopAll clocks).state = held role clocks :=
  List.countP_map

theorem live_of_stopped (role : TimerRole) {clocks : List Clock}
    (stopped : ∀ clock ∈ clocks, clock.status = .stopped) : live role clocks = [] := by
  apply List.filter_eq_nil_iff.mpr
  intro clock member
  simp [Live, stopped clock member]

theorem starts_stop (role : TimerRole) (clocks : List Clock) :
    (stopAll clocks).journal.countP (Event.starts role) = 0 := by
  rw [stopAll]
  induction clocks with
  | nil => rfl
  | cons clock rest ih =>
    have silent : clock.stop.journal.countP (Event.starts role) = 0 := by
      cases status : clock.status <;> simp [stop, status, Event.starts]
    rw [List.flatMap_cons, List.countP_append, ih, silent]

theorem ends_stop (role : TimerRole) (clocks : List Clock)
    (unstopped : ∀ clock ∈ clocks, clock.status ≠ .stopped) :
    (stopAll clocks).journal.countP (Event.ends role) = held role clocks := by
  rw [stopAll]
  induction clocks with
  | nil => rfl
  | cons clock rest ih =>
    obtain ⟨first, others⟩ := List.forall_mem_cons.mp unstopped
    have told : clock.stop.journal.countP (Event.ends role) =
        if clock.role = role then 1 else 0 := by
      cases status : clock.status with
      | running => simp [stop, status, Event.ends, List.countP_cons]
      | broken => simp [stop, status, Event.ends, List.countP_cons]
      | stopped => exact absurd status first
    rw [List.flatMap_cons, List.countP_append, ih others, told, held, held, List.countP_cons]
    simp [Nat.add_comm]

theorem breaks_stop (role : TimerRole) (clocks : List Clock) :
    (stopAll clocks).journal.count (.clockBroken role) = broken role clocks := by
  rw [stopAll]
  induction clocks with
  | nil => rfl
  | cons clock rest ih =>
    have told : clock.stop.journal.count (.clockBroken role) =
        if clock.role = role ∧ clock.status = .broken then 1 else 0 := by
      cases status : clock.status <;> simp [stop, status, List.count_cons]
    rw [List.flatMap_cons, List.count_append, ih, told, broken, broken, List.countP_cons]
    simp [Nat.add_comm]

def Breaks (clock : Clock) (value : Byte) : Prop :=
  clock.role = .sound ∧ clock.Ticks ∧ value ≠ 0 ∧
    clock.sound.answer clock.sound.beeps = .broken

instance (clock : Clock) (value : Byte) : Decidable (clock.Breaks value) :=
  inferInstanceAs (Decidable (clock.role = .sound ∧ clock.Ticks ∧ value ≠ 0 ∧
    clock.sound.answer clock.sound.beeps = .broken))

theorem not_live_of_broken (clock : Clock) (broken : clock.status = .broken) : ¬ clock.Live := by
  rw [Live, broken]
  nofun

theorem tick_of_not_live (clock : Clock) (value : Byte) (dead : ¬ clock.Live) :
    clock.tick value = (clock, value) := by
  have stands : ¬ clock.Ticks := fun ticks => dead ticks.1
  rw [tick, if_neg stands]

theorem clock_tick (clock : Clock) (value : Byte) :
    (clock.tick value).1 =
      if clock.role = .sound ∧ clock.Ticks ∧ value ≠ 0 then clock.beep else clock := by
  rw [tick]
  by_cases ticks : clock.Ticks
  next =>
    cases role : clock.role with
    | delay => simp [ticks]
    | sound =>
      by_cases zero : value = 0
      next => simp [ticks, zero, countDown]
      next =>
        have lowers : countDown value = (value - 1, true) := if_neg zero
        rw [if_pos ticks, if_pos ⟨rfl, ticks, zero⟩, lowers]
        rfl
  next => simp [ticks]

theorem status_tick (clock : Clock) (value : Byte) :
    (clock.tick value).1.status = if clock.Breaks value then .broken else clock.status := by
  rw [clock_tick]
  by_cases beeps : clock.role = .sound ∧ clock.Ticks ∧ value ≠ 0
  next =>
    obtain ⟨role, ticks, positive⟩ := beeps
    rw [if_pos ⟨role, ticks, positive⟩]
    simp only [Breaks, role, ticks, positive, ne_eq, not_false_eq_true, true_and]
    rfl
  next =>
    have lasts : ¬ clock.Breaks value := fun breaks => beeps ⟨breaks.1, breaks.2.1, breaks.2.2.1⟩
    rw [if_neg beeps, if_neg lasts]

theorem unstopped_tick (clock : Clock) (value : Byte) (unstopped : clock.status ≠ .stopped) :
    (clock.tick value).1.status ≠ .stopped := by
  rw [status_tick]
  split
  next => nofun
  next => exact unstopped

theorem role_tick (clock : Clock) (value : Byte) :
    (clock.tick value).1.role = clock.role ∧ (clock.tick value).1.period = clock.period := by
  rw [clock_tick]
  split
  next => exact ⟨rfl, rfl⟩
  next => exact ⟨rfl, rfl⟩

theorem clocks_tickAll_delay (clocks : List Clock) (value : Byte) :
    (tickAll .delay clocks value).1 = clocks := by
  induction clocks generalizing value with
  | nil => rfl
  | cons clock rest ih =>
    by_cases own : clock.role = .delay
    next => simp [tickAll, ih, clock_tick, own]
    next => simp [tickAll, ih, own]

end Clock

end Chip8
