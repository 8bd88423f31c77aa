import Chip8.Proofs.Machine.Pacing
import Chip8.Proofs.Timer.Lives
import Chip8.Proofs.Timer.Sharing

set_option autoImplicit false

namespace Chip8

namespace Clock

theorem answer_tick (clock : Clock) (value : Byte) :
    (clock.tick value).1.sound.answer = clock.sound.answer := by
  rw [clock_tick]
  split
  next => rfl
  next => rfl

theorem ticks_tick_of_not_breaks (clock : Clock) (value : Byte) (ticks : clock.Ticks)
    (lasts : ¬ clock.Breaks value) : (clock.tick value).1.Ticks := by
  have status := clock.status_tick value
  rw [if_neg lasts] at status
  exact ⟨status.trans ticks.1, (clock.role_tick value).2 ▸ ticks.2⟩

end Clock

structure Clockwork where
  counters : Counters
  handle : TimerRole → Handle
  clock : TimerRole → Clock
  own (role : TimerRole) : (clock role).role = role

namespace Clockwork

def start (counters : Counters) (delay sound : Handle) (delayPeriod soundPeriod : Nat)
    (tone : Sound) : Clockwork where
  counters := counters
  handle
    | .delay => delay
    | .sound => sound
  clock
    | .delay => .delay delayPeriod
    | .sound => .sounding soundPeriod tone
  own
    | .delay => rfl
    | .sound => rfl

def tick (work : Clockwork) (role : TimerRole) : Clockwork :=
  let ticked := (work.clock role).tick (work.counters.get (work.handle role))
  { counters := work.counters.set (work.handle role) ticked.2
    handle := work.handle
    clock := Function.update work.clock role ticked.1
    own := by
      intro other
      by_cases same : other = role
      next =>
        rw [same, Function.update_self]
        exact ((work.clock role).role_tick _).1.trans (work.own role)
      next =>
        rw [Function.update_of_ne same]
        exact work.own other }

def ticks (work : Clockwork) (roles : List TimerRole) : Clockwork := roles.foldl tick work

def beeps (work : Clockwork) : Nat := (work.clock .sound).sound.beeps

def Runs : Clockwork → List TimerRole → Prop
  | _, [] => True
  | work, role :: rest => (work.clock role).Ticks ∧ (work.tick role).Runs rest

@[simp]
theorem handle_tick (work : Clockwork) (role : TimerRole) :
    (work.tick role).handle = work.handle := rfl

theorem clock_tick (work : Clockwork) (role other : TimerRole) :
    (work.tick role).clock other =
      if other = role then
        ((work.clock role).tick (work.counters.get (work.handle role))).1
      else work.clock other :=
  Function.update_apply work.clock role _ other

theorem share_of_ticks (work : Clockwork) (role : TimerRole) (runs : (work.clock role).Ticks) :
    (work.clock role).share role = 1 :=
  if_pos ⟨work.own role, runs⟩

theorem value_tick (work : Clockwork) (role : TimerRole) (runs : (work.clock role).Ticks)
    (read : Handle) :
    (work.tick role).counters.value read =
      work.counters.value read - if work.handle role = read then 1 else 0 := by
  have lowered := (work.clock role).toNat_tick (work.counters.get (work.handle role))
  rw [work.own role, work.share_of_ticks role runs] at lowered
  have set := work.counters.value_set_of_le (work.handle role) read
    ((work.clock role).tick (work.counters.get (work.handle role))).2
    (lowered ▸ Nat.sub_le _ 1)
  refine set.trans ?_
  split
  next same => rw [lowered, same, Counters.value]
  next => rfl

theorem beeps_tick_delay (work : Clockwork) : (work.tick .delay).beeps = work.beeps := by
  have other : TimerRole.sound ≠ .delay := nofun
  rw [beeps, clock_tick, if_neg other, beeps]

theorem beeps_tick_sound (work : Clockwork) (runs : (work.clock .sound).Ticks) :
    (work.tick .sound).beeps =
      work.beeps + min (work.counters.value (work.handle .sound)) 1 := by
  have beeped := (work.clock .sound).beeps_tick_sound
    (work.counters.get (work.handle .sound)) (work.own .sound)
  rw [work.share_of_ticks .sound runs] at beeped
  rw [beeps, clock_tick, if_pos rfl]
  exact beeped

theorem value_ticks (work : Clockwork) (roles : List TimerRole) (runs : work.Runs roles)
    (read : Handle) :
    (work.ticks roles).counters.value read =
      work.counters.value read - roles.countP fun role => work.handle role = read := by
  induction roles generalizing work with
  | nil => rfl
  | cons role rest ih =>
    obtain ⟨first, others⟩ := runs
    have later := ih (work.tick role) others
    refine later.trans ?_
    rw [work.value_tick role first read, List.countP_cons, Nat.sub_sub, Nat.add_comm]
    simp only [decide_eq_true_eq]
    rfl

theorem beeps_ticks (work : Clockwork) (roles : List TimerRole) (runs : work.Runs roles)
    (apart : work.handle .delay ≠ work.handle .sound) :
    (work.ticks roles).beeps =
      work.beeps + min (work.counters.value (work.handle .sound)) (roles.count .sound) := by
  induction roles generalizing work with
  | nil => exact (congrArg (work.beeps + ·) (Nat.min_zero _)).symm
  | cons role rest ih =>
    obtain ⟨first, others⟩ := runs
    have left := work.value_tick role first (work.handle .sound)
    refine (ih (work.tick role) others apart).trans ?_
    cases role with
    | delay =>
      have other : TimerRole.delay ≠ .sound := nofun
      rw [if_neg apart] at left
      rw [beeps_tick_delay, handle_tick, left, List.count_cons_of_ne other, Nat.sub_zero]
    | sound =>
      rw [if_pos rfl] at left
      rw [work.beeps_tick_sound first, handle_tick, left, List.count_cons_self]
      omega

structure Lasting (work : Clockwork) : Prop where
  ticks (role : TimerRole) : (work.clock role).Ticks
  lasts : (work.clock .sound).sound.Lasts

theorem lasting_start (counters : Counters) (delay sound : Handle) {delayPeriod soundPeriod : Nat}
    {tone : Sound} (delays : 0 < delayPeriod) (sounds : 0 < soundPeriod) (lasts : tone.Lasts) :
    (start counters delay sound delayPeriod soundPeriod tone).Lasting where
  ticks
    | .delay => ⟨rfl, delays⟩
    | .sound => ⟨rfl, sounds⟩
  lasts := lasts

theorem Lasting.tick {work : Clockwork} (lasting : work.Lasting) (role : TimerRole) :
    (work.tick role).Lasting := by
  have unbroken : ¬ (work.clock role).Breaks (work.counters.get (work.handle role)) := by
    rintro ⟨sounds, -, -, breaks⟩
    have same : role = .sound := (work.own role).symm.trans sounds
    subst same
    exact lasting.lasts _ breaks
  have still := (work.clock role).ticks_tick_of_not_breaks _ (lasting.ticks role) unbroken
  constructor
  case ticks =>
    intro other
    rw [clock_tick]
    split
    next => exact still
    next => exact lasting.ticks other
  case lasts =>
    intro earlier
    rw [clock_tick]
    split
    next same =>
      rw [Clock.answer_tick, ← same]
      exact lasting.lasts earlier
    next => exact lasting.lasts earlier

theorem Lasting.runs {work : Clockwork} (lasting : work.Lasting) (roles : List TimerRole) :
    work.Runs roles := by
  induction roles generalizing work with
  | nil => trivial
  | cons role rest ih => exact ⟨lasting.ticks role, ih (lasting.tick role)⟩

end Clockwork

end Chip8
