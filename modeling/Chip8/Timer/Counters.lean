import Chip8.Timer.Basic

set_option autoImplicit false

namespace Chip8

/-- Names a counter of a store. Handles with one name are clones, and show what any of them does. -/
structure Handle where
  counter : Nat
  deriving DecidableEq, Repr

structure Counters where
  values : Array Byte := #[]
  deriving DecidableEq, Repr

namespace Counters

def create (counters : Counters) : Counters × Handle :=
  (⟨counters.values.push 0⟩, ⟨counters.values.size⟩)

def Has (counters : Counters) (handle : Handle) : Prop := handle.counter < counters.values.size

def get (counters : Counters) (handle : Handle) : Byte := counters.values.getD handle.counter 0

def set (counters : Counters) (handle : Handle) (value : Byte) : Counters :=
  ⟨counters.values.setIfInBounds handle.counter value⟩

def tick (counters : Counters) (handle : Handle) : Counters × Bool :=
  let (value, running) := countDown (counters.get handle)
  (counters.set handle value, running)

-- Ticks the delay handle and then the sound handle; the second one's tick may beep.
def tickBoth (counters : Counters) (delay sound : Handle) : Counters × Bool :=
  (counters.tick delay).1.tick sound

def ticksBoth (counters : Counters) (delay sound : Handle) : Nat → Counters × Nat
  | 0 => (counters, 0)
  | count + 1 =>
      let (after, beep) := counters.tickBoth delay sound
      let (final, beeps) := after.ticksBoth delay sound count
      (final, beep.toNat + beeps)

theorem get_set (counters : Counters) (written read : Handle) (value : Byte)
    (present : counters.Has written) :
    (counters.set written value).get read = if written = read then value else counters.get read := by
  cases written
  cases read
  simp only [Has] at present
  simp only [get, set, Array.getD_eq_getD_getElem?, Array.getElem?_setIfInBounds, Handle.mk.injEq]
  split
  · simp
  · rfl

theorem ext_get {left right : Counters} (size : left.values.size = right.values.size)
    (same : ∀ handle, left.get handle = right.get handle) : left = right := by
  cases left
  cases right
  refine congrArg Counters.mk (Array.ext size fun place inLeft inRight => ?_)
  simpa [get, inLeft, inRight] using same ⟨place⟩

theorem set_get_self (counters : Counters) (handle : Handle) (present : counters.Has handle) :
    counters.set handle (counters.get handle) = counters := by
  apply ext_get
  · simp [set]
  · intro read
    rw [counters.get_set handle read _ present]
    split
    next same => rw [same]
    next => rfl

@[simp]
theorem size_set (counters : Counters) (handle : Handle) (value : Byte) :
    (counters.set handle value).values.size = counters.values.size :=
  Array.size_setIfInBounds

@[simp]
theorem size_tick (counters : Counters) (handle : Handle) :
    (counters.tick handle).1.values.size = counters.values.size :=
  counters.size_set handle _

@[simp]
theorem size_tickBoth (counters : Counters) (delay sound : Handle) :
    (counters.tickBoth delay sound).1.values.size = counters.values.size :=
  ((counters.tick delay).1.size_tick sound).trans (counters.size_tick delay)

@[simp]
theorem size_ticksBoth (counters : Counters) (delay sound : Handle) (count : Nat) :
    (counters.ticksBoth delay sound count).1.values.size = counters.values.size := by
  induction count generalizing counters with
  | zero => rfl
  | succ count ih => exact (ih _).trans (counters.size_tickBoth delay sound)

end Counters

/-- The timers of a processor: two counters of a store, or one and the same. -/
structure Timers where
  counters : Counters
  delay : Handle
  sound : Handle
  hasDelay : counters.Has delay
  hasSound : counters.Has sound

namespace Timers

def ofValues (delay sound : Byte) : Timers where
  counters := ⟨#[delay, sound]⟩
  delay := ⟨0⟩
  sound := ⟨1⟩
  hasDelay := Nat.zero_lt_two
  hasSound := Nat.one_lt_two

def fresh : Timers := ofValues 0 0

def handle (timers : Timers) : TimerRole → Handle
  | .delay => timers.delay
  | .sound => timers.sound

theorem has_handle (timers : Timers) (role : TimerRole) :
    timers.counters.Has (timers.handle role) := by
  cases role with
  | delay => exact timers.hasDelay
  | sound => exact timers.hasSound

def withCounters (timers : Timers) (counters : Counters)
    (size : counters.values.size = timers.counters.values.size) : Timers where
  counters := counters
  delay := timers.delay
  sound := timers.sound
  hasDelay := Nat.lt_of_lt_of_eq timers.hasDelay size.symm
  hasSound := Nat.lt_of_lt_of_eq timers.hasSound size.symm

def get (timers : Timers) (role : TimerRole) : Byte := timers.counters.get (timers.handle role)

def set (timers : Timers) (role : TimerRole) (value : Byte) : Timers :=
  timers.withCounters (timers.counters.set (timers.handle role) value)
    (timers.counters.size_set (timers.handle role) value)

def tick (timers : Timers) (role : TimerRole) : Timers × Bool :=
  let ticked := timers.counters.tick (timers.handle role)
  (timers.withCounters ticked.1 (timers.counters.size_tick (timers.handle role)), ticked.2)

def tickBoth (timers : Timers) : Timers × Bool :=
  let ticked := timers.counters.tickBoth timers.delay timers.sound
  (timers.withCounters ticked.1 (timers.counters.size_tickBoth timers.delay timers.sound),
    ticked.2)

def ticksBoth (timers : Timers) (count : Nat) : Timers × Nat :=
  let ticked := timers.counters.ticksBoth timers.delay timers.sound count
  (timers.withCounters ticked.1 (timers.counters.size_ticksBoth timers.delay timers.sound count),
    ticked.2)

def Apart (timers : Timers) : Prop := timers.handle .delay ≠ timers.handle .sound

theorem apart_ofValues (delay sound : Byte) : (ofValues delay sound).Apart := by
  simp [Apart, handle, ofValues]

theorem handle_eq_iff {timers : Timers} (apart : timers.Apart) (role other : TimerRole) :
    timers.handle role = timers.handle other ↔ role = other := by
  rw [Apart] at apart
  cases role <;> cases other <;> simp [apart, Ne.symm apart]

theorem ext_get {left right : Timers} (handles : left.handle = right.handle)
    (size : left.counters.values.size = right.counters.values.size)
    (same : ∀ handle, left.counters.get handle = right.counters.get handle) : left = right := by
  have counters := Counters.ext_get size same
  have delay : left.delay = right.delay := congrFun handles .delay
  have sound : left.sound = right.sound := congrFun handles .sound
  cases left
  cases right
  cases counters
  cases delay
  cases sound
  rfl

theorem get_set (timers : Timers) (written read : TimerRole) (value : Byte) :
    (timers.set written value).get read =
      if timers.handle written = timers.handle read then value else timers.get read :=
  timers.counters.get_set _ _ value (timers.has_handle written)

theorem get_set_of_apart {timers : Timers} (apart : timers.Apart) (written read : TimerRole)
    (value : Byte) :
    (timers.set written value).get read = if written = read then value else timers.get read := by
  simp only [get_set, handle_eq_iff apart]

theorem set_get_self (timers : Timers) (role : TimerRole) :
    timers.set role (timers.get role) = timers := by
  have kept := timers.counters.set_get_self (timers.handle role) (timers.has_handle role)
  refine ext_get rfl (timers.counters.size_set _ _) fun handle => ?_
  exact congrArg (Counters.get · handle) kept

theorem tickBoth_eq (timers : Timers) :
    timers.tickBoth = (timers.tick .delay).1.tick .sound := rfl

end Timers

end Chip8
