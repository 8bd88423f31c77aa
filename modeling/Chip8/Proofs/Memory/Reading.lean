import Chip8.Memory.Program

set_option autoImplicit false

namespace Chip8.Memory

def byteAt (memory : Memory) (address : Nat) : Byte := (memory.get? address).getD 0

def wordAt (memory : Memory) (address : Nat) : Word :=
  Word.ofBytes (memory.byteAt address) (memory.byteAt (address + 1))

theorem get?_eq_byteAt (memory : Memory) (address : Nat) (inside : address < memorySize) :
    memory.get? address = some (memory.byteAt address) := by
  have present : memory.get? address = some memory.bytes[address] := by simp [get?, inside]
  rw [byteAt, present, Option.getD_some]

theorem byteAt_image (program : List Byte) (address : Nat) (inside : address < memorySize) :
    (image program).byteAt address = imageByte program address := by
  rw [byteAt, get?_image program address inside, Option.getD_some]

theorem wordAt_image (program : List Byte) (address : Nat) (inside : address + 1 < memorySize) :
    (image program).wordAt address =
      Word.ofBytes (imageByte program address) (imageByte program (address + 1)) := by
  rw [wordAt, byteAt_image program _ (Nat.lt_of_succ_lt inside), byteAt_image program _ inside]

theorem read_eq (memory : Memory) (address : Nat) :
    memory.read address =
      if address < memorySize then .ok (memory.byteAt address)
      else .error (.outOfBounds address) := by
  split
  next inside => rw [read, get?_eq_byteAt memory address inside]
  next outside => exact read_of_le memory address (Nat.le_of_not_lt outside)

theorem readWord_eq (memory : Memory) (address : Nat) :
    memory.readWord address =
      if address + 1 < memorySize then .ok (memory.wordAt address)
      else .error (.outOfBounds (max address memorySize)) := by
  rw [readWord, read_eq, read_eq]
  by_cases low : address + 1 < memorySize
  next =>
    have high : address < memorySize := Nat.lt_of_succ_lt low
    rw [if_pos high, if_pos low, if_pos low]
    rfl
  next =>
    rw [if_neg low, if_neg low]
    by_cases high : address < memorySize
    next =>
      have last : address + 1 = max address memorySize := by omega
      rw [if_pos high, last]
      rfl
    next =>
      have beyond : address = max address memorySize := by omega
      rw [if_neg high, ← beyond]
      rfl

theorem readRange_eq (memory : Memory) (start count : Nat) :
    memory.readRange start count =
      if count = 0 ∨ start + count ≤ memorySize then
        .ok ((List.range count).map fun offset => memory.byteAt (start + offset))
      else .error (.outOfBounds (max start memorySize)) := by
  induction count generalizing start with
  | zero => rfl
  | succ count ih =>
    rw [readRange, read_eq, ih]
    by_cases first : start < memorySize
    next =>
      -- The rest starts one address later, so it fails just where the whole range does.
      have same : (count = 0 ∨ start + 1 + count ≤ memorySize) ↔
          (count + 1 = 0 ∨ start + (count + 1) ≤ memorySize) := by omega
      have fault : max (start + 1) memorySize = max start memorySize := by omega
      rw [if_pos first, fault]
      simp only [same]
      split
      next =>
        simp only [List.range_succ_eq_map, List.map_cons, List.map_map, Nat.add_zero]
        simp only [Function.comp_def, Nat.succ_eq_add_one, Nat.add_comm, Nat.add_left_comm]
        rfl
      next => rfl
    next =>
      have outside : ¬ (count + 1 = 0 ∨ start + (count + 1) ≤ memorySize) := by omega
      have beyond : max start memorySize = start := by omega
      rw [if_neg first, if_neg outside, beyond]
      rfl

theorem lt_of_read {memory : Memory} {address : Nat} {byte : Byte}
    (found : memory.read address = .ok byte) : address < memorySize := by
  apply Nat.lt_of_not_le
  intro outside
  rw [memory.read_of_le address outside] at found
  cases found

theorem length_of_readRange {memory : Memory} {start count : Nat} {bytes : List Byte}
    (found : memory.readRange start count = .ok bytes) : bytes.length = count := by
  rw [readRange_eq] at found
  split at found
  next =>
    cases found
    rw [List.length_map, List.length_range]
  next => cases found

end Chip8.Memory
