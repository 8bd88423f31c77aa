import Chip8.Fault
import Chip8.Font
import Chip8.Platform

set_option autoImplicit false

namespace Chip8

structure Memory where
  bytes : Vector Byte memorySize
  deriving DecidableEq

namespace Memory

def get? (memory : Memory) (address : Nat) : Option Byte := memory.bytes[address]?

/-- Reads outside memory are faults; no address wraps or is clamped. -/
def read (memory : Memory) (address : Nat) : Except Fault Byte :=
  match memory.get? address with
  | some byte => .ok byte
  | none => .error (.outOfBounds address)

def readWord (memory : Memory) (address : Nat) : Except Fault Word := do
  let high ← memory.read address
  let low ← memory.read (address + 1)
  return Word.ofBytes high low

/-- The bytes of a range, or the fault of its first address outside memory. -/
def readRange (memory : Memory) (start : Nat) : Nat → Except Fault (List Byte)
  | 0 => .ok []
  | count + 1 => do
    let byte ← memory.read start
    let rest ← memory.readRange (start + 1) count
    return byte :: rest

-- Writes the bytes one after another; what would fall outside memory is dropped.
def write (memory : Memory) (start : Nat) : List Byte → Memory
  | [] => memory
  | byte :: rest => write ⟨memory.bytes.setIfInBounds start byte⟩ (start + 1) rest

def clearFrom (memory : Memory) (start : Nat) : Memory :=
  ⟨memory.bytes.mapFinIdx fun address byte _ => if address < start then byte else 0⟩

def zero : Memory := ⟨Vector.replicate memorySize 0⟩

def writeFont (memory : Memory) : Memory := memory.write fontStart font.toList

def fresh : Memory := zero.writeFont

theorem read_of_le (memory : Memory) (address : Nat) (outside : memorySize ≤ address) :
    memory.read address = .error (.outOfBounds address) := by
  simp [read, get?, Vector.getElem?_eq_none outside]

theorem ext_get? {left right : Memory}
    (same : ∀ address, address < memorySize → left.get? address = right.get? address) :
    left = right := by
  cases left
  cases right
  congr 1
  apply Vector.ext
  intro address inside
  simpa [get?, inside] using same address inside

theorem get?_write (memory : Memory) (start : Nat) (bytes : List Byte) (address : Nat)
    (inside : address < memorySize) :
    (memory.write start bytes).get? address =
      if start ≤ address ∧ address < start + bytes.length then bytes[address - start]?
      else memory.get? address := by
  induction bytes generalizing memory start with
  | nil =>
    have outside : ¬ (start ≤ address ∧ address < start + ([] : List Byte).length) := by simp
    rw [write, if_neg outside]
  | cons byte rest ih =>
    rw [write, ih]
    simp only [get?, Vector.getElem?_setIfInBounds, List.length_cons]
    rcases Nat.lt_trichotomy address start with below | here | above
    · have written : ¬ (start ≤ address ∧ address < start + (rest.length + 1)) := by omega
      have later : ¬ (start + 1 ≤ address ∧ address < start + 1 + rest.length) := by omega
      rw [if_neg later, if_neg (Nat.ne_of_gt below), if_neg written]
    · subst here
      have written : address ≤ address ∧ address < address + (rest.length + 1) := by omega
      have later : ¬ (address + 1 ≤ address ∧ address < address + 1 + rest.length) := by omega
      rw [if_neg later, if_pos rfl, if_pos inside, if_pos written, Nat.sub_self,
        List.getElem?_cons_zero]
    · have step : address - start = (address - (start + 1)) + 1 := by omega
      have range : (start ≤ address ∧ address < start + (rest.length + 1)) ↔
          (start + 1 ≤ address ∧ address < start + 1 + rest.length) := by omega
      simp only [range, step, List.getElem?_cons_succ, Nat.ne_of_lt above, if_false]

theorem get?_clearFrom (memory : Memory) (start address : Nat) :
    (memory.clearFrom start).get? address =
      (memory.get? address).map fun byte => if address < start then byte else 0 := by
  by_cases inside : address < memorySize
  · simp [clearFrom, get?, inside]
  · simp [clearFrom, get?, inside]

end Memory

end Chip8
