import Chip8.Platform
import Chip8.Word

set_option autoImplicit false

namespace Chip8

abbrev Registers := Vector Byte registerCount

namespace Registers

def zero : Registers := Vector.replicate registerCount 0

theorem nibble_lt (x : Nibble) : x.toNat < registerCount := x.isLt

def read (registers : Registers) (x : Nibble) : Byte :=
  have := nibble_lt x
  registers[x.toNat]

def write (registers : Registers) (x : Nibble) (value : Byte) : Registers :=
  registers.set x.toNat value (nibble_lt x)

def flag : Nibble := BitVec.ofNat 4 flagRegister

theorem read_write (registers : Registers) (x y : Nibble) (value : Byte) :
    (registers.write x value).read y = if x = y then value else registers.read y := by
  simp only [read, write, Vector.getElem_set, BitVec.toNat_inj]

@[simp]
theorem read_write_self (registers : Registers) (x : Nibble) (value : Byte) :
    (registers.write x value).read x = value := by
  simp [read_write]

@[simp]
theorem read_zero (x : Nibble) : zero.read x = 0 := by
  simp [read, zero]

theorem ext_read {left right : Registers} (same : ∀ x, left.read x = right.read x) :
    left = right := by
  apply Vector.ext
  intro i bound
  have at_i := same (BitVec.ofNat 4 i)
  simp only [read, BitVec.toNat_ofNat, Nat.mod_eq_of_lt (show i < 2 ^ 4 from bound)] at at_i
  exact at_i

theorem write_write (registers : Registers) (x : Nibble) (first second : Byte) :
    (registers.write x first).write x second = registers.write x second := by
  apply ext_read
  intro z
  simp only [read_write]
  by_cases same : x = z
  next => rw [if_pos same, if_pos same]
  next => rw [if_neg same, if_neg same, if_neg same]

end Registers

end Chip8
