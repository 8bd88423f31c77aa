set_option autoImplicit false

namespace Chip8

abbrev memorySize : Nat := 4096

abbrev programStart : Nat := 0x200

abbrev programRoom : Nat := memorySize - programStart

abbrev fontStart : Nat := 0x50

abbrev screenWidth : Nat := 64

abbrev screenHeight : Nat := 32

abbrev registerCount : Nat := 16

abbrev flagRegister : Nat := 0xF

abbrev wordSize : Nat := 2

abbrev timerRate : Nat := 60

abbrev stepRate : Nat := 500

abbrev cellSide : Nat := 10

end Chip8
