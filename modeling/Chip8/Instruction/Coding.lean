import Chip8.Instruction.Basic

set_option autoImplicit false

namespace Chip8

namespace Arith

def code : Arith → Nibble
  | move => 0x0
  | or => 0x1
  | and => 0x2
  | xor => 0x3
  | add => 0x4
  | sub => 0x5
  | shiftRight => 0x6
  | shiftLeft => 0xE

def ofCode? (code : Nibble) : Option Arith :=
  match code with
  | 0x0#4 => some move
  | 0x1#4 => some or
  | 0x2#4 => some and
  | 0x3#4 => some xor
  | 0x4#4 => some add
  | 0x5#4 => some sub
  | 0x6#4 => some shiftRight
  | 0xE#4 => some shiftLeft
  | _ => none

@[simp]
theorem ofCode?_code (op : Arith) : ofCode? op.code = some op := by
  cases op <;> rfl

theorem code_of_ofCode? {code : Nibble} {op : Arith} (known : ofCode? code = some op) :
    op.code = code := by
  revert known
  fun_cases ofCode? code <;> rintro ⟨⟩ <;> rfl

end Arith

namespace Instruction

def encode : Instruction → Word
  | clear => 0x00E0
  | ret => 0x00EE
  | jump target => Word.ofAddress 0x1 target
  | call target => Word.ofAddress 0x2 target
  | load x value => Word.ofOperand 0x6 x value
  | increase x value => Word.ofOperand 0x7 x value
  | arith op x y => Word.ofNibbles 0x8 x y op.code
  | point target => Word.ofAddress 0xA target
  | jumpBeyond target => Word.ofAddress 0xB target
  | random x mask => Word.ofOperand 0xC x mask
  | draw x y height => Word.ofNibbles 0xD x y height
  | readDelay x => Word.ofOperand 0xF x 0x07
  | setDelay x => Word.ofOperand 0xF x 0x15
  | setSound x => Word.ofOperand 0xF x 0x18

def decode (w : Word) : Option Instruction :=
  match w.group with
  | 0x0#4 =>
      if w = 0x00E0 then some clear
      else if w = 0x00EE then some ret
      else none
  | 0x1#4 => some (jump w.address)
  | 0x2#4 => some (call w.address)
  | 0x6#4 => some (load w.x w.kk)
  | 0x7#4 => some (increase w.x w.kk)
  | 0x8#4 => (Arith.ofCode? w.n).map fun op => arith op w.x w.y
  | 0xA#4 => some (point w.address)
  | 0xB#4 => some (jumpBeyond w.address)
  | 0xC#4 => some (random w.x w.kk)
  | 0xD#4 => some (draw w.x w.y w.n)
  | 0xF#4 =>
      match w.kk with
      | 0x07#8 => some (readDelay w.x)
      | 0x15#8 => some (setDelay w.x)
      | 0x18#8 => some (setSound w.x)
      | _ => none
  | _ => none

theorem decode_encode (instruction : Instruction) :
    decode instruction.encode = some instruction := by
  cases instruction <;> simp [encode, decode]
  all_goals rfl

theorem encode_of_decode {w : Word} {instruction : Instruction}
    (decoded : decode w = some instruction) : instruction.encode = w := by
  have byAddress := Word.ofAddress_fields w
  have byOperand := Word.ofOperand_fields w
  have byNibbles := Word.ofNibbles_fields w
  revert decoded
  fun_cases decode w
  case case8 group =>
    intro decoded
    obtain ⟨op, known, rfl⟩ := Option.map_eq_some_iff.1 decoded
    rw [group] at byNibbles
    rw [encode, Arith.code_of_ofCode? known]
    exact byNibbles
  all_goals rintro ⟨⟩
  all_goals simp_all [encode]

theorem decode_eq_some_iff {w : Word} {instruction : Instruction} :
    decode w = some instruction ↔ w = instruction.encode := by
  constructor
  · intro decoded
    exact (encode_of_decode decoded).symm
  · rintro rfl
    exact decode_encode instruction

theorem eq_of_decode {w : Word} {instruction other : Instruction}
    (decoded : decode w = some instruction) (written : w = other.encode) : instruction = other :=
  Option.some.inj (decoded.symm.trans (decode_eq_some_iff.mpr written))

end Instruction

end Chip8
