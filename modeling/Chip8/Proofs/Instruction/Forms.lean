import Chip8.Instruction.Coding
import Chip8.Instruction.Operands

set_option autoImplicit false

namespace Chip8

/-- A form is written with four digits, of which some are left open for operands. -/
structure Form where
  group : Nibble
  x : Option Nibble := none
  y : Option Nibble := none
  n : Option Nibble := none
  deriving DecidableEq, Repr

def Form.Matches (form : Form) (w : Word) : Prop :=
  w.group = form.group ∧ (∀ digit ∈ form.x, w.x = digit) ∧
    (∀ digit ∈ form.y, w.y = digit) ∧ ∀ digit ∈ form.n, w.n = digit

namespace Word

theorem kk_eq (w : Word) : w.kk = w.y ++ w.n := by
  apply BitVec.eq_of_toNat_eq
  rw [BitVec.toNat_append, ← Nat.shiftLeft_add_eq_or_of_lt w.n.isLt]
  simp only [Nat.shiftLeft_eq, kk, y, n, BitVec.extractLsb'_toNat, Nat.shiftRight_eq_div_pow]
  omega

theorem kk_eq_iff (w : Word) (y n : Nibble) : w.kk = y ++ n ↔ w.y = y ∧ w.n = n := by
  constructor
  · intro same
    rw [kk_eq] at same
    have upper := congrArg (fun byte => byte.extractLsb' 4 4) same
    have lower := congrArg (fun byte => byte.extractLsb' 0 4) same
    simp only [BitVec.extractLsb'_append_eq_left] at upper
    simp only [BitVec.extractLsb'_append_eq_right] at lower
    exact ⟨upper, lower⟩
  · intro digits
    obtain ⟨rfl, rfl⟩ := digits
    exact w.kk_eq

theorem eq_ofNibbles_iff (w : Word) (group x y n : Nibble) :
    w = ofNibbles group x y n ↔ w.group = group ∧ w.x = x ∧ w.y = y ∧ w.n = n := by
  constructor
  · intro same
    subst same
    simp
  · intro digits
    obtain ⟨rfl, rfl, rfl, rfl⟩ := digits
    exact w.ofNibbles_fields.symm

theorem toNat_ofAddress (group : Nibble) (address : Address) :
    (ofAddress group address).toNat = 0x1000 * group.toNat + address.toNat := by
  rw [ofAddress, BitVec.toNat_append, ← Nat.shiftLeft_add_eq_or_of_lt address.isLt,
    Nat.shiftLeft_eq]
  omega

theorem toNat_ofOperand (group x : Nibble) (kk : Byte) :
    (ofOperand group x kk).toNat = 0x1000 * group.toNat + 0x100 * x.toNat + kk.toNat := by
  rw [ofOperand, BitVec.toNat_append, BitVec.toNat_append,
    ← Nat.shiftLeft_add_eq_or_of_lt x.isLt, ← Nat.shiftLeft_add_eq_or_of_lt kk.isLt,
    Nat.shiftLeft_eq, Nat.shiftLeft_eq]
  omega

theorem toNat_ofNibbles (group x y n : Nibble) :
    (ofNibbles group x y n).toNat =
      0x1000 * group.toNat + 0x100 * x.toNat + 0x10 * y.toNat + n.toNat := by
  rw [ofNibbles, BitVec.toNat_append, BitVec.toNat_append, BitVec.toNat_append,
    ← Nat.shiftLeft_add_eq_or_of_lt x.isLt, ← Nat.shiftLeft_add_eq_or_of_lt y.isLt,
    ← Nat.shiftLeft_add_eq_or_of_lt n.isLt, Nat.shiftLeft_eq, Nat.shiftLeft_eq, Nat.shiftLeft_eq]
  omega

end Word

theorem Arith.ofCode?_eq_none_iff (code : Nibble) :
    ofCode? code = none ↔
      code ≠ 0x0 ∧ code ≠ 0x1 ∧ code ≠ 0x2 ∧ code ≠ 0x3 ∧
        code ≠ 0x4 ∧ code ≠ 0x5 ∧ code ≠ 0x6 ∧ code ≠ 0xE := by
  fun_cases ofCode? code
  all_goals simp_all

namespace Instruction

def forms : List Form :=
  [ { group := 0x0, x := some 0x0, y := some 0xE, n := some 0x0 },
    { group := 0x0, x := some 0x0, y := some 0xE, n := some 0xE },
    { group := 0x1 },
    { group := 0x2 },
    { group := 0x6 },
    { group := 0x7 },
    { group := 0x8, n := some 0x0 },
    { group := 0x8, n := some 0x1 },
    { group := 0x8, n := some 0x2 },
    { group := 0x8, n := some 0x3 },
    { group := 0x8, n := some 0x4 },
    { group := 0x8, n := some 0x5 },
    { group := 0x8, n := some 0x6 },
    { group := 0x8, n := some 0xE },
    { group := 0xA },
    { group := 0xB },
    { group := 0xC },
    { group := 0xD },
    { group := 0xF, y := some 0x0, n := some 0x7 },
    { group := 0xF, y := some 0x1, n := some 0x5 },
    { group := 0xF, y := some 0x1, n := some 0x8 } ]

def number : Instruction → Nat
  | clear => 0x00E0
  | ret => 0x00EE
  | jump target => 0x1000 + target.toNat
  | call target => 0x2000 + target.toNat
  | load x value => 0x6000 + 0x100 * x.toNat + value.toNat
  | increase x value => 0x7000 + 0x100 * x.toNat + value.toNat
  | arith .move x y => 0x8000 + 0x100 * x.toNat + 0x10 * y.toNat
  | arith .or x y => 0x8001 + 0x100 * x.toNat + 0x10 * y.toNat
  | arith .and x y => 0x8002 + 0x100 * x.toNat + 0x10 * y.toNat
  | arith .xor x y => 0x8003 + 0x100 * x.toNat + 0x10 * y.toNat
  | arith .add x y => 0x8004 + 0x100 * x.toNat + 0x10 * y.toNat
  | arith .sub x y => 0x8005 + 0x100 * x.toNat + 0x10 * y.toNat
  | arith .shiftRight x y => 0x8006 + 0x100 * x.toNat + 0x10 * y.toNat
  | arith .shiftLeft x y => 0x800E + 0x100 * x.toNat + 0x10 * y.toNat
  | point target => 0xA000 + target.toNat
  | jumpBeyond target => 0xB000 + target.toNat
  | random x mask => 0xC000 + 0x100 * x.toNat + mask.toNat
  | draw x y height => 0xD000 + 0x100 * x.toNat + 0x10 * y.toNat + height.toNat
  | readDelay x => 0xF007 + 0x100 * x.toNat
  | setDelay x => 0xF015 + 0x100 * x.toNat
  | setSound x => 0xF018 + 0x100 * x.toNat

theorem toNat_encode (instruction : Instruction) :
    instruction.encode.toNat = instruction.number := by
  cases instruction with
  | clear => rfl
  | ret => rfl
  | arith op x y =>
    cases op
    all_goals
      rw [encode, Word.toNat_ofNibbles, number]
      simp [Arith.code] <;> omega
  | jump target => rw [encode, Word.toNat_ofAddress, number]; rfl
  | call target => rw [encode, Word.toNat_ofAddress, number]; rfl
  | load x value => rw [encode, Word.toNat_ofOperand, number]; rfl
  | increase x value => rw [encode, Word.toNat_ofOperand, number]; rfl
  | point target => rw [encode, Word.toNat_ofAddress, number]; rfl
  | jumpBeyond target => rw [encode, Word.toNat_ofAddress, number]; rfl
  | random x mask => rw [encode, Word.toNat_ofOperand, number]; rfl
  | draw x y height => rw [encode, Word.toNat_ofNibbles, number]; rfl
  | readDelay x => rw [encode, Word.toNat_ofOperand, number]; simp; omega
  | setDelay x => rw [encode, Word.toNat_ofOperand, number]; simp; omega
  | setSound x => rw [encode, Word.toNat_ofOperand, number]; simp; omega

def HasOperands (operands : Operands) : Instruction → Prop
  | clear | ret => True
  | jump target | call target | point target | jumpBeyond target =>
      target.setWidth 16 = operands.address
  | load x value | increase x value | random x value =>
      x.toNat = operands.x.toNat ∧ value = operands.kk
  | arith _ x y => x.toNat = operands.x.toNat ∧ y.toNat = operands.y.toNat
  | draw x y height =>
      x.toNat = operands.x.toNat ∧ y.toNat = operands.y.toNat ∧ height.toNat = operands.n.toNat
  | readDelay x | setDelay x | setSound x => x.toNat = operands.x.toNat

theorem hasOperands_of_decode {w : Word} {instruction : Instruction}
    (decoded : decode w = some instruction) : instruction.HasOperands (.ofWord w) := by
  rw [← encode_of_decode decoded]
  cases instruction with
  | _ =>
    simp [HasOperands, encode, Operands.toNat_x_ofWord, Operands.toNat_y_ofWord,
      Operands.toNat_n_ofWord, Operands.kk_ofWord, Operands.address_ofWord]

theorem decode_eq_none_iff (w : Word) :
    decode w = none ↔ ∀ form ∈ forms, ¬ form.Matches w := by
  have clears : w = 0x00E0 ↔ _ := w.eq_ofNibbles_iff 0x0 0x0 0xE 0x0
  have returns : w = 0x00EE ↔ _ := w.eq_ofNibbles_iff 0x0 0x0 0xE 0xE
  have reads : w.kk = 0x07 ↔ _ := w.kk_eq_iff 0x0 0x7
  have sets : w.kk = 0x15 ↔ _ := w.kk_eq_iff 0x1 0x5
  have sounds : w.kk = 0x18 ↔ _ := w.kk_eq_iff 0x1 0x8
  have codes := Arith.ofCode?_eq_none_iff w.n
  simp only [forms, List.forall_mem_cons, Form.Matches, Option.mem_def]
  -- The group decides, then the last digit, or in groups 0 and F the last two.
  fun_cases decode w
  all_goals simp_all

end Instruction

end Chip8
