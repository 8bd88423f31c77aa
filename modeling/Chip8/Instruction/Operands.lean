import Chip8.Word

set_option autoImplicit false

namespace Chip8

/-- The numbers that stand in a word for operands, whether or not its instruction uses them. -/
structure Operands where
  x : Byte
  y : Byte
  n : Byte
  kk : Byte
  address : Word
  deriving DecidableEq, Repr

namespace Operands

def ofWord (w : Word) : Operands where
  x := ((w >>> 8) &&& 0xF).setWidth 8
  y := ((w >>> 4) &&& 0xF).setWidth 8
  n := (w &&& 0xF).setWidth 8
  kk := (w &&& 0xFF).setWidth 8
  address := w &&& 0xFFF

variable (w : Word)

theorem toNat_masked (amount : Nat) :
    (((w >>> amount) &&& 0xF).setWidth 8 : Byte).toNat =
      (w.extractLsb' amount 4 : Nibble).toNat := by
  have mask : (w.toNat >>> amount) &&& 15 = _ := Nat.and_two_pow_sub_one_eq_mod _ 4
  have field : ((w >>> amount) &&& 0xF).toNat = (w.toNat >>> amount) &&& 15 := by
    rw [BitVec.toNat_and, BitVec.toNat_ushiftRight]
    rfl
  rw [BitVec.toNat_setWidth, field, mask, BitVec.extractLsb'_toNat]
  omega

theorem toNat_x_ofWord : (ofWord w).x.toNat = w.x.toNat := toNat_masked w 8

theorem toNat_y_ofWord : (ofWord w).y.toNat = w.y.toNat := toNat_masked w 4

theorem toNat_n_ofWord : (ofWord w).n.toNat = w.n.toNat := toNat_masked w 0

theorem kk_ofWord : (ofWord w).kk = w.kk := by
  apply BitVec.eq_of_toNat_eq
  have mask : w.toNat &&& 255 = _ := Nat.and_two_pow_sub_one_eq_mod _ 8
  have field : (w &&& 0xFF).toNat = w.toNat &&& 255 := BitVec.toNat_and w _
  rw [ofWord, BitVec.toNat_setWidth, field, mask, Word.kk, BitVec.extractLsb'_toNat]
  omega

theorem address_ofWord : (ofWord w).address = w.address.setWidth 16 := by
  apply BitVec.eq_of_toNat_eq
  have mask : w.toNat &&& 4095 = _ := Nat.and_two_pow_sub_one_eq_mod _ 12
  have field : (w &&& 0xFFF).toNat = w.toNat &&& 4095 := BitVec.toNat_and w _
  rw [ofWord, field, mask, BitVec.toNat_setWidth, Word.address, BitVec.extractLsb'_toNat]
  omega

theorem ofWord_in_range :
    (ofWord w).x.toNat < 16 ∧ (ofWord w).y.toNat < 16 ∧ (ofWord w).n.toNat < 16 ∧
      (ofWord w).kk.toNat < 256 ∧ (ofWord w).address.toNat < 4096 := by
  have address : w.address.toNat < 4096 := w.address.isLt
  have whole : (w.address.setWidth 16).toNat = w.address.toNat := by
    rw [BitVec.toNat_setWidth]
    omega
  rw [toNat_x_ofWord, toNat_y_ofWord, toNat_n_ofWord, address_ofWord, whole]
  exact ⟨w.x.isLt, w.y.isLt, w.n.isLt, (ofWord w).kk.isLt, address⟩

end Operands

end Chip8
