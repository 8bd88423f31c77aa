set_option autoImplicit false

namespace Chip8

abbrev Nibble := BitVec 4

abbrev Byte := BitVec 8

abbrev Address := BitVec 12

abbrev Word := BitVec 16

namespace Word

def ofBytes (high low : Byte) : Word := high ++ low

def ofAddress (group : Nibble) (address : Address) : Word := group ++ address

def ofOperand (group x : Nibble) (kk : Byte) : Word := group ++ x ++ kk

def ofNibbles (group x y n : Nibble) : Word := group ++ x ++ y ++ n

def high (w : Word) : Byte := w.extractLsb' 8 8

def group (w : Word) : Nibble := w.extractLsb' 12 4

def x (w : Word) : Nibble := w.extractLsb' 8 4

def y (w : Word) : Nibble := w.extractLsb' 4 4

def n (w : Word) : Nibble := w.extractLsb' 0 4

def kk (w : Word) : Byte := w.extractLsb' 0 8

def address (w : Word) : Address := w.extractLsb' 0 12

def nibbles (w : Word) : List Nibble := [w.group, w.x, w.y, w.n]

def bytes (w : Word) : List Byte := [w.high, w.kk]

@[simp]
theorem high_ofBytes (high low : Byte) : (ofBytes high low).high = high :=
  BitVec.extractLsb'_append_eq_left

@[simp]
theorem kk_ofBytes (high low : Byte) : (ofBytes high low).kk = low :=
  BitVec.extractLsb'_append_eq_right

theorem toNat_ofBytes (high low : Byte) :
    (ofBytes high low).toNat = 256 * high.toNat + low.toNat := by
  have joined : (ofBytes high low).toNat = (high.toNat <<< 8) ||| low.toNat :=
    BitVec.toNat_append high low
  rw [joined, ← Nat.shiftLeft_add_eq_or_of_lt low.isLt, Nat.shiftLeft_eq]
  omega

theorem ofBytes_high_kk (w : Word) : ofBytes w.high w.kk = w := by
  apply BitVec.eq_of_toNat_eq
  have bound := w.isLt
  rw [toNat_ofBytes]
  simp only [high, kk, BitVec.extractLsb'_toNat, Nat.shiftRight_eq_div_pow]
  omega

@[simp]
theorem group_ofAddress (group : Nibble) (address : Address) :
    (ofAddress group address).group = group :=
  BitVec.extractLsb'_append_eq_left

@[simp]
theorem address_ofAddress (group : Nibble) (address : Address) :
    (ofAddress group address).address = address :=
  BitVec.extractLsb'_append_eq_right

@[simp]
theorem group_ofOperand (group x : Nibble) (kk : Byte) : (ofOperand group x kk).group = group :=
  (BitVec.extractLsb'_append_eq_of_le (by decide)).trans BitVec.extractLsb'_append_eq_left

@[simp]
theorem x_ofOperand (group x : Nibble) (kk : Byte) : (ofOperand group x kk).x = x :=
  (BitVec.extractLsb'_append_eq_of_le (by decide)).trans BitVec.extractLsb'_append_eq_right

@[simp]
theorem kk_ofOperand (group x : Nibble) (kk : Byte) : (ofOperand group x kk).kk = kk :=
  BitVec.extractLsb'_append_eq_right

@[simp]
theorem group_ofNibbles (group x y n : Nibble) : (ofNibbles group x y n).group = group :=
  (BitVec.extractLsb'_append_eq_of_le (by decide)).trans
    ((BitVec.extractLsb'_append_eq_of_le (by decide)).trans BitVec.extractLsb'_append_eq_left)

@[simp]
theorem x_ofNibbles (group x y n : Nibble) : (ofNibbles group x y n).x = x :=
  (BitVec.extractLsb'_append_eq_of_le (by decide)).trans
    ((BitVec.extractLsb'_append_eq_of_le (by decide)).trans BitVec.extractLsb'_append_eq_right)

@[simp]
theorem y_ofNibbles (group x y n : Nibble) : (ofNibbles group x y n).y = y :=
  (BitVec.extractLsb'_append_eq_of_le (by decide)).trans BitVec.extractLsb'_append_eq_right

@[simp]
theorem n_ofNibbles (group x y n : Nibble) : (ofNibbles group x y n).n = n :=
  BitVec.extractLsb'_append_eq_right

theorem ofAddress_fields (w : Word) : ofAddress w.group w.address = w := by
  apply BitVec.eq_of_toNat_eq
  have bound := w.isLt
  have joined : (ofAddress w.group w.address).toNat = (w.group.toNat <<< 12) ||| w.address.toNat :=
    BitVec.toNat_append w.group w.address
  rw [joined, ← Nat.shiftLeft_add_eq_or_of_lt w.address.isLt]
  simp only [Nat.shiftLeft_eq, group, address, BitVec.extractLsb'_toNat, Nat.shiftRight_eq_div_pow]
  omega

theorem ofOperand_fields (w : Word) : ofOperand w.group w.x w.kk = w := by
  apply BitVec.eq_of_toNat_eq
  have bound := w.isLt
  rw [ofOperand, BitVec.toNat_append, BitVec.toNat_append,
    ← Nat.shiftLeft_add_eq_or_of_lt w.x.isLt, ← Nat.shiftLeft_add_eq_or_of_lt w.kk.isLt]
  simp only [Nat.shiftLeft_eq, group, x, kk, BitVec.extractLsb'_toNat, Nat.shiftRight_eq_div_pow]
  omega

theorem ofNibbles_fields (w : Word) : ofNibbles w.group w.x w.y w.n = w := by
  apply BitVec.eq_of_toNat_eq
  have bound := w.isLt
  rw [ofNibbles, BitVec.toNat_append, BitVec.toNat_append, BitVec.toNat_append,
    ← Nat.shiftLeft_add_eq_or_of_lt w.x.isLt, ← Nat.shiftLeft_add_eq_or_of_lt w.y.isLt,
    ← Nat.shiftLeft_add_eq_or_of_lt w.n.isLt]
  simp only [Nat.shiftLeft_eq, group, x, y, n, BitVec.extractLsb'_toNat,
    Nat.shiftRight_eq_div_pow]
  omega

end Word

end Chip8
