set_option autoImplicit false

namespace Chip8.Text

def hex (width value : Nat) : String :=
  let digits := (Nat.toDigits 16 value).map Char.toUpper
  String.ofList (List.replicate (width - digits.length) '0' ++ digits)

def hexAddress (value : Nat) : String := "0x" ++ hex 4 value

def hexDigit (digit : Nat) : Char :=
  if digit < 10 then Char.ofNat ('0'.toNat + digit) else Char.ofNat ('A'.toNat + (digit - 10))

def lastDigits : Nat → Nat → List Char
  | 0, _ => []
  | width + 1, value => lastDigits width (value / 16) ++ [hexDigit (value % 16)]

def digits (width value : Nat) : String := String.ofList (lastDigits width value)

theorem toUpper_digitChar {digit : Nat} (small : digit < 16) :
    digit.digitChar.toUpper = hexDigit digit := by
  have all : ∀ digit : Fin 16, digit.val.digitChar.toUpper = hexDigit digit := by decide
  exact all ⟨digit, small⟩

theorem lastDigits_zero (width : Nat) : lastDigits width 0 = List.replicate width '0' := by
  induction width with
  | zero => rfl
  | succ width ih =>
    rw [lastDigits, Nat.zero_div, ih, List.replicate_succ']
    rfl

theorem hex_eq_digits (width value : Nat) (fits : value < Nat.pow 16 (width + 1)) :
    hex (width + 1) value = digits (width + 1) value := by
  refine congrArg String.ofList ?_
  induction width generalizing value with
  | zero =>
    have small : value < 16 := fits
    rw [Nat.toDigits_of_lt_base small, lastDigits, Nat.mod_eq_of_lt small,
      ← toUpper_digitChar small]
    rfl
  | succ width ih =>
    rw [lastDigits]
    by_cases small : value < 16
    next =>
      rw [Nat.toDigits_of_lt_base small, Nat.div_eq_of_lt small, Nat.mod_eq_of_lt small,
        lastDigits_zero, ← toUpper_digitChar small]
      rfl
    next =>
      -- The last digit of both is the same, and the others are those of a sixteenth.
      have wide : value < 16 * Nat.pow 16 (width + 1) := by
        rw [Nat.mul_comm]
        exact fits
      have rest : value / 16 < Nat.pow 16 (width + 1) := Nat.div_lt_of_lt_mul wide
      have last : value % 16 < 16 := Nat.mod_lt value (by decide)
      rw [← ih (value / 16) rest, ← toUpper_digitChar last,
        Nat.toDigits_of_base_le (by decide) (Nat.le_of_not_lt small)]
      simp

end Chip8.Text
