import Chip8.Platform

set_option autoImplicit false

namespace Chip8

structure Cell where
  x : Fin screenWidth
  y : Fin screenHeight
  deriving DecidableEq, Repr

inductive OffScreen where
  | row (y : Nat)
  | column (x : Nat)
  deriving DecidableEq, Repr

def OffScreen.message : OffScreen → String
  | row y => s!"index out of bounds: the len is {screenHeight} but the index is {y}"
  | column x => s!"index out of bounds: the len is {screenWidth} but the index is {x}"

namespace Cell

def find (x y : Nat) : Except OffScreen Cell :=
  if insideY : y < screenHeight then
    if insideX : x < screenWidth then .ok ⟨⟨x, insideX⟩, ⟨y, insideY⟩⟩
    else .error (.column x)
  else .error (.row y)

def at? (x y : Nat) : Option Cell := (find x y).toOption

def all : List Cell :=
  (List.finRange screenHeight).flatMap fun y =>
    (List.finRange screenWidth).map fun x => ⟨x, y⟩

@[simp]
theorem mem_all (cell : Cell) : cell ∈ all := by
  simp only [all, List.mem_flatMap, List.mem_finRange, List.mem_map, true_and]
  exact ⟨cell.y, cell.x, rfl⟩

@[simp]
theorem find_of_cell (cell : Cell) : find cell.x cell.y = .ok cell := by
  simp [find]

theorem at?_eq_some_iff (x y : Nat) (cell : Cell) :
    at? x y = some cell ↔ cell.x.val = x ∧ cell.y.val = y := by
  constructor
  · intro found
    unfold at? find at found
    split at found
    · split at found
      · simp only [Except.toOption, Option.some.injEq] at found
        subst found
        exact ⟨rfl, rfl⟩
      · simp [Except.toOption] at found
    · simp [Except.toOption] at found
  · rintro ⟨rfl, rfl⟩
    simp [at?, Except.toOption]

theorem at?_of_le (x y : Nat) (outside : screenWidth ≤ x) : at? x y = none := by
  rw [Option.eq_none_iff_forall_ne_some]
  intro cell found
  have column := ((at?_eq_some_iff x y cell).mp found).1
  exact absurd cell.x.isLt (Nat.not_lt.mpr (column ▸ outside))

end Cell

end Chip8
