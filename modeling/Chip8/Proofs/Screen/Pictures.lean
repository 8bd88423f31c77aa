import Chip8.Proofs.Screen.Sprites
import Mathlib.Data.Finset.SymmDiff
import Mathlib.Data.Finset.Card
import Mathlib.Data.List.Perm.Basic

set_option autoImplicit false

namespace Chip8

open scoped symmDiff

namespace Frame

def litSet (frame : Frame) : Finset Cell := frame.litCells.toFinset

@[simp]
theorem mem_litSet (frame : Frame) (cell : Cell) :
    cell ∈ frame.litSet ↔ frame.lit cell = true := by
  simp [litSet, litCells]

theorem litSet_injective {left right : Frame} (same : left.litSet = right.litSet) :
    left = right := by
  apply ext_lit
  intro cell
  have member := Finset.ext_iff.mp same cell
  rw [mem_litSet, mem_litSet] at member
  exact Bool.eq_iff_iff.mpr member

end Frame

namespace Display

theorem litSet_draw (display : Display) (sprite : Sprite) :
    (display.draw sprite).1.frame.litSet = display.frame.litSet ∆ sprite.cells.toFinset := by
  ext cell
  have drawn : (display.draw sprite).1.frame.lit cell =
      (decide (cell ∈ sprite.cells) ^^ display.frame.lit cell) :=
    display.lit_toggleAll sprite.cells sprite.nodup_cells cell
  simp only [Finset.mem_symmDiff, Frame.mem_litSet, List.mem_toFinset, drawn]
  by_cases covered : cell ∈ sprite.cells <;> simp [covered]

theorem draw_collides_iff (display : Display) (sprite : Sprite) :
    (display.draw sprite).2 = true ↔
      ¬ Disjoint display.frame.litSet sprite.cells.toFinset := by
  have collides := display.collision_toggleAll sprite.cells sprite.nodup_cells
  rw [Finset.not_disjoint_iff]
  simp only [Frame.mem_litSet, List.mem_toFinset]
  constructor
  · intro collided
    obtain ⟨cell, covered, lit⟩ := collides.mp collided
    exact ⟨cell, lit, covered⟩
  · intro found
    obtain ⟨cell, lit, covered⟩ := found
    exact collides.mpr ⟨cell, covered, lit⟩

end Display

section Toggling

variable {Place : Type} [DecidableEq Place]

theorem card_symmDiff_add (lit cells : Finset Place) :
    (lit ∆ cells).card + 2 * (lit ∩ cells).card = lit.card + cells.card := by
  have apart : Disjoint (lit \ cells) (cells \ lit) := disjoint_sdiff_sdiff
  have parts : (lit ∆ cells).card = (lit \ cells).card + (cells \ lit).card :=
    Finset.card_union_of_disjoint apart
  have kept := Finset.card_sdiff_add_card_inter lit cells
  have fresh := Finset.card_sdiff_add_card_inter cells lit
  rw [Finset.inter_comm] at fresh
  omega

theorem card_symmDiff_lt_iff (lit cells : Finset Place) :
    (lit ∆ cells).card < lit.card + cells.card ↔ ¬ Disjoint lit cells := by
  have counted := card_symmDiff_add lit cells
  rw [Finset.disjoint_iff_inter_eq_empty, ← Finset.card_eq_zero]
  omega

theorem disjoint_symmDiff_iff (lit cells : Finset Place) :
    Disjoint (lit ∆ cells) cells ↔ cells ⊆ lit := by
  rw [Finset.disjoint_right]
  constructor
  · intro dark cell covered
    by_contra unlit
    exact dark covered (Finset.mem_symmDiff.mpr (.inr ⟨covered, unlit⟩))
  · intro all cell covered
    simp [Finset.mem_symmDiff, covered, all covered]

theorem foldl_symmDiff_cancel (lit cells : Finset Place)
    (before between behind : List (Finset Place)) :
    (before ++ cells :: between ++ cells :: behind).foldl (· ∆ ·) lit =
      (before ++ between ++ behind).foldl (· ∆ ·) lit := by
  -- Brought to the front, the two equal sets meet.
  have front : (before ++ cells :: between ++ cells :: behind).Perm
      (cells :: cells :: (before ++ between ++ behind)) := by
    refine List.perm_middle.trans (List.Perm.cons cells ?_)
    simp only [List.append_assoc, List.cons_append]
    exact List.perm_middle
  rw [front.foldl_eq lit, List.foldl_cons, List.foldl_cons, symmDiff_symmDiff_cancel_right]

end Toggling

end Chip8
