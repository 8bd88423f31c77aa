import Chip8.Proofs.Screen.Pictures
import Chip8.Proofs.Window.Upscaling

set_option autoImplicit false

namespace Chip8

namespace Cell

theorem eq_iff (cell other : Cell) : cell = other ↔ cell.x = other.x ∧ cell.y = other.y := by
  cases cell
  cases other
  rw [mk.injEq]

def Precedes (cell other : Cell) : Prop := cell.y < other.y ∨ cell.y = other.y ∧ cell.x < other.x

theorem pairwise_all : all.Pairwise Precedes := by
  rw [all, List.pairwise_flatMap]
  constructor
  · intro y _
    rw [List.pairwise_map]
    exact (List.pairwise_lt_finRange screenWidth).imp fun left => .inr ⟨rfl, left⟩
  · apply (List.pairwise_lt_finRange screenHeight).imp
    intro y below above cell inRow other inOther
    obtain ⟨x, -, rfl⟩ := List.mem_map.mp inRow
    obtain ⟨x', -, rfl⟩ := List.mem_map.mp inOther
    exact .inl above

theorem Precedes.ne {cell other : Cell} (precedes : cell.Precedes other) : cell ≠ other := by
  rintro rfl
  rcases precedes with above | ⟨-, left⟩
  · exact Nat.lt_irrefl _ above
  · exact Nat.lt_irrefl _ left

end Cell

namespace Frame

theorem mem_litCells (frame : Frame) (cell : Cell) :
    cell ∈ frame.litCells ↔ frame.lit cell = true := by
  simp [litCells]

theorem pairwise_litCells (frame : Frame) : frame.litCells.Pairwise Cell.Precedes :=
  Cell.pairwise_all.filter frame.lit

theorem length_litCells (frame : Frame) : frame.litCells.length = frame.litSet.card := by
  have distinct : frame.litCells.Nodup := frame.pairwise_litCells.imp Cell.Precedes.ne
  exact (List.toFinset_card_of_nodup distinct).symm

end Frame

namespace Square

def Precedes (square other : Square) : Prop :=
  square.y < other.y ∨ square.y = other.y ∧ square.x < other.x

def Apart (square other : Square) : Prop :=
  ∀ x y, ¬ (square.Covers x y ∧ other.Covers x y)

/-- The square stands for the cell at the scale that its own side has. -/
def StandsFor (square : Square) (cell : Cell) : Prop :=
  square.x = cell.x * square.side ∧ square.y = cell.y * square.side

instance (square : Square) (cell : Cell) : Decidable (square.StandsFor cell) :=
  inferInstanceAs (Decidable (_ ∧ _))

def clampCorner (place : Int) : Int := max leastCorner (min greatestCorner place)

theorem toNat_product (place : Nat) (scale : UInt32) :
    (UInt32.ofNat place * scale).toNat = place * scale.toNat % UInt32.size := by
  rw [UInt32.toNat_mul, UInt32.toNat_ofNat']
  exact Nat.mod_mul_mod _ _ _

theorem toInt_product (place : Nat) (scale : UInt32) :
    (UInt32.ofNat place * scale).toInt32.toInt = (place * scale.toNat : Int).bmod UInt32.size :=
  calc
    (UInt32.ofNat place * scale).toInt32.toInt =
        ((UInt32.ofNat place * scale).toNat : Int).bmod UInt32.size :=
      BitVec.toInt_eq_toNat_bmod _
    _ = (place * scale.toNat : Int).bmod UInt32.size := by
      rw [toNat_product, Int.natCast_emod, Int.emod_bmod, Int.natCast_mul]

-- A corner is the product of two words, read as a signed number and clamped.
theorem corner_eq_clampCorner (place : Nat) (scale : UInt32) :
    corner place scale = clampCorner (UInt32.ofNat place * scale).toInt32.toInt := by
  rw [toInt_product]
  rfl

section Usable

variable (scale : UInt32) (positive : 0 < scale.toNat) (fits : 63 * scale.toNat ≤ 1073741823)
include positive fits

theorem ofCell_apart {cell other : Cell} (different : cell ≠ other) :
    (ofCell scale cell).Apart (ofCell scale other) := by
  rintro x y ⟨first, second⟩
  have square := ofCell_eq scale positive fits cell
  -- No square reaches to the left of the window or above it.
  obtain ⟨column, rfl⟩ : ∃ column : Nat, x = column := by
    have least := first.1.1
    rw [square] at least
    exact Int.eq_ofNat_of_zero_le (Int.le_trans (Int.natCast_nonneg _) least)
  obtain ⟨row, rfl⟩ : ∃ row : Nat, y = row := by
    have least := first.2.1
    rw [square] at least
    exact Int.eq_ofNat_of_zero_le (Int.le_trans (Int.natCast_nonneg _) least)
  -- The quotients of the point by the scale name the one cell it can belong to.
  obtain ⟨inColumn, inRow⟩ := (covers_ofCell_iff scale positive fits cell column row).mp first
  obtain ⟨otherColumn, otherRow⟩ :=
    (covers_ofCell_iff scale positive fits other column row).mp second
  exact different ((Cell.eq_iff cell other).mpr
    ⟨Fin.ext (inColumn.symm.trans otherColumn), Fin.ext (inRow.symm.trans otherRow)⟩)

theorem ofCell_precedes {cell other : Cell} (precedes : cell.Precedes other) :
    (ofCell scale cell).Precedes (ofCell scale other) := by
  have grows {place beyond : Nat} (less : place < beyond) :
      (place * scale.toNat : Int) < beyond * scale.toNat := by
    exact_mod_cast Nat.mul_lt_mul_of_pos_right less positive
  rw [ofCell_eq scale positive fits, ofCell_eq scale positive fits]
  rcases precedes with above | ⟨same, left⟩
  · exact .inl (grows above)
  · refine .inr ⟨?_, grows left⟩
    simp only [same]

theorem standsFor_ofCell_iff (cell other : Cell) :
    (ofCell scale cell).StandsFor other ↔ cell = other := by
  have cancel (place another : Nat) :
      (place * scale.toNat : Int) = another * scale.toNat ↔ place = another := by
    rw [← Int.natCast_mul, ← Int.natCast_mul, Int.natCast_inj]
    exact Nat.mul_left_inj (Nat.pos_iff_ne_zero.mp positive)
  rw [ofCell_eq scale positive fits, StandsFor, cancel, cancel, Fin.val_inj, Fin.val_inj,
    Cell.eq_iff]

end Usable

end Square

namespace Frame

/-- The frame that a list of squares shows, whatever its scale. -/
def ofSquares (squares : List Square) : Frame :=
  ⟨Vector.ofFn fun y => Vector.ofFn fun x =>
    decide (∃ square ∈ squares, square.StandsFor { x := x, y := y })⟩

theorem lit_ofSquares (squares : List Square) (cell : Cell) :
    (ofSquares squares).lit cell = decide (∃ square ∈ squares, square.StandsFor cell) := by
  simp [lit, ofSquares]

theorem ofSquares_squares (frame : Frame) (scale : UInt32) (positive : 0 < scale.toNat)
    (fits : 63 * scale.toNat ≤ 1073741823) : ofSquares (frame.squares scale) = frame := by
  apply ext_lit
  intro cell
  rw [lit_ofSquares, Bool.eq_iff_iff, decide_eq_true_iff]
  constructor
  · rintro ⟨square, member, stands⟩
    obtain ⟨other, listed, rfl⟩ := List.mem_map.mp member
    rw [← (Square.standsFor_ofCell_iff scale positive fits other cell).mp stands]
    exact (frame.mem_litCells other).mp listed
  · intro lit
    have listed := (frame.mem_litCells cell).mpr lit
    exact ⟨Square.ofCell scale cell, List.mem_map_of_mem listed,
      (Square.standsFor_ofCell_iff scale positive fits cell cell).mpr rfl⟩

theorem eq_of_squares_eq (frame other : Frame) (scale otherScale : UInt32)
    (positive : 0 < scale.toNat) (fits : 63 * scale.toNat ≤ 1073741823)
    (otherPositive : 0 < otherScale.toNat) (otherFits : 63 * otherScale.toNat ≤ 1073741823)
    (same : other.squares otherScale = frame.squares scale) : other = frame :=
  calc
    other = ofSquares (other.squares otherScale) :=
      (other.ofSquares_squares otherScale otherPositive otherFits).symm
    _ = ofSquares (frame.squares scale) := by rw [same]
    _ = frame := frame.ofSquares_squares scale positive fits

/--
While the products of the last column still fit in a word, the squares are those of the
lit cells, each once and in their order, and each is what its products become when they
are read as signed numbers and clamped. While the last corner stays in range as well, a
square lies exactly at its cell's place; then the squares are apart, in strict order of
their corners, and show one frame only.
-/
theorem squares_list_litCells (frame : Frame) (scale : UInt32)
    (whole : 63 * scale.toNat < UInt32.size) :
    (∀ cell : Cell,
      (UInt32.ofNat cell.x * scale).toNat = cell.x * scale.toNat ∧
        (UInt32.ofNat cell.y * scale).toNat = cell.y * scale.toNat ∧
        Square.ofCell scale cell =
          { x := Square.clampCorner (UInt32.ofNat cell.x * scale).toInt32.toInt
            y := Square.clampCorner (UInt32.ofNat cell.y * scale).toInt32.toInt
            side := Square.clampSide scale }) ∧
      (∃ cells : List Cell, cells.Pairwise Cell.Precedes ∧
        (∀ cell, cell ∈ cells ↔ frame.lit cell = true) ∧
        frame.squares scale = cells.map (Square.ofCell scale)) ∧
      (frame.squares scale).length = frame.litSet.card ∧
      (0 < scale.toNat → 63 * scale.toNat ≤ 1073741823 →
        (∀ cell : Cell, Square.ofCell scale cell =
          { x := cell.x * scale.toNat, y := cell.y * scale.toNat, side := scale.toNat }) ∧
        (frame.squares scale).Pairwise Square.Apart ∧
        (frame.squares scale).Pairwise Square.Precedes ∧
        ofSquares (frame.squares scale) = frame ∧
        ∀ (other : Frame) (otherScale : UInt32), 0 < otherScale.toNat →
          63 * otherScale.toNat ≤ 1073741823 →
          other.squares otherScale = frame.squares scale → other = frame) := by
  have product (place : Nat) (low : place ≤ 63) :
      (UInt32.ofNat place * scale).toNat = place * scale.toNat := by
    rw [Square.toNat_product]
    exact Nat.mod_eq_of_lt (Nat.lt_of_le_of_lt (Nat.mul_le_mul_right _ low) whole)
  refine ⟨?_, ⟨frame.litCells, frame.pairwise_litCells, frame.mem_litCells, rfl⟩, ?_, ?_⟩
  · intro cell
    refine ⟨product _ (Nat.le_of_lt_succ cell.x.isLt),
      product _ (Nat.le_trans (Nat.le_of_lt cell.y.isLt) (by decide)), ?_⟩
    rw [Square.ofCell, Square.corner_eq_clampCorner, Square.corner_eq_clampCorner]
  · rw [squares, List.length_map, length_litCells]
  · intro positive fits
    refine ⟨Square.ofCell_eq scale positive fits, ?_, ?_, ?_, ?_⟩
    · rw [squares, List.pairwise_map]
      exact frame.pairwise_litCells.imp fun precedes =>
        Square.ofCell_apart scale positive fits precedes.ne
    · rw [squares, List.pairwise_map]
      exact frame.pairwise_litCells.imp (Square.ofCell_precedes scale positive fits)
    · exact frame.ofSquares_squares scale positive fits
    · intro other otherScale
      exact frame.eq_of_squares_eq other scale otherScale positive fits

theorem squares_list_litCells_greatest :
    let frame : Frame := .put (.put .blank { x := 0, y := 0 } true) { x := 63, y := 31 } true
    let scale : UInt32 := 17043521
    63 * scale.toNat = 1073741823 ∧
      Square.ofCell scale { x := 63, y := 31 } =
        { x := 1073741823, y := 528349151, side := 17043521 } ∧
      (frame.squares scale).Pairwise Square.Apart ∧
      ofSquares (frame.squares scale) = frame := by
  intro frame scale
  obtain ⟨-, -, -, inRange⟩ := frame.squares_list_litCells scale (by decide)
  obtain ⟨exactly, apart, -, shows, -⟩ := inRange (by decide) (by decide)
  exact ⟨by decide, (exactly { x := 63, y := 31 }).trans (by decide), apart, shows⟩

end Frame

end Chip8
