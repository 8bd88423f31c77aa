import Chip8.Proofs.Memory.Reading
import Mathlib.Data.List.GetD

set_option autoImplicit false

namespace Chip8

namespace Stream

/-- The program in a stream, if it can be read to its end and fits. -/
def program? (stream : Stream) : Option (List Byte) :=
  match stream.readAll with
  | .ok program => if program.length ≤ programRoom then some program else none
  | .error _ => none

theorem program?_eq_some_iff (stream : Stream) (program : List Byte) :
    stream.program? = some program ↔
      stream.readAll = .ok program ∧ program.length ≤ programRoom := by
  rw [program?]
  split
  next found read =>
    rw [read]
    split
    next fits =>
      constructor
      · intro same
        cases same
        exact ⟨rfl, fits⟩
      · rintro ⟨⟨⟩, -⟩
        rfl
    next large =>
      constructor
      · nofun
      · rintro ⟨⟨⟩, fits⟩
        exact absurd fits large
  next cause read =>
    rw [read]
    constructor
    · nofun
    · rintro ⟨⟨⟩, -⟩

end Stream

namespace Memory

structure Holds (memory : Memory) (program : List Byte) : Prop where
  font : ∀ offset (inside : offset < 80), memory.read (0x50 + offset) = .ok Chip8.font[offset]
  loaded : ∀ offset (inside : offset < program.length),
    memory.read (0x200 + offset) = .ok program[offset]
  rest : ∀ address < 4096, ¬ (0x50 ≤ address ∧ address < 0xA0) →
    ¬ (0x200 ≤ address ∧ address < 0x200 + program.length) → memory.read address = .ok 0

theorem read_image (program : List Byte) (address : Nat) (inside : address < memorySize) :
    (image program).read address = .ok (imageByte program address) := by
  rw [read_eq, if_pos inside, byteAt_image program address inside]

theorem imageByte_font (program : List Byte) (offset : Nat) (inside : offset < fontSize) :
    imageByte program (fontStart + offset) = font[offset] := by
  have inFont : fontStart ≤ fontStart + offset ∧ fontStart + offset < fontStart + fontSize :=
    ⟨Nat.le_add_right _ _, Nat.add_lt_add_left inside _⟩
  rw [imageByte, if_pos inFont, Nat.add_sub_cancel_left]
  simp [List.getD_eq_getElem?_getD, inside]

theorem imageByte_program (program : List Byte) (offset : Nat) :
    imageByte program (programStart + offset) = program.getD offset 0 := by
  have behindFont : ¬ (fontStart ≤ programStart + offset ∧
      programStart + offset < fontStart + fontSize) := by
    have font : fontStart + fontSize ≤ programStart := by decide
    omega
  rw [imageByte, if_neg behindFont, if_pos (Nat.le_add_right _ _), Nat.add_sub_cancel_left]

theorem wordAt_program (program : List Byte) (offset : Nat)
    (inside : programStart + offset + 1 < memorySize) :
    (image program).wordAt (programStart + offset) =
      Word.ofBytes (program.getD offset 0) (program.getD (offset + 1) 0) := by
  rw [wordAt_image program _ inside, Nat.add_assoc, imageByte_program, imageByte_program]

theorem imageByte_reserved (program : List Byte) (address : Nat)
    (outside : ¬ (fontStart ≤ address ∧ address < fontStart + fontSize))
    (reserved : address < programStart) : imageByte program address = 0 := by
  rw [imageByte, if_neg outside, if_neg (Nat.not_le_of_lt reserved)]

theorem image_holds (program : List Byte) (fits : program.length ≤ programRoom) :
    (image program).Holds program := by
  constructor
  · intro offset inside
    have low : 0x50 + offset < memorySize :=
      Nat.lt_trans (Nat.add_lt_add_left inside 0x50) (by decide)
    rw [read_image program _ low]
    exact congrArg Except.ok (imageByte_font program offset inside)
  · intro offset inside
    have room : 0x200 + programRoom = memorySize := rfl
    rw [read_image program _ (by omega)]
    refine congrArg Except.ok ((imageByte_program program offset).trans ?_)
    rw [List.getD_eq_getElem _ _ inside]
  · intro address inside outsideFont outsideProgram
    rw [read_image program address inside]
    refine congrArg Except.ok ?_
    by_cases reserved : address < 0x200
    next => exact imageByte_reserved program address outsideFont reserved
    next =>
      obtain ⟨offset, rfl⟩ := Nat.exists_eq_add_of_le (Nat.le_of_not_lt reserved)
      refine (imageByte_program program offset).trans ?_
      rw [List.getD_eq_default _ _ (by omega)]

/-- A memory has taken a program: font, program and zeros are written, the rest is kept. -/
structure Takes (before : Memory) (program : List Byte) (after : Memory) : Prop where
  font : ∀ offset (inside : offset < 80), after.read (0x50 + offset) = .ok Chip8.font[offset]
  loaded : ∀ offset (inside : offset < program.length),
    after.read (0x200 + offset) = .ok program[offset]
  blank : ∀ address < 4096, 0x200 + program.length ≤ address → after.read address = .ok 0
  kept : ∀ address < 0x200, ¬ (0x50 ≤ address ∧ address < 0xA0) →
    after.read address = before.read address

theorem takes_of_place (memory : Memory) (program : List Byte)
    (fits : program.length ≤ programRoom) :
    ∃ placed, memory.place program = .ok placed ∧ memory.Takes program placed := by
  obtain ⟨placed, place, stands⟩ := memory.get?_place program fits
  have holds := image_holds program fits
  have room : 0x200 + programRoom = memorySize := rfl
  have written (address : Nat) (inside : address < memorySize)
      (here : fontStart ≤ address ∧ address < fontStart + fontSize ∨ programStart ≤ address) :
      placed.read address = (image program).read address := by
    rw [read, read, stands address inside, if_pos here, get?_image program address inside]
  refine ⟨placed, place, ?_, ?_, ?_, ?_⟩
  · intro offset inside
    have inFont : fontStart ≤ 0x50 + offset ∧ 0x50 + offset < fontStart + fontSize :=
      ⟨Nat.le_add_right _ _, Nat.add_lt_add_left inside 0x50⟩
    have low : 0x50 + offset < memorySize := Nat.lt_trans inFont.2 (by decide)
    rw [written _ low (.inl inFont), holds.font offset inside]
  · intro offset inside
    have low : 0x200 + offset < memorySize := by omega
    rw [written _ low (.inr (Nat.le_add_right _ _)), holds.loaded offset inside]
  · intro address inside behind
    have past : programStart ≤ address := Nat.le_trans (Nat.le_add_right _ _) behind
    rw [written address inside (.inr past)]
    exact holds.rest address inside (by omega) (by omega)
  · intro address reserved outsideFont
    have untouched : ¬ (fontStart ≤ address ∧ address < fontStart + fontSize ∨
        programStart ≤ address) := by
      rintro (inFont | behind)
      · exact outsideFont inFont
      · exact Nat.not_le_of_lt reserved behind
    have inside : address < memorySize := Nat.lt_trans reserved (by decide)
    rw [read, read, stands address inside, if_neg untouched]

theorem takes_load (memory : Memory) (program : List Byte)
    (fits : program.length ≤ programRoom) :
    (memory.load program).answer = .ok program.length ∧
      memory.Takes program (memory.load program).state := by
  obtain ⟨placed, place, takes⟩ := memory.takes_of_place program fits
  rw [load, place]
  exact ⟨rfl, takes⟩

theorem loadStream_of_fits (earlier program : List Byte) (stream : Stream)
    (read : stream.readAll = .ok program) (fits : program.length ≤ programRoom) :
    (image earlier).loadStream stream =
      { state := image program
        answer := .ok program.length
        journal := [.programLoaded program.length] } := by
  simp only [loadStream, read, load, place_image earlier program fits]

theorem loadStream_of_large (memory : Memory) (program : List Byte) (stream : Stream)
    (read : stream.readAll = .ok program) (large : programRoom < program.length) :
    memory.loadStream stream =
      { state := memory
        answer := .error (.tooLarge program.length programRoom)
        journal := [] } := by
  simp only [loadStream, read, load, place, if_pos large]

theorem loadStream_of_unreadable (memory : Memory) (stream : Stream) (cause : ReadFailure)
    (read : stream.readAll = .error cause) :
    memory.loadStream stream =
      { state := memory, answer := .error (.unreadable cause), journal := [] } := by
  simp only [loadStream, read]

theorem journal_loadStream_of_ok (memory : Memory) (stream : Stream) (size : Nat)
    (loaded : (memory.loadStream stream).answer = .ok size) :
    (memory.loadStream stream).journal = [.programLoaded size] := by
  rw [loadStream] at loaded ⊢
  split at loaded
  next => cases loaded
  next program _ =>
    rw [load] at loaded ⊢
    split at loaded
    next => cases loaded
    next => rw [← Except.ok.inj loaded]

theorem journal_loadStream_of_error (memory : Memory) (stream : Stream) (error : LoadError)
    (refused : (memory.loadStream stream).answer = .error error) :
    (memory.loadStream stream).journal = [] := by
  rw [loadStream] at refused ⊢
  split at refused
  next => rfl
  next program _ =>
    rw [load] at refused ⊢
    split at refused
    next => rfl
    next => cases refused

theorem state_loadStream_image (earlier : List Byte) (stream : Stream) :
    ((image earlier).loadStream stream).state = image (stream.program?.getD earlier) := by
  rw [Stream.program?]
  split
  next program read =>
    split
    next fits => rw [loadStream_of_fits earlier program stream read fits, Option.getD_some]
    next large =>
      rw [loadStream_of_large _ program stream read (Nat.lt_of_not_le large), Option.getD_none]
  next cause read => rw [loadStream_of_unreadable _ stream cause read, Option.getD_none]

end Memory

end Chip8
