import Chip8.Journal.Event
import Chip8.Memory.Basic
import Chip8.Stream.Basic

set_option autoImplicit false

namespace Chip8

inductive LoadError where
  | unreadable (cause : ReadFailure)
  | tooLarge (size room : Nat)
  deriving DecidableEq, Repr

def LoadError.message : LoadError → String
  | unreadable cause => "unable to read program: " ++ cause.text
  | tooLarge size room => s!"program is {size} bytes but only {room} fit in memory"

namespace Memory

def place (memory : Memory) (program : List Byte) : Except LoadError Memory :=
  if program.length > programRoom then
    .error (.tooLarge program.length programRoom)
  else
    .ok ((memory.clearFrom programStart).write programStart program).writeFont

def load (memory : Memory) (program : List Byte) : Outcome Memory (Except LoadError Nat) :=
  match memory.place program with
  | .error error => { state := memory, answer := .error error, journal := [] }
  | .ok placed =>
      { state := placed
        answer := .ok program.length
        journal := [.programLoaded program.length] }

def loadStream (memory : Memory) (stream : Stream) : Outcome Memory (Except LoadError Nat) :=
  match stream.readAll with
  | .error cause => { state := memory, answer := .error (.unreadable cause), journal := [] }
  | .ok program => memory.load program

def imageByte (program : List Byte) (address : Nat) : Byte :=
  if fontStart ≤ address ∧ address < fontStart + fontSize then
    font.toList.getD (address - fontStart) 0
  else if programStart ≤ address then
    program.getD (address - programStart) 0
  else 0

/-- The font, the program at its start, and zeros everywhere else. -/
def image (program : List Byte) : Memory :=
  ⟨Vector.ofFn fun address => imageByte program address⟩

@[simp]
theorem get?_image (program : List Byte) (address : Nat) (inside : address < memorySize) :
    (image program).get? address = some (imageByte program address) := by
  simp [image, get?, inside]

theorem fresh_eq_image : fresh = image [] := by
  apply ext_get?
  intro address inside
  have blank : zero.get? address = some 0 := by simp [zero, get?, inside]
  rw [fresh, writeFont, get?_write _ _ _ _ inside, get?_image [] address inside, blank, imageByte]
  simp only [Vector.length_toList]
  by_cases inFont : fontStart ≤ address ∧ address < fontStart + fontSize
  · have known : address - fontStart < fontSize := by omega
    simp [inFont, known]
  · simp [inFont]

theorem get?_place (memory : Memory) (program : List Byte)
    (fits : program.length ≤ programRoom) :
    ∃ placed, memory.place program = .ok placed ∧
      ∀ address < memorySize, placed.get? address =
        if fontStart ≤ address ∧ address < fontStart + fontSize ∨ programStart ≤ address then
          some (imageByte program address)
        else memory.get? address := by
  have small : ¬ program.length > programRoom := by omega
  refine ⟨_, by rw [place, if_neg small], fun address inside => ?_⟩
  have present : memory.get? address = some memory.bytes[address] := by simp [get?, inside]
  rw [writeFont, get?_write _ _ _ _ inside, get?_write _ _ _ _ inside, get?_clearFrom, present]
  simp only [imageByte, Vector.length_toList, Option.map_some]
  by_cases inFont : fontStart ≤ address ∧ address < fontStart + fontSize
  · have known : address - fontStart < fontSize := by omega
    simp [inFont, known]
  · by_cases reserved : address < programStart
    · have before : ¬ programStart ≤ address := by omega
      simp [inFont, reserved, before]
    · have behind : programStart ≤ address := by omega
      by_cases written : address < programStart + program.length
      · have known : address - programStart < program.length := by omega
        simp [inFont, behind, written, known]
      · have past : program.length ≤ address - programStart := by
          have := Nat.not_lt.1 written
          exact Nat.le_sub_of_add_le' this
        have absent : program[address - programStart]? = none := List.getElem?_eq_none past
        simp [inFont, reserved, behind, written, absent]

theorem place_image (earlier program : List Byte) (fits : program.length ≤ programRoom) :
    (image earlier).place program = .ok (image program) := by
  obtain ⟨placed, place, stands⟩ := (image earlier).get?_place program fits
  rw [place]
  refine congrArg Except.ok (ext_get? fun address inside => ?_)
  rw [stands address inside, get?_image program address inside]
  split
  next => rfl
  next outside =>
    -- What a load does not write is zero in every image.
    obtain ⟨notFont, reserved⟩ := not_or.mp outside
    rw [get?_image earlier address inside, imageByte, imageByte, if_neg notFont, if_neg reserved,
      if_neg notFont, if_neg reserved]

end Memory

end Chip8
