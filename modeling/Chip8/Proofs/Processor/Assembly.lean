import Chip8.Proofs.Instruction.Forms
import Chip8.Proofs.Memory.Loading
import Chip8.Proofs.Processor.Execution

set_option autoImplicit false

namespace Chip8

namespace Instruction

def assemble (program : List Instruction) : List Byte :=
  program.flatMap fun instruction => instruction.encode.bytes

theorem length_assemble (program : List Instruction) :
    (assemble program).length = 2 * program.length := by
  induction program with
  | nil => rfl
  | cons first rest ih =>
    simp only [assemble, List.flatMap_cons, List.length_append, List.length_cons] at ih ⊢
    rw [ih, Word.bytes]
    simp only [List.length_cons, List.length_nil]
    omega

theorem getElem?_assemble (program : List Instruction) (k : Nat) (instruction : Instruction)
    (listed : program[k]? = some instruction) :
    (assemble program)[2 * k]? = some instruction.encode.high ∧
      (assemble program)[2 * k + 1]? = some instruction.encode.kk := by
  induction program generalizing k with
  | nil => simp at listed
  | cons first rest ih =>
    have unfolded : assemble (first :: rest) =
      first.encode.high :: first.encode.kk :: assemble rest := rfl
    cases k with
    | zero =>
      cases listed
      exact ⟨rfl, rfl⟩
    | succ k =>
      have later := ih k (by simpa using listed)
      have double : 2 * (k + 1) = 2 * k + 1 + 1 := by omega
      rw [unfolded, double]
      simpa only [List.getElem?_cons_succ] using later

end Instruction

namespace Memory

theorem get?_programStart_place (memory : Memory) (program : List Byte)
    (fits : program.length ≤ programRoom) :
    ∃ placed, memory.place program = .ok placed ∧
      ∀ offset < program.length, placed.get? (programStart + offset) = program[offset]? := by
  obtain ⟨placed, place, stands⟩ := memory.get?_place program fits
  refine ⟨placed, place, fun offset listed => ?_⟩
  have inside : programStart + offset < memorySize := by
    have room : programStart + programRoom = memorySize := rfl
    omega
  rw [stands _ inside, if_pos (.inr (Nat.le_add_right _ _)), imageByte_program,
    List.getD_eq_getElem _ _ listed, List.getElem?_eq_getElem listed]

theorem wordAt_assembled (memory : Memory) (program : List Instruction)
    (stands : ∀ offset < (Instruction.assemble program).length,
      memory.get? (programStart + offset) = (Instruction.assemble program)[offset]?)
    (k : Nat) (listed : k < program.length) :
    memory.wordAt (programStart + 2 * k) = program[k].encode := by
  have length := Instruction.length_assemble program
  obtain ⟨high, low⟩ :=
    Instruction.getElem?_assemble program k program[k] (List.getElem?_eq_getElem listed)
  have first := stands (2 * k) (by omega)
  have second := stands (2 * k + 1) (by omega)
  rw [wordAt, byteAt, byteAt, first, high, Nat.add_assoc, second, low]
  exact Word.ofBytes_high_kk program[k].encode

end Memory

theorem Processor.fetch_placed (processor : Processor) (address : Nat)
    (inside : address + 1 < memorySize) :
    Processor.fetch { processor with counter := BitVec.ofNat 16 address } =
      .ok (processor.memory.wordAt address,
        { processor with counter := BitVec.ofNat 16 (address + 2) }) := by
  have small : address % 2 ^ 16 = address :=
    Nat.mod_eq_of_lt (Nat.lt_trans (Nat.lt_of_succ_lt inside) (by decide))
  rw [fetch_eq]
  simp only [fetched, wordAtCounter, BitVec.toNat_ofNat, small]
  rw [if_pos inside, ← BitVec.ofNat_add]

/--
Instructions are written as the numbers of their forms. A program of them that
fits is loaded, and fetching and decoding its words in turn gives it back; and no
other word has an instruction than those written that way. Its operands are what
shifts and masks cut out of the word, and so within their ranges.
-/
theorem Instruction.written_loaded_fetched :
    (∀ instruction : Instruction, instruction.encode.toNat = instruction.number) ∧
      (∀ (processor : Processor) (program : List Instruction), program.length ≤ 1792 →
        let bytes := program.flatMap fun instruction => instruction.encode.bytes
        let loaded := processor.memory.load bytes
        loaded.answer = .ok bytes.length ∧
          ∀ (k : Nat) (listed : k < program.length),
            let ready (k : Nat) : Processor :=
              { processor with
                memory := loaded.state
                counter := BitVec.ofNat 16 (0x200 + 2 * k) }
            (ready k).fetch = .ok (program[k].encode, ready (k + 1)) ∧
              decode program[k].encode = some program[k]) ∧
      (∀ (w : Word) (instruction : Instruction),
        decode w = some instruction →
          instruction.encode = w ∧ instruction.HasOperands (.ofWord w)) ∧
      (∀ w : Word,
        let operands := Operands.ofWord w
        operands.x.toNat < 16 ∧ operands.y.toNat < 16 ∧ operands.n.toNat < 16 ∧
          operands.kk.toNat < 256 ∧ operands.address.toNat < 4096) ∧
      (∀ (v w : Word) (instruction : Instruction),
        decode v = some instruction → decode w = some instruction → v = w) ∧
      ∀ w : Word, decode w = none ↔ ∀ form ∈ forms, ¬ form.Matches w := by
  refine ⟨toNat_encode, fun processor program short => ?_,
    fun _ _ decoded => ⟨encode_of_decode decoded, hasOperands_of_decode decoded⟩,
    Operands.ofWord_in_range, fun v w instruction first second => ?_, decode_eq_none_iff⟩
  · have length := length_assemble program
    have fits : (assemble program).length ≤ programRoom := by
      have room : programRoom = 2 * 1792 := rfl
      omega
    obtain ⟨placed, place, stands⟩ := processor.memory.get?_programStart_place (assemble program) fits
    intro bytes loaded
    have load : loaded =
        { state := placed
          answer := .ok bytes.length
          journal := [.programLoaded bytes.length] } := by
      change Memory.load processor.memory (assemble program) = _
      rw [Memory.load, place]
      rfl
    clear_value loaded
    subst load
    refine ⟨rfl, fun k listed => ⟨?_, decode_encode program[k]⟩⟩
    have inside : 0x200 + 2 * k + 1 < memorySize := by
      have size : memorySize = 0x200 + 2 * 1792 := rfl
      omega
    have fetched :=
      Processor.fetch_placed { processor with memory := placed } (0x200 + 2 * k) inside
    have next : 0x200 + 2 * k + 2 = 0x200 + 2 * (k + 1) := by omega
    rw [placed.wordAt_assembled program stands k listed, next] at fetched
    exact fetched
  · exact (encode_of_decode first).symm.trans (encode_of_decode second)

theorem Instruction.written_loaded_fetched_last :
    let processor := Processor.fresh .skip (Random.cycle 0 [])
    let program := List.replicate 1792 Instruction.clear
    let loaded :=
      processor.memory.load (program.flatMap fun instruction => instruction.encode.bytes)
    Processor.fetch { processor with memory := loaded.state, counter := 4094 } =
      .ok (0x00E0, { processor with memory := loaded.state, counter := 4096 }) := by
  intro processor program loaded
  have length : program.length = 1792 := List.length_replicate
  obtain ⟨-, fetches⟩ := written_loaded_fetched.2.1 processor program (Nat.le_of_eq length)
  have listed : 1791 < program.length := by omega
  obtain ⟨fetched, -⟩ := fetches 1791 listed
  have last : program[1791] = .clear := List.getElem_replicate listed
  rw [last] at fetched
  exact fetched

end Chip8
