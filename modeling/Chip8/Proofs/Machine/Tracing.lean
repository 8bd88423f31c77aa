import Chip8.Proofs.Machine.Holding
import Chip8.Proofs.Memory.Loading
import Chip8.Proofs.Processor.Faults

set_option autoImplicit false

namespace Chip8

def Action.runs : Action → Bool
  | .step => true
  | .takeFrame => true
  | .tick => true
  | .tickClock _ => true
  | _ => false

theorem Registers.toList_eq_map_read (registers : Registers) :
    registers.toList = (List.range 16).map fun x => registers.read (BitVec.ofNat 4 x) := by
  apply List.ext_getElem
  · simp
  · intro x inside _
    have small : x < 16 := by simpa using inside
    simp [read, Nat.mod_eq_of_lt small]

theorem Text.hex_byte (byte : Byte) : hex 2 byte.toNat = digits 2 byte.toNat :=
  hex_eq_digits 1 byte.toNat byte.isLt

theorem Text.hex_word (word : Word) : hex 4 word.toNat = digits 4 word.toNat :=
  hex_eq_digits 3 word.toNat word.isLt

namespace Event

def traced? : Event → Option Word
  | executing word _ _ _ => some word
  | _ => none

/-- The line tells of the word at this place of memory, and of the counter right behind it. -/
def Cites (memory : Memory) (place : Nat) : Event → Prop
  | executing word _ _ counter => word = memory.wordAt place ∧ counter.toNat = place + 2
  | skipped word counter => word = memory.wordAt place ∧ counter.toNat = place + 2
  | _ => False

theorem isSome_traced? (event : Event) : event.traced?.isSome = decide (event.level = .trace) := by
  cases event with
  | executing word registers index counter => rfl
  | _ => rfl

theorem countP_trace (log : List Event) :
    log.countP (fun event => event.level = .trace) = (log.filterMap traced?).length := by
  rw [List.length_filterMap_eq_countP]
  exact List.countP_congr fun event _ => by rw [isSome_traced?]

theorem Cites.told {memory : Memory} {place : Nat} {event : Event}
    (cites : event.Cites memory place) :
    event.byClock = false ∧ (event.level = .trace ∨ event.level = .warn) := by
  cases event with
  | executing word registers index counter => exact ⟨rfl, .inl rfl⟩
  | skipped word counter => exact ⟨rfl, .inr rfl⟩
  | _ => exact cites.elim

theorem line_executing (word : Word) (registers : Registers) (index counter : Word) :
    (executing word registers index counter).line =
      "TRACE " ++ Text.hex 4 word.toNat ++ " v[" ++
        ", ".intercalate ((List.range 16).map fun x =>
          Text.hex 2 (registers.read (BitVec.ofNat 4 x)).toNat) ++ "] i" ++
        Text.hex 4 index.toNat ++ " pc" ++ Text.hex 4 counter.toNat := by
  have parts : (executing word registers index counter).line =
      "TRACE " ++ (Text.hex 4 word.toNat ++ " v" ++ registersText registers ++
        " i" ++ Text.hex 4 index.toNat ++ " pc" ++ Text.hex 4 counter.toNat) := rfl
  have opening : " v[" = " v" ++ "[" := by decide
  have closing : "] i" = "]" ++ " i" := by decide
  simp only [parts, opening, closing, registersText, Registers.toList_eq_map_read,
    List.map_map, Function.comp_def, String.append_assoc]

theorem line_skipped (word counter : Word) :
    (skipped word counter).line =
      "WARN Skipping unknown opcode " ++ Text.hex 4 word.toNat ++ " at " ++
        Text.hex 4 counter.toNat := by
  have parts : (skipped word counter).line =
      "WARN " ++ ("Skipping unknown opcode " ++ Text.hex 4 word.toNat ++ " at " ++
        Text.hex 4 counter.toNat) := rfl
  have opening : "WARN Skipping unknown opcode " = "WARN " ++ "Skipping unknown opcode " := by
    decide
  simp only [parts, opening, String.append_assoc]

end Event

namespace Processor

/--
What a step has to tell: nothing if it cannot fetch, or else the word at the counter with
the state it meets, and behind that a warning if the word is skipped.
-/
def lines (processor : Processor) : List Event :=
  let place := processor.counter.toNat
  let word := Word.ofBytes (processor.memory.byteAt place) (processor.memory.byteAt (place + 1))
  let behind := processor.counter + 2
  match processor.fetch with
  | .error _ => []
  | .ok _ =>
      .executing word processor.registers processor.index behind ::
        if Instruction.decode word = none ∧ processor.unknownWords = .skip then
          [.skipped word behind]
        else []

theorem lines_of_lt (processor : Processor)
    (inside : processor.counter.toNat + 1 < memorySize) :
    processor.lines =
      processor.fetched.entry processor.wordAtCounter ::
        if Instruction.decode processor.wordAtCounter = none ∧ processor.unknownWords = .skip then
          [.skipped processor.wordAtCounter processor.fetched.counter]
        else [] := by
  rw [lines, fetch_eq, if_pos inside]
  rfl

theorem lines_of_le (processor : Processor)
    (outside : memorySize ≤ processor.counter.toNat + 1) : processor.lines = [] := by
  rw [lines, fetch_eq, if_neg (Nat.not_lt.mpr outside)]

theorem journal_step_eq_lines (processor : Processor) :
    processor.step.journal = processor.lines := by
  cases processor.meets with
  | instruction instruction executes =>
    have known : ¬ (Instruction.decode processor.wordAtCounter = none ∧
        processor.unknownWords = .skip) := by
      rw [executes.2]
      nofun
    rw [processor.step_of_executes executes, processor.lines_of_lt executes.1, if_neg known]
  | unknownWord unknown =>
    rw [processor.lines_of_lt unknown.1]
    cases policy : processor.unknownWords with
    | skip => rw [processor.step_of_skip unknown policy, if_pos ⟨unknown.2, rfl⟩]
    | fail => rw [processor.step_of_fail unknown policy, if_neg nofun]
  | noWord outside => rw [processor.step_of_le outside, processor.lines_of_le outside]

/-- What a step has to tell, as text, digit by digit of the numbers in the state. -/
def report (processor : Processor) : List String :=
  let place := processor.counter.toNat
  let word :=
    256 * (processor.memory.byteAt place).toNat + (processor.memory.byteAt (place + 1)).toNat
  let registers := (List.range 16).map fun x =>
    Text.digits 2 (processor.registers.read (BitVec.ofNat 4 x)).toNat
  let behind := Text.digits 4 (place + 2)
  match processor.fetch with
  | .error _ => []
  | .ok _ =>
      ("TRACE " ++ Text.digits 4 word ++ " v[" ++ ", ".intercalate registers ++ "] i" ++
          Text.digits 4 processor.index.toNat ++ " pc" ++ behind) ::
        if Instruction.decode (BitVec.ofNat 16 word) = none ∧ processor.unknownWords = .skip then
          ["WARN Skipping unknown opcode " ++ Text.digits 4 word ++ " at " ++ behind]
        else []

theorem map_line_lines (processor : Processor) :
    processor.lines.map Event.line = processor.report := by
  by_cases inside : processor.counter.toNat + 1 < memorySize
  next =>
    have behind : processor.fetched.counter.toNat = processor.counter.toNat + 2 :=
      processor.toNat_counter_fetched inside
    have word : 256 * (processor.memory.byteAt processor.counter.toNat).toNat +
        (processor.memory.byteAt (processor.counter.toNat + 1)).toNat =
          processor.wordAtCounter.toNat := (Word.toNat_ofBytes _ _).symm
    have whole : BitVec.ofNat 16 processor.wordAtCounter.toNat = processor.wordAtCounter :=
      BitVec.ofNat_toNat _ _
    rw [processor.lines_of_lt inside, report, fetch_eq, if_pos inside, List.map_cons, entry,
      Event.line_executing, word, whole, ← behind]
    simp only [Text.hex_byte, Text.hex_word]
    refine congrArg (List.cons _) ?_
    split
    next => rw [List.map_singleton, Event.line_skipped, Text.hex_word, Text.hex_word]
    next => rfl
  next =>
    rw [processor.lines_of_le (Nat.le_of_not_lt inside), report, fetch_eq, if_neg inside]
    rfl

def fetchedWord? (processor : Processor) : Option Word := processor.fetch.toOption.map Prod.fst

theorem traced_lines (processor : Processor) :
    processor.lines.filterMap Event.traced? = processor.fetchedWord?.toList := by
  by_cases inside : processor.counter.toNat + 1 < memorySize
  next =>
    have word : processor.fetchedWord? = some processor.wordAtCounter := by
      rw [fetchedWord?, fetch_eq, if_pos inside]
      rfl
    rw [word, processor.lines_of_lt inside]
    split
    next => rfl
    next => rfl
  next =>
    rw [processor.lines_of_le (Nat.le_of_not_lt inside), fetchedWord?, fetch_eq, if_neg inside]
    rfl

theorem cites_of_mem_lines (processor : Processor) :
    ∀ event ∈ processor.lines, processor.counter.toNat + 1 < memorySize ∧
      event.Cites processor.memory processor.counter.toNat := by
  by_cases inside : processor.counter.toNat + 1 < memorySize
  next =>
    have behind := processor.toNat_counter_fetched inside
    rw [processor.lines_of_lt inside]
    refine List.forall_mem_cons.mpr ⟨⟨inside, rfl, behind⟩, ?_⟩
    split
    next => exact List.forall_mem_singleton.mpr ⟨inside, rfl, behind⟩
    next => exact List.forall_mem_nil _
  next =>
    rw [processor.lines_of_le (Nat.le_of_not_lt inside)]
    exact List.forall_mem_nil _

end Processor

namespace Machine

def lines (machine : Machine) : Action → List Event
  | .step => machine.processor.lines
  | _ => []

def reports (machine : Machine) : Action → List String
  | .step => machine.processor.report
  | _ => []

def fetchedWords (machine : Machine) : Action → List Word
  | .step => machine.processor.fetchedWord?.toList
  | _ => []

theorem writes_of_runs (machine : Machine) {action : Action} (runs : action.runs = true) :
    machine.writes action = machine.lines action := by
  cases action with
  | step => exact machine.processor.journal_step_eq_lines
  | takeFrame => rfl
  | tick => rfl
  | tickClock role => rfl
  | _ => cases runs

theorem memory_act_of_runs (machine : Machine) {action : Action} (runs : action.runs = true) :
    (machine.act action).processor.memory = machine.processor.memory := by
  cases action with
  | step => exact machine.processor.memory_step
  | takeFrame => rfl
  | tick => rfl
  | tickClock role => rfl
  | _ => cases runs

theorem map_line_lines (machine : Machine) (action : Action) :
    (machine.lines action).map Event.line = machine.reports action := by
  cases action with
  | step => exact machine.processor.map_line_lines
  | _ => rfl

theorem traced_lines (machine : Machine) (action : Action) :
    (machine.lines action).filterMap Event.traced? = machine.fetchedWords action := by
  cases action with
  | step => exact machine.processor.traced_lines
  | _ => rfl

theorem cites_of_mem_lines (machine : Machine) (action : Action) :
    ∀ event ∈ machine.lines action, ∃ place, place + 1 < memorySize ∧
      event.Cites machine.processor.memory place := by
  cases action with
  | step =>
    intro event member
    exact ⟨machine.processor.counter.toNat, machine.processor.cites_of_mem_lines event member⟩
  | _ => exact List.forall_mem_nil _

-- The memory that a log cites is that of the start, as nothing in a run writes it.
theorem cites_of_mem_gather (machine : Machine) (actions : List Action)
    (running : ∀ action ∈ actions, action.runs = true) :
    ∀ event ∈ machine.gather lines actions, ∃ place, place + 1 < memorySize ∧
      event.Cites machine.processor.memory place := by
  induction actions generalizing machine with
  | nil => exact List.forall_mem_nil _
  | cons action rest ih =>
    obtain ⟨runs, others⟩ := List.forall_mem_cons.mp running
    have later := ih (machine.act action) others
    rw [machine.memory_act_of_runs runs] at later
    exact List.forall_mem_append.mpr ⟨machine.cites_of_mem_lines action, later⟩

/--
The log of a run replays it: it is what every step has to tell, one after another, and
faults do not end it. There is a line of the trace for every word that was fetched, also
where executing it failed, and for no other. Each line is told by the caller, and its
word stands in memory, and so in the program, two addresses before the counter that the
line gives.
-/
theorem log_replays_run (machine : Machine) (actions : List Action)
    (running : ∀ action ∈ actions, action.runs = true) :
    let log := machine.gather writes actions
    let memory := machine.processor.memory
    (log = machine.gather lines actions ∧ log.map Event.line = machine.gather reports actions) ∧
      (log.filterMap Event.traced? = machine.gather fetchedWords actions ∧
        log.countP (fun event => event.level = .trace) =
          (machine.gather fetchedWords actions).length) ∧
      ∀ event ∈ log,
        (event.byClock = false ∧ (event.level = .trace ∨ event.level = .warn)) ∧
          ∃ place, place + 1 < memorySize ∧ event.Cites memory place ∧
            ∀ program offset, memory = .image program → place = programStart + offset →
              memory.wordAt place =
                Word.ofBytes (program.getD offset 0) (program.getD (offset + 1) 0) := by
  intro log memory
  have replays : log = machine.gather lines actions :=
    machine.gather_congr actions fun later action member =>
      later.writes_of_runs (running action member)
  have texts : log.map Event.line = machine.gather reports actions := by
    rw [replays, ← List.filterMap_eq_map, filterMap_gather]
    refine machine.gather_congr actions fun later action _ => ?_
    rw [List.filterMap_eq_map]
    exact later.map_line_lines action
  have traces : log.filterMap Event.traced? = machine.gather fetchedWords actions := by
    rw [replays, filterMap_gather]
    exact machine.gather_congr actions fun later action _ => later.traced_lines action
  refine ⟨⟨replays, texts⟩, ⟨traces, ?_⟩, fun event member => ?_⟩
  · rw [Event.countP_trace, traces]
  · rw [replays] at member
    obtain ⟨place, inside, cites⟩ := machine.cites_of_mem_gather actions running event member
    refine ⟨cites.told, place, inside, cites, fun program offset held behind => ?_⟩
    rw [behind] at inside
    rw [held, behind, Memory.wordAt_program program offset inside]

theorem log_replays_run_return :
    let machine : Machine :=
      { processor :=
          { Processor.fresh .skip (Random.cycle 0 []) with
            memory := .image [0x31, 0x11, 0x00, 0xEE] }
        settings := .standard }
    machine.gather writes [.step, .tick, .step] =
        [.executing 0x3111 .zero 0 0x202, .skipped 0x3111 0x202,
          .executing 0x00EE .zero 0 0x204] ∧
      ((machine.act .step).act .tick).step.answer = .error .emptyCallStack := by
  intro machine
  have first : machine.processor.wordAtCounter = 0x3111 :=
    machine.processor.wordAtCounter_of_image 0 rfl rfl (by decide)
  have unknown : machine.processor.FindsNone :=
    machine.processor.findsNone_of_image 0 rfl rfl (by decide) (by decide)
  have moved : (machine.act .step).processor = machine.processor.fetched :=
    machine.processor_act_step.trans (machine.processor.state_step_of_findsNone unknown)
  let later : Processor :=
    { machine.processor.fetched with timers := machine.processor.fetched.timers.tickBoth.1 }
  have ticked : ((machine.act .step).act .tick).processor = later := by
    rw [processor_act_tick, moved]
  have told (machine : Machine) : machine.gather lines [.step, .tick, .step] =
      machine.processor.lines ++ ((machine.act .step).act .tick).processor.lines := by
    simp only [gather, lines, List.nil_append, List.append_nil]
  have second : later.wordAtCounter = 0x00EE :=
    later.wordAtCounter_of_image 2 rfl rfl (by decide)
  have returns : later.Executes .ret :=
    later.executes_of_image 2 rfl rfl (by decide) (by decide)
  obtain ⟨⟨replays, -⟩, -⟩ := machine.log_replays_run [.step, .tick, .step] (by decide)
  constructor
  · rw [replays, told, ticked, machine.processor.lines_of_lt unknown.1, first,
      later.lines_of_lt returns.1, second]
    rfl
  · rw [answer_step, ticked]
    exact later.answer_step_of_ret_nil returns rfl

end Machine

end Chip8
