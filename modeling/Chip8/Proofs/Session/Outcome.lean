import Chip8.CommandLine.Program
import Chip8.Proofs.Machine.Contents
import Chip8.Proofs.Session.Turns

set_option autoImplicit false

namespace Chip8

/-- The schedule of a session for which some inputs wait at its start and none come later. -/
def queued (inputs : List Input) (ticks : Nat → List TimerRole) (redraws : Nat → Bool)
    (turn : Nat) : Turn :=
  { ticks := ticks turn
    redraws := redraws turn
    inputs := if turn = 0 then inputs else [] }

/-- What a caller has told itself, without what its clocks have told. -/
def callerLog (journal : List Event) : List Event := journal.filter fun event => !event.byClock

theorem callerLog_append (earlier later : List Event) :
    callerLog (earlier ++ later) = callerLog earlier ++ callerLog later :=
  List.filter_append earlier later

def Run.Ends (windowing : Windowing) (entropy : Entropy) (path : String) (file : Stream)
    (schedule : Nat → Turn) (result : Except RunError Unit) (log : List Event) : Prop :=
  ∃ bound run, Run.within bound windowing entropy path file schedule = some run ∧
    run.result = result ∧ callerLog run.journal = log

theorem queued_stays (inputs : List Input) (ticks : Nat → List TimerRole)
    (redraws : Nat → Bool) (stays : inputs.any Input.ends = false) (turn : Nat) :
    (queued inputs ticks redraws turn).inputs.any Input.ends = false := by
  rw [queued]
  split
  next => exact stays
  next => rfl

theorem Processor.callerLog_step (processor : Processor) :
    callerLog processor.step.journal = processor.step.journal := by
  apply List.filter_eq_self.mpr
  intro event member
  obtain rfl | rfl := processor.entry_or_skipped_of_mem_step event member
  next => rfl
  next => rfl

namespace Machine

theorem callerLog_stepsJournal (machine : Machine) (ticks : Nat → List TimerRole) (count : Nat) :
    callerLog (machine.stepsJournal ticks count) = machine.stepsJournal ticks count := by
  induction count with
  | zero => rfl
  | succ count ih =>
    rw [stepsJournal, callerLog_append, ih]
    exact congrArg _ (Processor.callerLog_step _)

theorem startTimers_bell (machine : Machine) (standard : machine.settings = .standard)
    (unclocked : machine.clocks = []) :
    (machine.startTimers .bell).state.Clocked ∧
      (machine.startTimers .bell).state.processor = machine.processor ∧
        callerLog (machine.startTimers .bell).journal = [] := by
  have period : Settings.standard.timerPeriod? = some 16666666 := by decide
  have started : machine.startTimers .bell =
      { state := { machine with clocks := [.delay 16666666, .sounding 16666666 .bell] }
        answer := ()
        journal := (Clock.delay 16666666).started ++
          (Clock.sounding 16666666 .bell).started } := by
    simp only [startTimers, standard, period, stopTimers, unclocked]
    rfl
  rw [started]
  exact ⟨.both 16666666 .bell (by decide) Sound.lasts_bell rfl, rfl, rfl⟩

theorem callerLog_stopTimers (machine : Machine) (clocked : machine.Clocked) :
    callerLog machine.stopTimers.journal = [] := by
  obtain ⟨period, sound, -, -, clocks⟩ := clocked
  have stops : machine.stopTimers.journal = (Clock.stopAll machine.clocks).journal := rfl
  rw [stops, clocks]
  rfl

end Machine

def loadLines (path : String) (size : Nat) : List Event :=
  [.programLoaded size, .fileLoaded path size]

namespace Session

section

variable (windowing : Windowing) (entropy : Entropy) (path : String) (file : Stream)

theorem start_of_error (error : LoadError)
    (failed : ((Machine.fresh .standard entropy).load file).answer = .error error) :
    start windowing entropy path file = (.error (.load error), []) := by
  have told : ((Machine.fresh .standard entropy).load file).journal = [] :=
    Memory.journal_loadStream_of_error _ file error failed
  simp only [start, failed, told]

theorem start_of_refused (size : Nat) (reason : String)
    (loads : ((Machine.fresh .standard entropy).load file).answer = .ok size)
    (refused : windowing.launch = .error reason) :
    start windowing entropy path file = (.error (.window reason), loadLines path size) := by
  have told : ((Machine.fresh .standard entropy).load file).journal = [.programLoaded size] :=
    Memory.journal_loadStream_of_ok _ file size loads
  simp only [start, loads, refused, told]
  rfl

structure Starts (size : Nat) (session : Session windowing) (journal : List Event) : Prop where
  opened : start windowing entropy path file = (.ok session, journal)
  shows : session.Shows ((Machine.fresh .standard entropy).load file).state
  unwritten : session.machine.processor.display.written = false
  told : callerLog journal = loadLines path size

theorem starts_of_ok (size : Nat) (window : windowing.Window)
    (loads : ((Machine.fresh .standard entropy).load file).answer = .ok size)
    (launched : windowing.launch = .ok window) :
    ∃ session journal, Starts windowing entropy path file size session journal := by
  let loaded := (Machine.fresh .standard entropy).load file
  let running := loaded.state.startTimers .bell
  obtain ⟨clocked, same, quiet⟩ := loaded.state.startTimers_bell rfl rfl
  have told : loaded.journal = [.programLoaded size] :=
    Memory.journal_loadStream_of_ok _ file size loads
  have unwritten : running.state.processor.display.written = false := by
    rw [same]
    rfl
  refine ⟨{ machine := running.state, window := window },
    loaded.journal ++ [.fileLoaded path size] ++ running.journal,
    { opened := ?_, shows := ?_, unwritten := unwritten, told := ?_ }⟩
  · simp only [start, loads, launched, running, loaded]
  · exact { clocked := clocked, same := congrArg Processor.unmarked same }
  · rw [told, callerLog_append, quiet]
    rfl

end

end Session

namespace Run

section

variable (windowing : Windowing) (entropy : Entropy) (path : String) (file : Stream)

theorem ends_iff_of_not_started (schedule : Nat → Turn) (error : RunError) (told : List Event)
    (refused : Session.start windowing entropy path file = (.error error, told))
    (result : Except RunError Unit) (log : List Event) :
    Ends windowing entropy path file schedule result log ↔
      result = .error error ∧ log = callerLog told := by
  constructor
  · rintro ⟨bound, run, ended, rfl, rfl⟩
    rw [within, refused] at ended
    cases ended
    exact ⟨rfl, rfl⟩
  · rintro ⟨rfl, rfl⟩
    refine ⟨0, { result := .error error, journal := told }, ?_, rfl, rfl⟩
    rw [within, refused]

theorem ends_iff_of_started (schedule : Nat → Turn) (session : Session windowing)
    (told : List Event) (opened : Session.start windowing entropy path file = (.ok session, told))
    (result : Except RunError Unit) (log : List Event) :
    Ends windowing entropy path file schedule result log ↔
      ∃ bound ending, (session.play schedule 0 bound).answer = some ending ∧
        ending.result = result ∧
          callerLog (told ++ (session.play schedule 0 bound).journal ++
            (session.play schedule 0 bound).state.close) = log := by
  simp only [Ends, within, opened]
  constructor
  · rintro ⟨bound, run, ended, rfl, rfl⟩
    obtain ⟨ending, answered, rfl⟩ := Option.map_eq_some_iff.mp ended
    exact ⟨bound, ending, answered, rfl, rfl⟩
  · rintro ⟨bound, ending, answered, rfl, rfl⟩
    let played := session.play schedule 0 bound
    let run : Run :=
      { result := ending.result, journal := told ++ played.journal ++ played.state.close }
    refine ⟨bound, run, ?_, rfl, rfl⟩
    rw [answered]
    rfl

variable (inputs : List Input) (ticks : Nat → List TimerRole) (redraws : Nat → Bool)

section Started

variable (size : Nat) (session : Session windowing) (journal : List Event)
  (starts : Session.Starts windowing entropy path file size session journal)
include starts

theorem ends_iff_of_leaving (leaves : inputs.any Input.ends = true)
    (result : Except RunError Unit) (log : List Event) :
    Ends windowing entropy path file (queued inputs ticks redraws) result log ↔
      result = .ok () ∧ log = loadLines path size := by
  let schedule := queued inputs ticks redraws
  -- Nothing is drawn yet, so the window system is not asked before the user leaves.
  have shown := session.prepare_of_unwritten (schedule 0) starts.unwritten
  have left (more : Nat) := session.play_of_leaving schedule 0 more shown leaves
  have clocked := (session.prepare_shows _ (schedule 0) starts.shows).clocked
  have quiet : callerLog (session.prepare (schedule 0)).1.close = [] :=
    Machine.callerLog_stopTimers _ clocked
  rw [ends_iff_of_started windowing entropy path file schedule session journal starts.opened]
  constructor
  · rintro ⟨bound, ending, answered, rfl, rfl⟩
    cases bound with
    | zero => cases answered
    | succ more =>
      rw [left more] at answered ⊢
      cases answered
      rw [callerLog_append, callerLog_append, starts.told, quiet]
      exact ⟨rfl, rfl⟩
  · rintro ⟨rfl, rfl⟩
    refine ⟨1, .left, ?_, rfl, ?_⟩
    · rw [left 0]
    · rw [left 0, callerLog_append, callerLog_append, starts.told, quiet]
      rfl

theorem callerLog_played (bound steps : Nat)
    (told : (session.play (queued inputs ticks redraws) 0 bound).journal =
      ((Machine.fresh .standard entropy).load file).state.stepsJournal ticks steps)
    (clocked : (session.play (queued inputs ticks redraws) 0 bound).state.machine.Clocked) :
    callerLog (journal ++ (session.play (queued inputs ticks redraws) 0 bound).journal ++
        (session.play (queued inputs ticks redraws) 0 bound).state.close) =
      loadLines path size ++
        ((Machine.fresh .standard entropy).load file).state.stepsJournal ticks steps := by
  rw [callerLog_append, callerLog_append, starts.told, told, Machine.callerLog_stepsJournal,
    Session.close, Machine.callerLog_stopTimers _ clocked, List.append_nil]

theorem fault_or_refusal_of_started (stays : inputs.any Input.ends = false)
    (result : Except RunError Unit) (log : List Event)
    (ends : Ends windowing entropy path file (queued inputs ticks redraws) result log) :
    let machine := ((Machine.fresh .standard entropy).load file).state
    (∃ steps fault, machine.FailsAfter ticks steps fault ∧ result = .error (.fault fault) ∧
        log = loadLines path size ++ machine.stepsJournal ticks (steps + 1)) ∨
      ∃ steps reason, windowing.Refuses reason ∧
        (∀ earlier < steps, (machine.attempt ticks earlier).answer = .ok ()) ∧
          result = .error (.window reason) ∧
            log = loadLines path size ++ machine.stepsJournal ticks steps := by
  intro machine
  rw [ends_iff_of_started windowing entropy path file _ session journal starts.opened] at ends
  obtain ⟨bound, ending, answered, rfl, rfl⟩ := ends
  have logged := callerLog_played windowing entropy path file inputs ticks redraws size session
    journal starts bound
  cases session.play_of_shows machine (queued inputs ticks redraws) 0 bound
    (queued_stays inputs ticks redraws stays) starts.shows nofun with
  | goesOn running done =>
    rw [running] at answered
    cases answered
  | fails steps fault fails ended told clocked =>
    rw [ended] at answered
    cases answered
    exact .inl ⟨steps, fault, fails, rfl, logged (steps + 1) told clocked⟩
  | breaks steps reason refuses done ended told clocked =>
    rw [ended] at answered
    cases answered
    exact .inr ⟨steps, reason, refuses, done, rfl, logged steps told clocked⟩

theorem ends_iff_of_staying (works : windowing.Works) (stays : inputs.any Input.ends = false)
    (result : Except RunError Unit) (log : List Event) :
    let machine := ((Machine.fresh .standard entropy).load file).state
    Ends windowing entropy path file (queued inputs ticks redraws) result log ↔
      ∃ steps fault, machine.FailsAfter ticks steps fault ∧ result = .error (.fault fault) ∧
        log = loadLines path size ++ machine.stepsJournal ticks (steps + 1) := by
  intro machine
  constructor
  · intro ends
    obtain fault | ⟨steps, reason, refuses, -⟩ := fault_or_refusal_of_started windowing entropy
      path file inputs ticks redraws size session journal starts stays result log ends
    · exact fault
    · exact absurd refuses (works.not_refuses reason)
  · rintro ⟨steps, fault, fails, rfl, rfl⟩
    rw [ends_iff_of_started windowing entropy path file _ session journal starts.opened]
    -- One turn more is enough: if none of them failed, the failing step would have succeeded.
    cases session.play_of_shows machine (queued inputs ticks redraws) 0 (steps + 1)
      (queued_stays inputs ticks redraws stays) starts.shows nofun with
    | goesOn running done =>
      have succeeds : (machine.attempt ticks steps).answer = .ok () := done steps (by omega)
      rw [fails.failed] at succeeds
      cases succeeds
    | fails others other failsToo ended told clocked =>
      obtain ⟨rfl, rfl⟩ := fails.unique failsToo
      exact ⟨steps + 1, .failed fault, ended, rfl, callerLog_played windowing entropy path file
        inputs ticks redraws size session journal starts (steps + 1) (steps + 1) told clocked⟩
    | breaks others reason refuses => exact absurd refuses (works.not_refuses reason)

end Started

theorem fault_or_refusal_of_staying (size : Nat)
    (loads : ((Machine.fresh .standard entropy).load file).answer = .ok size)
    (stays : inputs.any Input.ends = false) (result : Except RunError Unit) (log : List Event)
    (ends : Ends windowing entropy path file (queued inputs ticks redraws) result log) :
    let machine := ((Machine.fresh .standard entropy).load file).state
    (∃ steps fault, machine.FailsAfter ticks steps fault ∧ result = .error (.fault fault) ∧
        log = loadLines path size ++ machine.stepsJournal ticks (steps + 1)) ∨
      ∃ steps reason, windowing.Refuses reason ∧
        (∀ earlier < steps, (machine.attempt ticks earlier).answer = .ok ()) ∧
          result = .error (.window reason) ∧
            log = loadLines path size ++ machine.stepsJournal ticks steps := by
  intro machine
  cases launched : windowing.launch with
  | error reason =>
    have refused := Session.start_of_refused windowing entropy path file size reason loads launched
    obtain ⟨failed, told⟩ :=
      (ends_iff_of_not_started windowing entropy path file _ _ _ refused result log).mp ends
    exact .inr ⟨0, reason, .inl launched, nofun, failed, told⟩
  | ok window =>
    obtain ⟨session, journal, starts⟩ :=
      Session.starts_of_ok windowing entropy path file size window loads launched
    exact fault_or_refusal_of_started windowing entropy path file inputs ticks redraws size session
      journal starts stays result log ends

theorem error_of_staying (stays : inputs.any Input.ends = false)
    (result : Except RunError Unit) (log : List Event)
    (ends : Ends windowing entropy path file (queued inputs ticks redraws) result log) :
    ∃ error, result = .error error := by
  cases loads : ((Machine.fresh .standard entropy).load file).answer with
  | error error =>
    have refused := Session.start_of_error windowing entropy path file error loads
    exact ⟨_, ((ends_iff_of_not_started windowing entropy path file _ _ _ refused
      result log).mp ends).1⟩
  | ok size =>
    obtain ⟨-, fault, -, failed, -⟩ | ⟨-, reason, -, -, failed, -⟩ :=
      fault_or_refusal_of_staying windowing entropy path file inputs ticks redraws size loads stays
        result log ends
    · exact ⟨.fault fault, failed⟩
    · exact ⟨.window reason, failed⟩

theorem status_of_run (bound : Nat) (parse : List String → Invocation) (read : String → Stream)
    (arguments : List String) (exit : Exit) (parsed : parse arguments = .run path)
    (exits : Exit.within bound windowing entropy parse read arguments
      (queued [] ticks redraws) = some exit) : exit.status = 1 := by
  rw [Exit.within, parsed] at exits
  obtain ⟨run, ended, rfl⟩ := Option.map_eq_some_iff.mp exits
  obtain ⟨error, failed⟩ := error_of_staying windowing entropy path (read path) [] ticks redraws
    rfl run.result (callerLog run.journal) ⟨bound, run, ended, rfl, rfl⟩
  rw [Exit.ofRun, failed]

end

/--
How a run ends for inputs that wait at its start, whatever its file gives to read. A
load that fails is its only error, and starts no session; nor does a window system
that does not come up. Otherwise the user may leave, before any step; the run then
ends well, whatever the program is. If the user stays and the window system works,
the run ends just as the steps of the loaded machine first fail, and tells what those
steps tell; if the window system does not, the run may end earlier with its reason.
So the command line never exits with 0 once it has a path.
-/
theorem ends_iff (windowing : Windowing) (entropy : Entropy) (path : String) (file : Stream)
    (inputs : List Input) (ticks : Nat → List TimerRole) (redraws : Nat → Bool) :
    let loaded := (Machine.fresh .standard entropy).load file
    let schedule := queued inputs ticks redraws
    let ends := Ends windowing entropy path file schedule
    let leaves := Input.quit ∈ inputs ∨ Input.keyDown .escape ∈ inputs
    (∀ error, loaded.answer = .error error →
        Session.start windowing entropy path file = (.error (.load error), []) ∧
          ∀ result log, ends result log ↔ result = .error (.load error) ∧ log = []) ∧
      (∀ size reason, loaded.answer = .ok size → windowing.launch = .error reason →
        Session.start windowing entropy path file =
            (.error (.window reason), loadLines path size) ∧
          ∀ result log, ends result log ↔
            result = .error (.window reason) ∧ log = loadLines path size) ∧
      (∀ size window, loaded.answer = .ok size → windowing.launch = .ok window → leaves →
        (∃ session journal,
          Session.start windowing entropy path file = (.ok session, journal) ∧
            ∀ more,
              let played := session.play schedule 0 (more + 1)
              played.answer = some .left ∧ played.journal = [] ∧
                played.state.machine.processor.unmarked =
                  (loaded.state.tickTimers (ticks 0)).processor.unmarked) ∧
          ∀ result log, ends result log ↔ result = .ok () ∧ log = loadLines path size) ∧
      (∀ size, loaded.answer = .ok size → ¬ leaves →
        (windowing.Works →
          ∀ result log, ends result log ↔
            ∃ steps fault, loaded.state.FailsAfter ticks steps fault ∧
              result = .error (.fault fault) ∧
                log = loadLines path size ++ loaded.state.stepsJournal ticks (steps + 1)) ∧
          ∀ result log, ends result log →
            (∃ steps fault, loaded.state.FailsAfter ticks steps fault ∧
                result = .error (.fault fault) ∧
                  log = loadLines path size ++ loaded.state.stepsJournal ticks (steps + 1)) ∨
              ∃ steps reason, windowing.Refuses reason ∧
                (∀ earlier < steps, (loaded.state.attempt ticks earlier).answer = .ok ()) ∧
                  result = .error (.window reason) ∧
                    log = loadLines path size ++ loaded.state.stepsJournal ticks steps) ∧
      ∀ (parse : List String → Invocation) (read : String → Stream) arguments bound exit,
        parse arguments = .run path →
          Exit.within bound windowing entropy parse read arguments (queued [] ticks redraws) =
              some exit →
            exit.status = 1 := by
  intro loaded schedule ends leaves
  refine ⟨fun error failed => ?_, fun size reason loads refused => ?_,
    fun size window loads launched left => ?_, fun size loads stayed => ⟨fun works => ?_, ?_⟩, ?_⟩
  · have refused := Session.start_of_error windowing entropy path file error failed
    exact ⟨refused, ends_iff_of_not_started windowing entropy path file schedule _ _ refused⟩
  · have stopped :=
      Session.start_of_refused windowing entropy path file size reason loads refused
    exact ⟨stopped, ends_iff_of_not_started windowing entropy path file schedule _ _ stopped⟩
  · obtain ⟨session, journal, starts⟩ :=
      Session.starts_of_ok windowing entropy path file size window loads launched
    have any : inputs.any Input.ends = true := (Input.any_ends_iff inputs).mpr left
    refine ⟨⟨session, journal, starts.opened, fun more => ?_⟩, ?_⟩
    · have shown := session.prepare_of_unwritten (schedule 0) starts.unwritten
      rw [session.play_of_leaving schedule 0 more shown any]
      exact ⟨rfl, rfl, (session.prepare_shows _ (schedule 0) starts.shows).same⟩
    · exact ends_iff_of_leaving windowing entropy path file inputs ticks redraws size session
        journal starts any
  · obtain ⟨window, launched⟩ := works.launches
    obtain ⟨session, journal, starts⟩ :=
      Session.starts_of_ok windowing entropy path file size window loads launched
    have none : inputs.any Input.ends = false :=
      Bool.eq_false_iff.mpr fun any => stayed ((Input.any_ends_iff inputs).mp any)
    exact ends_iff_of_staying windowing entropy path file inputs ticks redraws size session journal
      starts works none
  · have none : inputs.any Input.ends = false :=
      Bool.eq_false_iff.mpr fun any => stayed ((Input.any_ends_iff inputs).mp any)
    exact fault_or_refusal_of_staying windowing entropy path file inputs ticks redraws size loads
      none
  · intro parse read arguments bound exit
    exact status_of_run windowing entropy path ticks redraws bound parse read arguments exit

theorem ends_iff_returnFirst :
    let file : Stream := [.data [0x00], .data [0xEE]]
    let absent : Stream := [.failure (.path .noEntry)]
    let entropy := Entropy.constant 0
    let blind : Windowing := { Windowing.inMemory with prepare := .error "no video" }
    let ends := Ends .inMemory entropy "rom"
    let waits (inputs : List Input) := queued inputs (fun _ => []) fun _ => true
    ends file (waits [.keyUp .escape, .quit]) (.ok ()) (loadLines "rom" 2) ∧
      ends file (waits [.keyUp .escape]) (.error (.fault .emptyCallStack))
        (loadLines "rom" 2 ++ [.executing 0x00EE .zero 0 0x202]) ∧
      ends absent (waits [.quit]) (.error (.load (.unreadable (.path .noEntry)))) [] ∧
      Ends blind entropy "rom" file (waits [.quit]) (.error (.window "no video"))
        (loadLines "rom" 2) ∧
      ∃ bound exit,
        Exit.within bound .inMemory entropy Invocation.ofArguments (fun _ => file) ["rom"]
            (waits []) = some exit ∧
          exit.status = 1 := by
  intro file absent entropy blind ends waits
  let machine := Machine.fresh .standard entropy
  have written := Memory.loadStream_of_fits [] [0x00, 0xEE] file rfl (by decide)
  rw [← Memory.fresh_eq_image] at written
  have loaded := machine.load_of_loadStream file written
  have loads : (machine.load file).answer = .ok 2 := congrArg Outcome.answer loaded
  let ready : Processor :=
    { Processor.fresh .skip entropy.unseeded with memory := .image [0x00, 0xEE] }
  have processor : (machine.load file).state.processor = ready := by
    rw [loaded]
    rfl
  have executes : (machine.load file).state.processor.Executes .ret := by
    rw [processor]
    exact ready.executes_of_image 0 rfl rfl (by decide) (by decide)
  obtain ⟨fails, tells⟩ := (machine.load file).state.failsAfter_of_return
    (fun _ => []) rfl executes (congrArg Processor.calls processor)
  have journal : (machine.load file).state.stepsJournal (fun _ => []) 1 =
      [.executing 0x00EE .zero 0 0x202] := by
    rw [tells, processor, ready.wordAtCounter_of_image 0 rfl rfl (by decide)]
    decide
  have refused : (machine.load absent).answer = .error (.unreadable (.path .noEntry)) :=
    congrArg Outcome.answer (machine.load_of_loadStream absent
      (Memory.fresh.loadStream_of_unreadable _ (.path .noEntry) rfl))
  obtain ⟨-, -, leaving, -⟩ :=
    ends_iff .inMemory entropy "rom" file [.keyUp .escape, .quit] (fun _ => []) fun _ => true
  obtain ⟨-, -, -, staying, -⟩ :=
    ends_iff .inMemory entropy "rom" file [.keyUp .escape] (fun _ => []) fun _ => true
  obtain ⟨failing, -⟩ :=
    ends_iff .inMemory entropy "rom" absent [.quit] (fun _ => []) fun _ => true
  obtain ⟨-, unseen, -⟩ := ends_iff blind entropy "rom" file [.quit] (fun _ => []) fun _ => true
  obtain ⟨-, -, -, alone, status⟩ :=
    ends_iff .inMemory entropy "rom" file [] (fun _ => []) fun _ => true
  refine ⟨((leaving 2 .black loads rfl (by decide)).2 _ _).mpr ⟨rfl, rfl⟩, ?_, ?_, ?_, ?_⟩
  · exact ((staying 2 loads (by decide)).1 Windowing.inMemory_works _ _).mpr
      ⟨0, _, fails, rfl, congrArg _ journal.symm⟩
  · exact ((failing _ refused).2 _ _).mpr ⟨rfl, rfl⟩
  · exact ((unseen 2 "no video" loads rfl).2 _ _).mpr ⟨rfl, rfl⟩
  · obtain ⟨bound, run, ended, -⟩ :=
      ((alone 2 loads (by decide)).1 Windowing.inMemory_works _ _).mpr
        ⟨0, _, fails, rfl, congrArg _ journal.symm⟩
    have parsed : Invocation.ofArguments ["rom"] = .run "rom" := by decide
    have exits : Exit.within bound .inMemory entropy Invocation.ofArguments (fun _ => file)
        ["rom"] (waits []) = some (Exit.ofRun run) := by
      rw [Exit.within, parsed]
      exact congrArg (Option.map Exit.ofRun) ended
    exact ⟨bound, _, exits, status Invocation.ofArguments _ ["rom"] bound _ parsed exits⟩

end Run

end Chip8
