import Chip8.Proofs.Machine.Pacing
import Chip8.Session.Basic

set_option autoImplicit false

namespace Chip8

theorem Input.any_ends_iff (inputs : List Input) :
    inputs.any ends = true ↔ quit ∈ inputs ∨ keyDown .escape ∈ inputs := by
  rw [List.any_eq_true]
  constructor
  · rintro ⟨input, member, leaves⟩
    cases input with
    | quit => exact .inl member
    | keyDown key =>
      rw [ends, decide_eq_true_iff] at leaves
      subst leaves
      exact .inr member
    | keyUp key => cases leaves
  · rintro (member | member)
    · exact ⟨quit, member, rfl⟩
    · exact ⟨keyDown .escape, member, rfl⟩

namespace Session

variable {windowing : Windowing}

structure Shows (session : Session windowing) (machine : Machine) : Prop where
  clocked : session.machine.Clocked
  same : session.machine.processor.unmarked = machine.processor.unmarked

theorem machine_redraw (session : Session windowing) :
    session.redraw.1.machine = session.machine.takeFrame.2 := by
  simp only [redraw]
  -- Whether there is a frame, and then whether it can be shown.
  split
  next => rfl
  next =>
    split
    next => rfl
    next => rfl

theorem redraw_shows (session : Session windowing) (machine : Machine)
    (shows : session.Shows machine) : session.redraw.1.Shows machine := by
  obtain ⟨⟨period, sound, ticks, lasts, clocks⟩, same⟩ := shows
  have polled := session.machine_redraw
  exact { clocked := .both period sound ticks lasts (polled ▸ clocks), same := polled ▸ same }

theorem prepare_shows (session : Session windowing) (machine : Machine) (turn : Turn)
    (shows : session.Shows machine) :
    (session.prepare turn).1.Shows (machine.tickTimers turn.ticks) := by
  obtain ⟨clocked, same⟩ :=
    session.machine.tickClocks_of_clocked machine turn.ticks shows.clocked shows.same
  rw [prepare]
  split
  next => exact redraw_shows _ _ { clocked := clocked, same := same }
  next => exact { clocked := clocked, same := same }

theorem redraw_of_unwritten (session : Session windowing)
    (unwritten : session.machine.processor.display.written = false) :
    session.redraw.2 = none := by
  simp only [redraw, session.machine.takeFrame_of_unwritten unwritten]

theorem prepare_of_unwritten (session : Session windowing) (turn : Turn)
    (unwritten : session.machine.processor.display.written = false) :
    (session.prepare turn).2 = none := by
  rw [prepare]
  split
  next =>
    apply redraw_of_unwritten
    rw [Machine.display_tickClocks]
    exact unwritten
  next => rfl

theorem refuses_of_prepare (session : Session windowing) (turn : Turn) (reason : String)
    (broken : (session.prepare turn).2 = some reason) : windowing.Refuses reason := by
  rw [prepare] at broken
  split at broken
  next =>
    simp only [redraw] at broken
    split at broken
    next => cases broken
    next frame found =>
      split at broken
      next cause stopped =>
        cases broken
        exact Windowing.refuses_of_render _ frame reason stopped
      next => cases broken
  next => cases broken

section Turns

variable (session : Session windowing) (turn : Turn)

theorem turn_of_broken (reason : String) (broken : (session.prepare turn).2 = some reason) :
    session.turn turn =
      { state := (session.prepare turn).1
        answer := some (.unshown reason)
        journal := [] } := by
  rw [Session.turn]
  generalize session.prepare turn = prepared at broken ⊢
  obtain ⟨prepared, refusal⟩ := prepared
  change refusal = some reason at broken
  subst broken
  rfl

theorem turn_of_shown (shown : (session.prepare turn).2 = none) :
    session.turn turn =
      if turn.inputs.any Input.ends then
        { state := (session.prepare turn).1, answer := some .left, journal := [] }
      else
        let step := (session.prepare turn).1.machine.step
        { state := { (session.prepare turn).1 with machine := step.state }
          answer :=
            match step.answer with
            | .ok _ => none
            | .error fault => some (.failed fault)
          journal := step.journal } := by
  rw [Session.turn]
  generalize session.prepare turn = prepared at shown ⊢
  obtain ⟨prepared, refusal⟩ := prepared
  change refusal = none at shown
  subst shown
  rfl

theorem turn_of_staying (machine : Machine) (shows : session.Shows machine)
    (shown : (session.prepare turn).2 = none) (stays : turn.inputs.any Input.ends = false) :
    let step := (machine.tickTimers turn.ticks).step
    (session.turn turn).state.Shows step.state ∧
      (session.turn turn).journal = step.journal ∧
        (session.turn turn).answer =
          match step.answer with
          | .ok _ => none
          | .error fault => some (.failed fault) := by
  intro step
  have prepared := session.prepare_shows machine turn shows
  obtain ⟨answers, journals, states⟩ := Processor.step_congr_unmarked prepared.same
  obtain ⟨⟨period, sound, ticks, lasts, clocks⟩, -⟩ := prepared
  have taken : session.turn turn =
      { state :=
          { (session.prepare turn).1 with
            machine := (session.prepare turn).1.machine.step.state }
        answer :=
          match (session.prepare turn).1.machine.step.answer with
          | .ok _ => none
          | .error fault => some (.failed fault)
        journal := (session.prepare turn).1.machine.step.journal } := by
    rw [session.turn_of_shown turn shown, stays]
    rfl
  have answered : (session.prepare turn).1.machine.step.answer = step.answer := answers
  rw [taken, answered]
  exact ⟨{ clocked := .both period sound ticks lasts clocks, same := states }, journals, rfl⟩

end Turns

theorem play_of_leaving (session : Session windowing) (schedule : Nat → Turn) (first more : Nat)
    (shown : (session.prepare (schedule first)).2 = none)
    (leaves : (schedule first).inputs.any Input.ends = true) :
    session.play schedule first (more + 1) =
      { state := (session.prepare (schedule first)).1, answer := some .left, journal := [] } := by
  rw [play, session.turn_of_shown (schedule first) shown, leaves]
  rfl

def ticksOf (schedule : Nat → Turn) (turn : Nat) : List TimerRole := (schedule turn).ticks

inductive Played (machine : Machine) (ticks : Nat → List TimerRole) (first count : Nat)
    (played : Outcome (Session windowing) (Option Ending)) : Prop where
  | goesOn (running : played.answer = none)
      (done : ∀ earlier < first + count, (machine.attempt ticks earlier).answer = .ok ())
  | fails (steps : Nat) (fault : Fault) (fails : machine.FailsAfter ticks steps fault)
      (ended : played.answer = some (.failed fault))
      (journal : machine.stepsJournal ticks first ++ played.journal =
        machine.stepsJournal ticks (steps + 1))
      (clocked : played.state.machine.Clocked)
  | breaks (steps : Nat) (reason : String) (refuses : windowing.Refuses reason)
      (done : ∀ earlier < steps, (machine.attempt ticks earlier).answer = .ok ())
      (ended : played.answer = some (.unshown reason))
      (journal : machine.stepsJournal ticks first ++ played.journal =
        machine.stepsJournal ticks steps)
      (clocked : played.state.machine.Clocked)

theorem Played.behind {machine : Machine} {ticks : Nat → List TimerRole} {first count : Nat}
    {rest : Outcome (Session windowing) (Option Ending)} (journal : List Event)
    (told : machine.stepsJournal ticks (first + 1) = machine.stepsJournal ticks first ++ journal)
    (played : Played machine ticks (first + 1) count rest) :
    Played machine ticks first (count + 1) { rest with journal := journal ++ rest.journal } := by
  have later : machine.stepsJournal ticks first ++ (journal ++ rest.journal) =
      machine.stepsJournal ticks (first + 1) ++ rest.journal := by
    rw [told, List.append_assoc]
  cases played with
  | goesOn running done =>
    rw [Nat.succ_add_eq_add_succ] at done
    exact .goesOn running done
  | fails steps fault fails ended journalNext clocked =>
    exact .fails steps fault fails ended (later.trans journalNext) clocked
  | breaks steps reason refuses done ended journalNext clocked =>
    exact .breaks steps reason refuses done ended (later.trans journalNext) clocked

theorem play_of_shows (session : Session windowing) (machine : Machine) (schedule : Nat → Turn)
    (first count : Nat) (stays : ∀ turn, (schedule turn).inputs.any Input.ends = false)
    (shows : session.Shows (machine.stepped (ticksOf schedule) first))
    (done : ∀ earlier < first,
      (machine.attempt (ticksOf schedule) earlier).answer = .ok ()) :
    Played machine (ticksOf schedule) first count
      (session.play schedule first count) := by
  -- The steps behind are those of the machine; the session only has to show where they led.
  induction count generalizing session first with
  | zero => exact .goesOn rfl done
  | succ count ih =>
    rw [play]
    cases shown : (session.prepare (schedule first)).2 with
    | some reason =>
      rw [session.turn_of_broken (schedule first) reason shown]
      have clocked := (session.prepare_shows _ (schedule first) shows).clocked
      exact .breaks first reason (session.refuses_of_prepare (schedule first) reason shown) done
        rfl (List.append_nil _) clocked
    | none =>
      obtain ⟨showsNext, journal, answer⟩ :=
        session.turn_of_staying (schedule first) _ shows shown (stays first)
      change (session.turn (schedule first)).journal =
        (machine.attempt (ticksOf schedule) first).journal at journal
      change (session.turn (schedule first)).answer =
        match (machine.attempt (ticksOf schedule) first).answer with
        | .ok _ => none
        | .error fault => some (.failed fault) at answer
      have told : machine.stepsJournal (ticksOf schedule) (first + 1) =
          machine.stepsJournal (ticksOf schedule) first ++
            (session.turn (schedule first)).journal := by
        rw [Machine.stepsJournal, journal]
      cases attempted : (machine.attempt (ticksOf schedule) first).answer with
      | error fault =>
        rw [attempted] at answer
        rw [answer]
        exact .fails first fault { before := done, failed := attempted } rfl told.symm
          showsNext.clocked
      | ok _ =>
        rw [attempted] at answer
        rw [answer]
        have doneNext := Nat.forall_lt_succ_right.mpr ⟨done, attempted⟩
        exact .behind _ told (ih (session.turn (schedule first)).state (first + 1) showsNext doneNext)

end Session

end Chip8
