import Chip8.Proofs.Machine.Contents
import Chip8.Proofs.Processor.Painting
import Chip8.Proofs.Screen.Marks

set_option autoImplicit false

namespace Chip8.Machine

def handed (machine : Machine) : Action → List Frame
  | .takeFrame => machine.takeFrame.1.toList
  | _ => []

def framesTaken (machine : Machine) : List Action → List Frame
  | [] => []
  | action :: rest => machine.handed action ++ (machine.act action).framesTaken rest

/-- In a history, a step has painted since the last poll. -/
def PaintedSince (machine : Machine) (actions : List Action) : Prop :=
  Since (fun earlier action => action = .step ∧ (machine.actAll earlier).processor.Paints)
    (· = .takeFrame) actions

theorem framesTaken_append (machine : Machine) (actions others : List Action) :
    machine.framesTaken (actions ++ others) =
      machine.framesTaken actions ++ (machine.actAll actions).framesTaken others := by
  induction actions generalizing machine with
  | nil => rfl
  | cons action rest ih =>
    rw [List.cons_append, framesTaken, framesTaken, ih, List.append_assoc]
    rfl

theorem display_act_of_idle (machine : Machine) (action : Action) (polls : action ≠ .takeFrame)
    (idle : ¬ (action = .step ∧ machine.processor.Paints)) :
    (machine.act action).processor.display = machine.processor.display := by
  cases action with
  | step =>
    rw [processor_act_step]
    exact machine.processor.display_step_of_not_paints fun paints => idle ⟨rfl, paints⟩
  | takeFrame => exact absurd rfl polls
  | startTimers sound => rw [act, processor_startTimers]
  | _ => rfl

@[simp]
theorem takeFrame_isSome (machine : Machine) :
    machine.takeFrame.1.isSome = machine.processor.display.written := by
  cases mark : machine.processor.display.written with
  | true => rw [machine.takeFrame_of_written mark, Option.isSome_some]
  | false => rw [machine.takeFrame_of_unwritten mark, Option.isSome_none]

theorem eq_of_takeFrame_eq_some (machine : Machine) (frame : Frame)
    (given : machine.takeFrame.1 = some frame) : frame = machine.processor.display.frame := by
  have written : machine.processor.display.written = true := by
    rw [← takeFrame_isSome, given, Option.isSome_some]
  exact Option.some.inj (given.symm.trans (machine.takeFrame_of_written written))

theorem getLastD_handed (machine : Machine) (earlier : List Frame) {Changed : Prop}
    (tracks : machine.processor.display.Tracks Changed (earlier.getLastD .blank)) :
    (earlier ++ machine.handed .takeFrame).getLastD .blank =
      machine.processor.display.frame := by
  cases mark : machine.processor.display.written with
  | true => simp [handed, machine.takeFrame_of_written mark]
  | false =>
    rw [handed, machine.takeFrame_of_unwritten mark, Option.toList_none, List.append_nil]
    exact (tracks.same mark).symm

theorem tracks_actAll_fresh (settings : Settings) (entropy : Entropy) (actions : List Action) :
    let start := Machine.fresh settings entropy
    (start.actAll actions).processor.display.Tracks (start.PaintedSince actions)
      ((start.framesTaken actions).getLastD .blank) := by
  intro start
  -- By the last action: whether something was painted since a poll is seen from the end.
  induction actions using List.reverseRecOn with
  | nil => exact Display.tracks_new not_since_nil
  | append_singleton earlier action ih =>
    have handed : (start.actAll earlier).framesTaken [action] =
      (start.actAll earlier).handed action := List.append_nil _
    rw [PaintedSince, since_concat, actAll_append, framesTaken_append, handed]
    refine ih.follow ?_ ?_ ?_ ?_
    · rintro rfl
      exact ⟨rfl, getLastD_handed _ _ ih⟩
    · intro stays
      have none : (start.actAll earlier).handed action = [] := by
        cases action with
        | takeFrame => exact absurd rfl stays
        | _ => rfl
      rw [none, List.append_nil]
    · rintro ⟨rfl, paints⟩
      exact ⟨nofun, Processor.written_step_of_paints _ paints⟩
    · intro idle stays
      exact display_act_of_idle _ action stays idle

/--
In every history of a new machine a poll hands out a frame exactly if a step has
painted since the last poll. The frame is the picture of that moment, and without
a frame the picture is still the last one handed out. A display by itself keeps
its mark in the same way, and a cell outside the screen cannot be written.
-/
theorem takeFrame_isSome_iff_painted (settings : Settings) (entropy : Entropy)
    (actions : List Action) (writings : List DisplayAction) :
    let start := Machine.fresh settings entropy
    let machine := start.actAll actions
    let picture := machine.processor.display.frame
    let display := Display.actAll {} writings
    ((machine.takeFrame.1.isSome = true ↔ start.PaintedSince actions) ∧
        (∀ frame, machine.takeFrame.1 = some frame → frame = picture) ∧
        (machine.takeFrame.1 = none →
          picture = (start.framesTaken actions).getLastD .blank)) ∧
      ((display.takeMark.1 = true ↔ Display.WrittenSince writings) ∧
        (display.takeMark.1 = false →
          display.frame = (Display.taken {} writings).getLastD .blank)) ∧
      ∀ (any : Display) (x y : Nat) (on : Bool),
        ((∃ cause, (any.putAt x y on).2 = .error cause) ↔ 32 ≤ y ∨ 64 ≤ x) ∧
          (32 ≤ y ∨ 64 ≤ x →
            (any.putAt x y on).1 = any ∧ any.act (.put x y on) = any) := by
  intro start machine picture display
  have tracks := tracks_actAll_fresh settings entropy actions
  have marked := Display.tracks_actAll writings
  refine ⟨⟨?_, ?_, ?_⟩, ⟨marked.mark, marked.same⟩, ?_⟩
  · rw [← tracks.mark, takeFrame_isSome]
  · exact machine.eq_of_takeFrame_eq_some
  · intro refused
    refine tracks.same ?_
    rw [← takeFrame_isSome, refused, Option.isSome_none]
  · intro any x y on
    refine ⟨⟨?_, fun outside => ?_⟩, fun outside => ?_⟩
    · rintro ⟨cause, refused⟩
      by_contra inside
      rw [any.putAt_of_inside x y on (by omega) (by omega)] at refused
      cases refused
    · obtain ⟨cause, refused⟩ := any.putAt_of_outside x y on outside
      exact ⟨cause, congrArg Prod.snd refused⟩
    · have kept := any.act_put_of_outside x y on outside
      exact ⟨kept, kept⟩

theorem takeFrame_isSome_iff_painted_digit :
    let start := Machine.fresh .standard (.constant 0)
    let drawing := [Action.load (.ofBytes [0xA0, 0x50, 0xD0, 0x05]), .step, .step]
    let drawn := start.actAll drawing
    let polled := start.actAll (drawing ++ [.takeFrame])
    start.framesTaken (drawing ++ [.takeFrame]) = [drawn.processor.display.frame] ∧
      drawn.takeFrame.1.isSome = true ∧ polled.takeFrame.1.isSome = false := by
  intro start drawing drawn polled
  let loaded := start.act (.load (.ofBytes [0xA0, 0x50, 0xD0, 0x05]))
  have memory : loaded.processor.memory = .image [0xA0, 0x50, 0xD0, 0x05] :=
    start.memory_act (.load (.ofBytes [0xA0, 0x50, 0xD0, 0x05])) [] Memory.fresh_eq_image
  have points : loaded.processor.Executes (.point 0x50) :=
    loaded.processor.executes_of_image 0 memory rfl (by decide) (by decide)
  let pointed := (loaded.processor.fetched.perform (.point 0x50)).1
  have first : (loaded.act .step).processor = pointed := loaded.processor_act_of_executes points
  have draws : pointed.Executes (.draw 0 0 5) :=
    pointed.executes_of_image 2 memory rfl (by decide) (by decide)
  have done : pointed.step.answer = .ok () :=
    (pointed.step_draw_succeeds_iff 0 0 5 draws).mpr (.inr (by decide))
  -- The highest bit of the digit falls on the corner.
  have shown : pointed.ShowsBit 0 0 5 := by
    refine ⟨0, by decide, 0, by decide, ?_, by decide, by decide⟩
    change (loaded.processor.memory.byteAt 0x50).getMsbD 0 = true
    rw [memory, Memory.byteAt_image _ _ (by decide)]
    decide
  have paints : (start.actAll
      [.load (.ofBytes [0xA0, 0x50, 0xD0, 0x05]), .step]).processor.Paints := by
    rw [actAll, actAll, actAll, first]
    exact .draws 0 0 5 draws done shown
  have given := (takeFrame_isSome_iff_painted .standard (.constant 0) drawing []).1.1
  have again :=
    (takeFrame_isSome_iff_painted .standard (.constant 0) (drawing ++ [.takeFrame]) []).1.1
  have painted : drawn.takeFrame.1.isSome = true :=
    given.mpr ⟨[.load (.ofBytes [0xA0, 0x50, 0xD0, 0x05]), .step], .step, [], rfl,
      ⟨rfl, paints⟩, List.forall_mem_nil _⟩
  obtain ⟨frame, taken⟩ := Option.isSome_iff_exists.mp painted
  have current : frame = drawn.processor.display.frame :=
    drawn.eq_of_takeFrame_eq_some frame taken
  refine ⟨?_, painted, ?_⟩
  · rw [framesTaken_append]
    change [] ++ (drawn.takeFrame.1.toList ++ []) = _
    rw [taken, current, Option.toList_some, List.append_nil, List.nil_append]
  · rw [← Bool.not_eq_true, again, PaintedSince, since_concat]
    simp

end Chip8.Machine
