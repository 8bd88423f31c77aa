import Chip8.Screen.Display
import Mathlib.Data.List.Induction

set_option autoImplicit false

namespace Chip8

section Histories

variable {Entry : Type}

/-- An event that counts has happened, and none behind it that starts over. -/
def Since (Counts : List Entry → Entry → Prop) (Restarts : Entry → Prop)
    (history : List Entry) : Prop :=
  ∃ earlier event later,
    history = earlier ++ event :: later ∧ Counts earlier event ∧ ∀ other ∈ later, ¬ Restarts other

variable {Counts : List Entry → Entry → Prop} {Restarts : Entry → Prop}

theorem not_since_nil : ¬ Since Counts Restarts [] := by
  rintro ⟨earlier, event, later, split, -⟩
  exact List.append_ne_nil_of_right_ne_nil earlier (List.cons_ne_nil event later) split.symm

theorem since_concat (history : List Entry) (event : Entry) :
    Since Counts Restarts (history ++ [event]) ↔
      Counts history event ∨ (¬ Restarts event ∧ Since Counts Restarts history) := by
  constructor
  · rintro ⟨earlier, counted, later, split, counts, quiet⟩
    -- Either the event that counts is the new one, or the new one is among the later.
    rcases List.eq_nil_or_concat later with rfl | ⟨before, last, rfl⟩
    · obtain ⟨rfl, same⟩ := List.append_inj' split rfl
      cases same
      exact .inl counts
    · rw [List.concat_eq_append] at split quiet
      rw [← List.cons_append, ← List.append_assoc] at split
      obtain ⟨rfl, same⟩ := List.append_inj' split rfl
      cases same
      refine .inr ⟨quiet event (by simp), earlier, counted, before, rfl, counts, ?_⟩
      intro other member
      exact quiet other (List.mem_append_left _ member)
  · rintro (counts | ⟨quietLast, earlier, counted, later, rfl, counts, quiet⟩)
    · exact ⟨history, event, [], rfl, counts, by simp⟩
    · refine ⟨earlier, counted, later ++ [event], by simp, counts, ?_⟩
      intro other member
      rcases List.mem_append.mp member with inside | last
      · exact quiet other inside
      · rw [List.mem_singleton.mp last]
        exact quietLast

end Histories

namespace Display

structure Tracks (display : Display) (Changed : Prop) (last : Frame) : Prop where
  mark : display.written = true ↔ Changed
  same : display.written = false → display.frame = last

theorem tracks_new {Changed : Prop} (unchanged : ¬ Changed) : Tracks {} Changed .blank := by
  constructor
  · simp [unchanged]
  · intro _
    rfl

theorem Tracks.follow {before after : Display} {Changed Counts Restarts : Prop}
    {last latest : Frame} (tracks : before.Tracks Changed last)
    (takes : Restarts → after = before.takeMark.2 ∧ latest = before.frame)
    (keeps : ¬ Restarts → latest = last)
    (counts : Counts → ¬ Restarts ∧ after.written = true)
    (idle : ¬ Counts → ¬ Restarts → after = before) :
    after.Tracks (Counts ∨ (¬ Restarts ∧ Changed)) latest := by
  -- An event takes the mark, or counts and sets it, or does nothing; never two of these.
  by_cases restarts : Restarts
  next =>
    have quiet : ¬ Counts := fun counted => (counts counted).1 restarts
    obtain ⟨rfl, rfl⟩ := takes restarts
    constructor
    · simp [takeMark, quiet, restarts]
    · intro _
      rfl
  next =>
    rw [keeps restarts]
    by_cases counted : Counts
    next =>
      have written := (counts counted).2
      constructor
      · simp [written, counted]
      · intro unwritten
        rw [written] at unwritten
        cases unwritten
    next =>
      rw [idle counted restarts]
      constructor
      · simp [tracks.mark, counted, restarts]
      · exact tracks.same

end Display

inductive DisplayAction where
  | put (x y : Nat) (on : Bool)
  | clear
  | takeMark

def DisplayAction.Writes : DisplayAction → Prop
  | put x y _ => x < 64 ∧ y < 32
  | clear => True
  | takeMark => False

namespace Display

def act (display : Display) : DisplayAction → Display
  | .put x y on => (display.putAt x y on).1
  | .clear => display.clear
  | .takeMark => display.takeMark.2

def actAll (display : Display) : List DisplayAction → Display
  | [] => display
  | action :: rest => (display.act action).actAll rest

def taken (display : Display) : List DisplayAction → List Frame
  | [] => []
  | .takeMark :: rest => display.frame :: (display.act .takeMark).taken rest
  | action :: rest => (display.act action).taken rest

theorem actAll_append (display : Display) (actions others : List DisplayAction) :
    display.actAll (actions ++ others) = (display.actAll actions).actAll others := by
  induction actions generalizing display with
  | nil => rfl
  | cons action rest ih => exact ih (display.act action)

theorem taken_append (display : Display) (actions others : List DisplayAction) :
    display.taken (actions ++ others) =
      display.taken actions ++ (display.actAll actions).taken others := by
  induction actions generalizing display with
  | nil => rfl
  | cons action rest ih =>
    cases action with
    | takeMark => exact congrArg (display.frame :: ·) (ih (display.act .takeMark))
    | put x y on => exact ih (display.act (.put x y on))
    | clear => exact ih (display.act .clear)

theorem putAt_of_inside (display : Display) (x y : Nat) (on : Bool) (column : x < 64)
    (row : y < 32) :
    display.putAt x y on = (display.put ⟨⟨x, column⟩, ⟨y, row⟩⟩ on, .ok ()) := by
  have found : Cell.find x y = .ok ⟨⟨x, column⟩, ⟨y, row⟩⟩ := by
    rw [Cell.find, dif_pos row, dif_pos column]
  simp only [putAt, Frame.putAt, found]
  rfl

theorem putAt_of_outside (display : Display) (x y : Nat) (on : Bool)
    (outside : 32 ≤ y ∨ 64 ≤ x) : ∃ cause, display.putAt x y on = (display, .error cause) := by
  have missing : ∃ cause, Cell.find x y = .error cause := by
    rw [Cell.find]
    split
    next row =>
      have column : ¬ x < 64 := by
        rcases outside with below | right
        · exact absurd row (Nat.not_lt.mpr below)
        · exact Nat.not_lt.mpr right
      exact ⟨.column x, dif_neg column⟩
    next => exact ⟨.row y, rfl⟩
  obtain ⟨cause, missing⟩ := missing
  exact ⟨cause, by simp only [putAt, Frame.putAt, missing]⟩

theorem act_put_of_outside (display : Display) (x y : Nat) (on : Bool)
    (outside : 32 ≤ y ∨ 64 ≤ x) : display.act (.put x y on) = display := by
  obtain ⟨cause, refused⟩ := display.putAt_of_outside x y on outside
  rw [act, refused]

theorem written_act (display : Display) (action : DisplayAction) (writes : action.Writes) :
    (display.act action).written = true := by
  cases action with
  | put x y on =>
    rw [act, display.putAt_of_inside x y on writes.1 writes.2]
    rfl
  | clear => rfl
  | takeMark => exact writes.elim

theorem act_of_not_writes (display : Display) (action : DisplayAction)
    (idle : ¬ action.Writes) (stays : action ≠ .takeMark) : display.act action = display := by
  cases action with
  | put x y on =>
    refine display.act_put_of_outside x y on ?_
    rw [DisplayAction.Writes] at idle
    omega
  | clear => exact absurd trivial idle
  | takeMark => exact absurd rfl stays

def WrittenSince (actions : List DisplayAction) : Prop :=
  Since (fun _ action => action.Writes) (· = .takeMark) actions

theorem tracks_actAll (actions : List DisplayAction) :
    (actAll {} actions).Tracks (WrittenSince actions) ((taken {} actions).getLastD .blank) := by
  induction actions using List.reverseRecOn with
  | nil => exact tracks_new not_since_nil
  | append_singleton earlier action ih =>
    rw [WrittenSince, since_concat, actAll_append, taken_append]
    refine ih.follow ?_ ?_ ?_ ?_
    · rintro rfl
      exact ⟨rfl, List.getLastD_concat⟩
    · intro stays
      have none : (actAll {} earlier).taken [action] = [] := by
        cases action with
        | takeMark => exact absurd rfl stays
        | put x y on => rfl
        | clear => rfl
      rw [none, List.append_nil]
    · intro writes
      refine ⟨?_, written_act _ action writes⟩
      rintro rfl
      exact writes
    · exact act_of_not_writes _ action

end Display

end Chip8
