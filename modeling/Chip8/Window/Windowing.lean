import Chip8.Window.Canvas

set_option autoImplicit false

namespace Chip8

/--
A system that shows windows. Whatever can fail there gives the reason as a text; a
window is all the system remembers, so the same call may succeed once and fail later.
-/
structure Windowing where
  Window : Type
  prepare : Except String Unit
  openWindow (title : String) (width height : Nat) : Except String Window
  openInputs : Except String Unit
  clear : Window → Window
  fill : Window → List Square → Except String Window
  present : Window → Window

namespace Windowing

variable (windowing : Windowing)

def launch : Except String windowing.Window :=
  match windowing.prepare with
  | .error reason => .error reason
  | .ok _ =>
      match windowing.openWindow windowTitle windowWidth windowHeight with
      | .error reason => .error reason
      | .ok window =>
          match windowing.openInputs with
          | .error reason => .error reason
          | .ok _ => .ok window

def render (window : windowing.Window) (frame : Frame) : Except String windowing.Window :=
  match windowing.fill (windowing.clear window) (frame.squares (UInt32.ofNat cellSide)) with
  | .error reason => .error reason
  | .ok filled => .ok (windowing.present filled)

structure Works : Prop where
  prepares : windowing.prepare = .ok ()
  opens : ∃ window, windowing.openWindow windowTitle windowWidth windowHeight = .ok window
  listens : windowing.openInputs = .ok ()
  fills : ∀ window squares, ∃ filled, windowing.fill window squares = .ok filled

/-- The window system may give this reason for something that a session asked of it. -/
def Refuses (reason : String) : Prop :=
  windowing.launch = .error reason ∨
    ∃ window squares, windowing.fill window squares = .error reason

variable {windowing}

theorem Works.launches (works : windowing.Works) : ∃ window, windowing.launch = .ok window := by
  obtain ⟨window, opened⟩ := works.opens
  refine ⟨window, ?_⟩
  rw [launch, works.prepares, opened, works.listens]

theorem Works.not_refuses (works : windowing.Works) (reason : String) :
    ¬ windowing.Refuses reason := by
  rintro (stopped | ⟨window, squares, stopped⟩)
  · obtain ⟨window, launched⟩ := works.launches
    rw [launched] at stopped
    cases stopped
  · obtain ⟨filled, done⟩ := works.fills window squares
    rw [done] at stopped
    cases stopped

theorem refuses_of_render (window : windowing.Window) (frame : Frame) (reason : String)
    (failed : windowing.render window frame = .error reason) : windowing.Refuses reason := by
  rw [render] at failed
  split at failed
  next cause stopped =>
    cases failed
    exact .inr ⟨_, _, stopped⟩
  next => cases failed

def inMemory : Windowing where
  Window := Canvas
  prepare := .ok ()
  openWindow := fun _ _ _ => .ok .black
  openInputs := .ok ()
  clear := Canvas.clear
  fill := fun canvas squares => .ok (squares.foldl Canvas.fill canvas)
  present := id

theorem inMemory_works : inMemory.Works where
  prepares := rfl
  opens := ⟨Canvas.black, rfl⟩
  listens := rfl
  fills := fun canvas squares => ⟨squares.foldl Canvas.fill canvas, rfl⟩

end Windowing

end Chip8
