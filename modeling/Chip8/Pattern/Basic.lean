import Chip8.Pattern.Charset

set_option autoImplicit false

namespace Chip8

inductive WordEdge where
  -- One of the two edges of a word.
  | any
  -- No edge of a word.
  | inside
  | start
  | stop
  | startHalf
  | stopHalf
  deriving DecidableEq, Repr

inductive Anchor where
  | textStart
  | textEnd
  -- Lines end with a line feed, or with a carriage return, or with both.
  | lineStart (carriageReturns : Bool)
  | lineEnd (carriageReturns : Bool)
  -- Words are made of ASCII characters, or of all letters that there are.
  | word (edge : WordEdge) (ascii : Bool)
  deriving DecidableEq, Repr

structure Gap where
  before : Option Char
  after : Option Char
  deriving DecidableEq, Repr

namespace Gap

def ofText (text : List Char) : List Gap :=
  List.zipWith Gap.mk (none :: text.map some) (text.map some ++ [none])

@[simp]
theorem length_ofText (text : List Char) : (ofText text).length = text.length + 1 := by
  simp [ofText]

end Gap

namespace WordEdge

def holds (edge : WordEdge) (before after : Bool) : Bool :=
  match edge with
  | any => before ^^ after
  | inside => before == after
  | start => !before && after
  | stop => before && !after
  | startHalf => !before
  | stopHalf => !after

end WordEdge

namespace Anchor

def isWordSide (side : Option Char) : Bool := side.any Charset.wordCharacters.contains

def holds (anchor : Anchor) (gap : Gap) : Bool :=
  match anchor with
  | textStart => gap.before.isNone
  | textEnd => gap.after.isNone
  | lineStart false => gap.before.all (· = '\n')
  | lineStart true =>
      gap.before.all fun c => c = '\n' || (c = '\r' && gap.after ≠ some '\n')
  | lineEnd false => gap.after.all (· = '\n')
  | lineEnd true =>
      gap.after.all fun c => c = '\r' || (c = '\n' && gap.before ≠ some '\r')
  | word edge _ => edge.holds (isWordSide gap.before) (isWordSide gap.after)

end Anchor

inductive Pattern where
  | empty
  | one (set : Charset)
  | anchor (anchor : Anchor)
  | seq (first second : Pattern)
  | either (left right : Pattern)
  -- Without a greatest number there is no limit.
  | times (pattern : Pattern) (least : Nat) (most : Option Nat)
  deriving DecidableEq, Repr

namespace Pattern

abbrev Marks := List Bool

def repeated (step : Marks → Marks) : Nat → Marks → Marks
  | 0, marks => marks
  | count + 1, marks =>
      let next := step marks
      if next = marks then marks else repeated step count next

def merge (left right : Marks) : Marks := List.zipWith (· || ·) left right

/--
The gaps where a match ends that begins in a marked gap. More repetitions than
there are gaps lead nowhere else, since all but so many of them are empty.
-/
def follow (text : List Char) : Pattern → Marks → Marks
  | empty, marks => marks
  | one set, marks => false :: List.zipWith (fun mark c => mark && set.contains c) marks text
  | anchor place, marks =>
      List.zipWith (fun mark gap => mark && place.holds gap) marks (Gap.ofText text)
  | seq first second, marks => follow text second (follow text first marks)
  | either left right, marks => merge (follow text left marks) (follow text right marks)
  | times pattern least most, marks =>
      let gaps := text.length + 1
      let needed := repeated (follow text pattern) (min least gaps) marks
      let further := (most.map fun most => min (most - least) gaps).getD gaps
      repeated (fun marks => merge marks (follow text pattern marks)) further needed

def occursIn (pattern : Pattern) (text : String) : Bool :=
  let characters := text.toList
  (follow characters pattern (List.replicate (characters.length + 1) true)).any id

@[simp]
theorem occursIn_empty (text : String) : empty.occursIn text = true := by
  simp [occursIn, follow]

theorem length_repeated (step : Marks → Marks) (size : Nat)
    (kept : ∀ marks : Marks, marks.length = size → (step marks).length = size) :
    ∀ (count : Nat) (marks : Marks), marks.length = size →
      (repeated step count marks).length = size
  | 0, marks, same => by simpa [repeated] using same
  | count + 1, marks, same => by
      simp only [repeated]
      split
      · exact same
      · exact length_repeated step size kept count _ (kept marks same)

theorem length_follow (text : List Char) (pattern : Pattern) (marks : Marks)
    (same : marks.length = text.length + 1) :
    (follow text pattern marks).length = text.length + 1 := by
  induction pattern generalizing marks with
  | empty => exact same
  | one set => simp [follow, same]
  | anchor place => simp [follow, same]
  | seq first second hfirst hsecond => exact hsecond _ (hfirst _ same)
  | either left right hleft hright => simp [follow, merge, hleft _ same, hright _ same]
  | times pattern least most ih =>
      apply length_repeated
      · intro marks same
        simp [merge, same, ih marks same]
      · exact length_repeated _ _ ih _ _ same

-- Whether words are looked at that are not made of ASCII characters only.
def needsAllLetters : Pattern → Bool
  | empty => false
  | one _ => false
  | anchor (.word _ ascii) => !ascii
  | anchor _ => false
  | seq first second => first.needsAllLetters || second.needsAllLetters
  | either left right => left.needsAllLetters || right.needsAllLetters
  | times pattern _ _ => pattern.needsAllLetters

end Pattern

end Chip8
