set_option autoImplicit false

namespace Chip8.Text

inductive EscapeState where
  | outside
  -- Behind the escape character itself.
  | opened
  -- Behind further characters that announce a sequence of one character.
  | announced
  -- Inside a control sequence, which ends with a letter or the like.
  | control
  -- Inside a string, which ends only with another escape sequence.
  | string
  -- Inside a command, a string which a bell ends as well.
  | command
  deriving DecidableEq, Repr

def isEscape (c : Char) : Bool := c = '\x1b'

def isCancel (c : Char) : Bool := c = '\x18' || c = '\x1a'

-- Control characters that are kept, since they only lay text out.
def isLayout (c : Char) : Bool := c = '\t' || c = '\n' || c = '\x0c' || c = '\r'

def isControl (c : Char) : Bool := c < ' ' || c = '\x7f'

def isAnnouncing (c : Char) : Bool := ' ' ≤ c && c ≤ '/'

namespace EscapeState

def next (state : EscapeState) (c : Char) : EscapeState :=
  if isEscape c then opened
  else if isCancel c then outside
  else
    match state with
    | outside => outside
    | string => string
    | command => if c = '\x07' then outside else command
    | opened =>
        if isLayout c then outside
        else if isControl c then opened
        else if isAnnouncing c then announced
        else if c = '[' then control
        else if c = ']' then command
        else if c ∈ ['P', 'X', '^', '_'] then string
        else outside
    | announced =>
        if isLayout c then outside
        else if isControl c || isAnnouncing c then announced
        else outside
    | control =>
        if isLayout c then outside
        else if c < '@' || c = '\x7f' then control
        else outside

def shows (state : EscapeState) (c : Char) : Bool :=
  match state with
  | outside => isLayout c || !isControl c
  | opened => isLayout c
  | announced => isLayout c
  | control => isLayout c
  | string => false
  | command => false

end EscapeState

def isAscii (c : Char) : Bool := c ≤ '\x7f'

/--
What is shown of a text. Inside a sequence the first byte of a longer character
is lost, so that the bytes behind it stand for no character; they end the
sequence.
-/
def shown : EscapeState → List Char → List Char
  | _, [] => []
  | state, c :: rest =>
      if isAscii c then
        let tail := shown (state.next c) rest
        if state.shows c then c :: tail else tail
      else
        let visible :=
          if state = .outside then [c] else List.replicate (c.utf8Size - 1) '\ufffd'
        visible ++ shown .outside rest

def plain (text : String) : String := String.ofList (shown .outside text.toList)

theorem shown_of_all_visible (text : List Char) (visible : ∀ c ∈ text, isControl c = false) :
    shown .outside text = text := by
  induction text with
  | nil => rfl
  | cons c rest ih =>
      have here := visible c (by simp)
      have later := ih fun d member => visible d (by simp [member])
      have stays : EscapeState.outside.next c = .outside := by
        have notEscape : isEscape c = false := by
          cases escape : isEscape c with
          | false => rfl
          | true => simp [isEscape] at escape; simp [escape, isControl] at here
        simp [EscapeState.next, notEscape]
      simp [shown, stays, later, EscapeState.shows, here]

end Chip8.Text
