import Chip8.CommandLine.Arguments
import Chip8.CommandLine.Messages
import Chip8.CommandLine.Program
import Chip8.Fault
import Chip8.Files.Tree
import Chip8.Font
import Chip8.Instruction.Basic
import Chip8.Instruction.Coding
import Chip8.Instruction.Operands
import Chip8.Journal.Directive
import Chip8.Journal.Event
import Chip8.Journal.Filter
import Chip8.Machine.Basic
import Chip8.Machine.Clocks
import Chip8.Main
import Chip8.Memory.Basic
import Chip8.Memory.Program
import Chip8.Pattern.Basic
import Chip8.Pattern.Brackets
import Chip8.Pattern.Charset
import Chip8.Pattern.Escape
import Chip8.Pattern.Flaw
import Chip8.Pattern.Marking
import Chip8.Pattern.Reader
import Chip8.Pattern.Reading
import Chip8.Pattern.Weight
import Chip8.Platform
import Chip8.Processor.Checked
import Chip8.Processor.Cycle
import Chip8.Processor.Semantics
import Chip8.Processor.State
import Chip8.Proofs.Instruction.Forms
import Chip8.Proofs.Machine.Alteration
import Chip8.Proofs.Machine.Bounds
import Chip8.Proofs.Machine.Contents
import Chip8.Proofs.Machine.Cooperation
import Chip8.Proofs.Machine.Countdown
import Chip8.Proofs.Machine.History
import Chip8.Proofs.Machine.Holding
import Chip8.Proofs.Machine.Lifecycle
import Chip8.Proofs.Machine.Pacing
import Chip8.Proofs.Machine.Policies
import Chip8.Proofs.Machine.Polling
import Chip8.Proofs.Machine.Randomness
import Chip8.Proofs.Machine.Rates
import Chip8.Proofs.Machine.Returning
import Chip8.Proofs.Machine.StraightLine
import Chip8.Proofs.Machine.Subroutines
import Chip8.Proofs.Machine.Ticking
import Chip8.Proofs.Machine.Tracing
import Chip8.Proofs.Memory.Loading
import Chip8.Proofs.Memory.Reading
import Chip8.Proofs.Memory.Streams
import Chip8.Proofs.Processor.Assembly
import Chip8.Proofs.Processor.Drawing
import Chip8.Proofs.Processor.Execution
import Chip8.Proofs.Processor.Faults
import Chip8.Proofs.Processor.Meaning
import Chip8.Proofs.Processor.Overdrawing
import Chip8.Proofs.Processor.Painting
import Chip8.Proofs.Processor.Safety
import Chip8.Proofs.Processor.Stepping
import Chip8.Proofs.Processor.Unmarked
import Chip8.Proofs.Processor.Untimed
import Chip8.Proofs.Screen.Marks
import Chip8.Proofs.Screen.Pictures
import Chip8.Proofs.Screen.Sprites
import Chip8.Proofs.Session.Outcome
import Chip8.Proofs.Session.Turns
import Chip8.Proofs.Timer.Clockwork
import Chip8.Proofs.Timer.Lives
import Chip8.Proofs.Timer.Sharing
import Chip8.Proofs.Timer.Stretches
import Chip8.Proofs.Window.Listing
import Chip8.Proofs.Window.Upscaling
import Chip8.Random.Keystream
import Chip8.Random.Source
import Chip8.Registers
import Chip8.Screen.Cell
import Chip8.Screen.Display
import Chip8.Screen.Frame
import Chip8.Screen.Sprite
import Chip8.Session.Basic
import Chip8.Session.Run
import Chip8.Session.Turn
import Chip8.Settings
import Chip8.Sound
import Chip8.Stream.Basic
import Chip8.Stream.Failure
import Chip8.Text.Blank
import Chip8.Text.Duration
import Chip8.Text.Hex
import Chip8.Text.Lines
import Chip8.Text.Plain
import Chip8.Timer.Basic
import Chip8.Timer.Clock
import Chip8.Timer.Counters
import Chip8.Window.Canvas
import Chip8.Window.Square
import Chip8.Window.Windowing
import Chip8.Word
