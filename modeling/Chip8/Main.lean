import Chip8.CommandLine.Program
import Chip8.Files.Tree
import Chip8.Random.Keystream
import Std.Time

set_option autoImplicit false

namespace Chip8

def tell (filter : Filter) (event : Event) : IO Unit := do
  if filter.tells event then
    let now ← Std.Time.Timestamp.now
    let time := Std.Time.PlainDateTime.ofWallTime (now.toWallTime .zero)
    IO.eprintln (event.record (time.format "uuuu-MM-dd'T'HH:mm:ss'Z'"))

def systemNumber (code : UInt32) : Nat := min code.toNat (UInt32.size - code.toNat)

def failureOf : IO.Error → ReadFailure
  | .noFileOrDirectory .. => .path .noEntry
  | .permissionDenied .. => .reported .permissionDenied (some "Permission denied (os error 13)")
  | .inappropriateType _ code _ =>
      if systemNumber code = 20 then .path .notDirectory else .path .isDirectory
  | .invalidArgument _ code _ =>
      if systemNumber code = 36 then .path .nameTooLong else .path .nulInName
  | error => .reported .other (some (toString error))

def readFile (path : String) : IO Stream := do
  try
    let content ← IO.FS.readBinFile path
    return .ofBytes (content.toList.map fun byte => byte.toBitVec)
  catch error => return [.failure (failureOf error)]

def systemRandom : IO Random := do
  let bytes ← IO.getRandomBytes 32
  return .ofKey (Vector.ofFn fun place : Fin 8 =>
    (List.range 4).foldl
      (fun word k => 256 * word + (bytes.toList.getD (4 * place.val + k) 0).toUInt32) 0)

def Session.sounded {windowing : Windowing} (session : Session windowing) : List Byte :=
  session.machine.clocks.flatMap fun clock => clock.sound.output

-- A bell that cannot be heard disturbs nobody.
def ring (bytes : List Byte) : IO Unit := do
  let output ← IO.getStdout
  for byte in bytes do
    try
      output.write ⟨#[⟨byte⟩]⟩
      output.flush
    catch _ => pure ()

partial def live (filter : Filter) (session : Session .inMemory) (lastTick : Nat) : IO Run := do
  let tickTime := session.machine.settings.timerPeriod?.getD 0
  let now ← IO.monoNanosNow
  let due := (now - lastTick) / tickTime
  let ticks := (List.replicate due [TimerRole.delay, TimerRole.sound]).flatten
  let taken := session.turn { ticks := ticks, redraws := decide (0 < due) }
  taken.journal.forM (tell filter)
  ring (taken.state.sounded.drop session.sounded.length)
  match taken.answer with
  | some ending =>
      taken.state.close.forM (tell filter)
      return { result := ending.result, journal := [] }
  | none =>
      IO.sleep (UInt32.ofNat (session.machine.settings.stepPeriod / 1000000))
      live filter taken.state (lastTick + due * tickTime)

def runPath (filter : Filter) (path : String) : IO Run := do
  let (started, told) :=
    Session.start .inMemory (.keyed (← systemRandom)) path (← readFile path)
  told.forM (tell filter)
  match started with
  | .error error => return { result := .error error, journal := [] }
  | .ok session => live filter session (← IO.monoNanosNow)

end Chip8

open Chip8 in
def main (arguments : List String) : IO UInt32 := do
  let setting := (← IO.getEnv "RUST_LOG").getD ""
  let { filter, warnings } := Filter.read setting
  warnings.forM fun warning => IO.eprintln warning
  let exit ←
    match Invocation.ofArguments arguments with
    | .explain flag => pure (Exit.ofFlag flag)
    | .refuse mistake => pure (Exit.ofMistake mistake)
    | .run path => do pure (Exit.ofRun (← runPath filter path))
  IO.print exit.output
  exit.journal.forM (tell filter)
  return exit.status.toUInt32
