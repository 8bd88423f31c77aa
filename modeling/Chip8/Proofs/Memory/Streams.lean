import Chip8.Proofs.Memory.Loading
import Mathlib.Logic.Relation

set_option autoImplicit false

namespace Chip8

namespace Chunk

def ends : Chunk → Bool
  | data bytes => bytes.isEmpty
  | failure cause => !cause.retried
  | endOfStream => true

def bytes : Chunk → List Byte
  | data bytes => bytes
  | failure _ => []
  | endOfStream => []

def cause? : Chunk → Option ReadFailure
  | data _ => none
  | failure cause => some cause
  | endOfStream => none

end Chunk

namespace Stream

/-- The bytes before the end of the stream. -/
def contents (stream : Stream) : List Byte :=
  (stream.takeWhile fun chunk => !chunk.ends).flatMap Chunk.bytes

def breakage? (stream : Stream) : Option ReadFailure :=
  (stream.find? Chunk.ends).bind Chunk.cause?

theorem contents_ofBytes (bytes : List Byte) : (ofBytes bytes).contents = bytes := by
  cases bytes with
  | nil => rfl
  | cons first rest => exact List.append_nil (first :: rest)

theorem readAll_eq (stream : Stream) :
    stream.readAll =
      match stream.breakage? with
      | some cause => .error cause
      | none => .ok stream.contents := by
  induction stream with
  | nil => rfl
  | cons chunk rest ih =>
    cases chunk with
    | endOfStream => rfl
    | data bytes =>
      cases bytes with
      | nil => rfl
      | cons first more =>
        have broken : breakage? (.data (first :: more) :: rest) = breakage? rest := rfl
        have joined : contents (.data (first :: more) :: rest) = first :: more ++ contents rest :=
          rfl
        rw [readAll, if_neg (List.cons_ne_nil _ _), ih, broken, joined]
        cases breakage? rest with
        | none => rfl
        | some cause => rfl
    | failure cause =>
      cases again : cause.retried with
      | true =>
        have goesOn : (Chunk.failure cause).ends = false := by simp [Chunk.ends, again]
        have broken : breakage? (.failure cause :: rest) = breakage? rest := by
          simp [breakage?, goesOn]
        have joined : contents (.failure cause :: rest) = contents rest := by
          simp [contents, goesOn, Chunk.bytes]
        rw [readAll, if_pos again, ih, broken, joined]
      | false =>
        have broken : breakage? (.failure cause :: rest) = some cause := by
          simp [breakage?, Chunk.ends, again, Chunk.cause?]
        rw [readAll, again, broken]
        rfl

/-- Another stream of the same bytes with the same end. -/
inductive Recut : Stream → Stream → Prop where
  | pieces (before after : Stream) (cut other : List (List Byte)) (solid : [] ∉ cut)
      (alsoSolid : [] ∉ other) (same : cut.flatten = other.flatten) :
      Recut (before ++ (cut.map .data ++ after)) (before ++ (other.map .data ++ after))
  | retry (before after : Stream) (cause : ReadFailure) (retried : cause.retried = true) :
      Recut (before ++ after) (before ++ .failure cause :: after)
  | behindEnd (before after other : Stream) (last : Chunk) (ends : last.ends = true) :
      Recut (before ++ last :: after) (before ++ last :: other)
  | behindAll (stream rest : Stream) : Recut stream (stream ++ .endOfStream :: rest)

theorem readAll_append_congr (before : Stream) {left right : Stream}
    (same : left.readAll = right.readAll) :
    readAll (before ++ left) = readAll (before ++ right) := by
  induction before with
  | nil => exact same
  | cons chunk rest ih =>
    cases chunk with
    | endOfStream => rfl
    | data bytes => simp only [List.cons_append, readAll, ih]
    | failure cause => simp only [List.cons_append, readAll, ih]

theorem readAll_pieces (cut : List (List Byte)) (solid : [] ∉ cut) (after : Stream) :
    readAll (cut.map .data ++ after) = after.readAll.map (cut.flatten ++ ·) := by
  induction cut with
  | nil =>
    cases read : after.readAll with
    | error cause => simp [read, Except.map]
    | ok bytes => simp [read, Except.map]
  | cons bytes rest ih =>
    obtain ⟨filled, others⟩ := List.ne_and_not_mem_of_not_mem_cons solid
    rw [List.map_cons, List.cons_append, readAll, if_neg (Ne.symm filled), ih others]
    cases after.readAll with
    | error cause => rfl
    | ok others => simp [Except.map]

theorem readAll_of_ends {last : Chunk} (ends : last.ends = true) (after other : Stream) :
    readAll (last :: after) = readAll (last :: other) := by
  cases last with
  | data bytes =>
    have none : bytes = [] := List.isEmpty_iff.mp ends
    rw [readAll, readAll, if_pos none, if_pos none]
  | endOfStream => rfl
  | failure cause =>
    have final : cause.retried = false := by simpa [Chunk.ends] using ends
    simp [readAll, final]

theorem readAll_recut {left right : Stream} (recut : Recut left right) :
    left.readAll = right.readAll := by
  cases recut with
  | pieces before after cut other solid alsoSolid same =>
    apply readAll_append_congr
    rw [readAll_pieces cut solid, readAll_pieces other alsoSolid, same]
  | retry before after cause retried =>
    apply readAll_append_congr
    rw [readAll, if_pos retried]
  | behindEnd before after other last ends =>
    apply readAll_append_congr
    exact readAll_of_ends ends after other
  | behindAll stream rest =>
    -- Behind the last chunk every further read finds the end.
    have ended : readAll [] = readAll (.endOfStream :: rest) := rfl
    have added := readAll_append_congr left ended
    rwa [List.append_nil] at added

theorem readAll_recuts {left right : Stream} (recuts : Relation.EqvGen Recut left right) :
    left.readAll = right.readAll := by
  induction recuts with
  | rel left right recut => exact readAll_recut recut
  | refl stream => rfl
  | symm left right _ ih => exact ih.symm
  | trans left middle right _ _ first second => exact first.trans second

end Stream

namespace Memory

theorem loadStream_congr (memory : Memory) {left right : Stream}
    (same : left.readAll = right.readAll) : memory.loadStream left = memory.loadStream right := by
  simp only [loadStream, same]

/--
A stream that breaks off is not loaded, whatever it held before; one that ends is
refused if it holds more than 3584 bytes, and memory stays in both cases. Otherwise
the load is that of the bytes before the end, which memory then holds. Two streams of the same bytes and the
same end are loaded alike, so a stream may be cut again, tried again and continued.
-/
theorem contents_decide_load (memory : Memory) (stream : Stream) :
    let outcome := memory.loadStream stream
    let program := stream.contents
    (∀ cause, stream.breakage? = some cause →
        outcome.answer = .error (.unreadable cause) ∧ outcome.state = memory) ∧
      (stream.breakage? = none → 3584 < program.length →
        outcome.answer = .error (.tooLarge program.length 3584) ∧ outcome.state = memory) ∧
      (stream.breakage? = none → program.length ≤ 3584 →
        outcome.answer = .ok program.length ∧ outcome = memory.load program ∧
          memory.Takes program outcome.state) ∧
      (∀ other : Stream, other.contents = program → other.breakage? = stream.breakage? →
        memory.loadStream other = outcome) ∧
      ∀ other, Relation.EqvGen Stream.Recut stream other → memory.loadStream other = outcome := by
  intro outcome program
  have ended (ends : stream.breakage? = none) : stream.readAll = .ok program := by
    rw [stream.readAll_eq, ends]
  refine ⟨?_, ?_, ?_, ?_, ?_⟩
  · intro cause breaks
    have read : stream.readAll = .error cause := by rw [stream.readAll_eq, breaks]
    have kept : outcome = _ := memory.loadStream_of_unreadable stream cause read
    rw [kept]
    exact ⟨rfl, rfl⟩
  · intro ends large
    have kept : outcome = _ := memory.loadStream_of_large program stream (ended ends) large
    rw [kept]
    exact ⟨rfl, rfl⟩
  · intro ends fits
    have loaded : outcome = memory.load program := by
      simp only [outcome, loadStream, ended ends]
    rw [loaded]
    obtain ⟨answer, takes⟩ := memory.takes_load program fits
    exact ⟨answer, rfl, takes⟩
  · intro other sameBytes sameEnd
    apply memory.loadStream_congr
    rw [other.readAll_eq, stream.readAll_eq, sameBytes, sameEnd]
  · intro other recuts
    exact memory.loadStream_congr (Stream.readAll_recuts recuts).symm

theorem contents_decide_load_late :
    let broken := ReadFailure.reported .timedOut none
    let interrupted := ReadFailure.reported .interrupted none
    let large := List.replicate 3585 (1 : Byte)
    let cut : Stream := [.data [1], .failure interrupted, .data [2, 3], .endOfStream, .data [4]]
    (fresh.loadStream [.data large, .failure broken]).answer = .error (.unreadable broken) ∧
      (fresh.loadStream (.ofBytes large)).answer = .error (.tooLarge 3585 3584) ∧
      (fresh.loadStream cut).answer = .ok 3 ∧
      fresh.loadStream (.ofBytes [1, 2, 3]) = fresh.loadStream cut := by
  intro broken interrupted large cut
  obtain ⟨breaks, -⟩ := contents_decide_load fresh [.data large, .failure broken]
  obtain ⟨-, tooLarge, -⟩ := contents_decide_load fresh (.ofBytes large)
  obtain ⟨-, -, fits, alike, -⟩ := contents_decide_load fresh cut
  have size : (Stream.ofBytes large).contents.length = 3585 := by
    rw [Stream.contents_ofBytes]
    exact List.length_replicate
  refine ⟨(breaks broken rfl).1, ?_, (fits rfl (by decide)).1, alike _ rfl rfl⟩
  rw [(tooLarge rfl (by omega)).1, size]

end Memory

end Chip8
