set_option autoImplicit false

namespace Chip8

inductive PathError where
  | noEntry
  | notDirectory
  | isDirectory
  | nameTooLong
  | nulInName
  deriving DecidableEq, Repr

def PathError.text : PathError → String
  | noEntry => "No such file or directory (os error 2)"
  | notDirectory => "Not a directory (os error 20)"
  | isDirectory => "Is a directory (os error 21)"
  | nameTooLong => "File name too long (os error 36)"
  | nulInName => "file name contained an unexpected NUL byte"

inductive FailureKind where
  | notFound
  | permissionDenied
  | unexpectedEnd
  | invalidData
  | interrupted
  | timedOut
  | other
  deriving DecidableEq, Repr

def FailureKind.text : FailureKind → String
  | notFound => "entity not found"
  | permissionDenied => "permission denied"
  | unexpectedEnd => "unexpected end of file"
  | invalidData => "invalid data"
  | interrupted => "operation interrupted"
  | timedOut => "timed out"
  | other => "other error"

inductive ReadFailure where
  | path (error : PathError)
  | reported (kind : FailureKind) (message : Option String)
  deriving DecidableEq, Repr

namespace ReadFailure

def text : ReadFailure → String
  | path error => error.text
  | reported kind message => message.getD kind.text

def retried : ReadFailure → Bool
  | reported .interrupted _ => true
  | _ => false

end ReadFailure

end Chip8
