set_option autoImplicit false

namespace Chip8

inductive Flag where
  | help
  | version
  deriving DecidableEq, Repr

inductive Mistake where
  | missingPath
  | emptyPath
  | secondPath (argument : String)
  | unknownOption (option : String)
  | needlessValue (option value : String)
  deriving DecidableEq, Repr

inductive Invocation where
  | run (path : String)
  | explain (flag : Flag)
  | refuse (mistake : Mistake)
  deriving DecidableEq, Repr

inductive ArgumentForm where
  | positional
  | endOfOptions
  | flag (flag : Flag)
  | flagWithValue (option value : String)
  | unknown (option : String)
  deriving DecidableEq, Repr

namespace ArgumentForm

def ofArgument (argument : String) : ArgumentForm :=
  match argument.toList with
  | ['-', '-'] => .endOfOptions
  | '-' :: '-' :: characters =>
      let name := "--" ++ String.ofList (characters.takeWhile (· ≠ '='))
      let rest := characters.dropWhile (· ≠ '=')
      let known :=
        if name = "--help" then some Flag.help
        else if name = "--version" then some Flag.version
        else none
      match known, rest with
      | some asked, [] => .flag asked
      | some _, _ :: value => .flagWithValue name (String.ofList value)
      | none, _ => .unknown name
  | '-' :: 'h' :: _ => .flag .help
  | '-' :: 'V' :: _ => .flag .version
  | '-' :: letter :: _ => .unknown (String.ofList ['-', letter])
  | _ => .positional

end ArgumentForm

namespace Invocation

-- Shows what a flag asks for, unless the path so far is empty.
def ofFlag (path : Option String) (flag : Flag) : Invocation :=
  if path = some "" then .refuse .emptyPath else .explain flag

def ofPath : Option String → Invocation
  | none => .refuse .missingPath
  | some "" => .refuse .emptyPath
  | some path => .run path

def readPaths (path : Option String) : List String → Invocation
  | [] => ofPath path
  | argument :: rest =>
      match path with
      | none => readPaths (some argument) rest
      | some _ => .refuse (.secondPath argument)

def read (path : Option String) : List String → Invocation
  | [] => ofPath path
  | argument :: rest =>
      match ArgumentForm.ofArgument argument with
      | .endOfOptions => readPaths path rest
      | .flag flag => ofFlag path flag
      | .flagWithValue option value => .refuse (.needlessValue option value)
      | .unknown option => .refuse (.unknownOption option)
      | .positional =>
          match path with
          | none => read (some argument) rest
          | some _ => .refuse (.secondPath argument)

def ofArguments (arguments : List String) : Invocation := read none arguments

end Invocation

end Chip8
