import Chip8.CommandLine.Arguments
import Chip8.Text.Plain

set_option autoImplicit false

namespace Chip8

def usage : String := "\n\nUsage: chip8 <ROM>"

def moreInformation : String := "\n\nFor more information, try '--help'.\n"

namespace Flag

def text : Flag → String
  | help =>
      "Runs a Chip-8 program" ++ usage ++
        "\n\nArguments:\n  <ROM>  Path to the program binary" ++
        "\n\nOptions:\n  -h, --help     Print help\n  -V, --version  Print version\n"
  | version => "chip8 0.1.0\n"

end Flag

namespace Mistake

def text : Mistake → String
  | missingPath =>
      "error: the following required arguments were not provided:\n  <ROM>" ++
        usage ++ moreInformation
  | emptyPath =>
      "error: a value is required for '<ROM>' but none was supplied" ++ moreInformation
  | secondPath argument =>
      "error: unexpected argument '" ++ Text.plain argument ++ "' found" ++
        usage ++ moreInformation
  | unknownOption option =>
      let shown := Text.plain option
      "error: unexpected argument '" ++ shown ++ "' found\n\n  tip: to pass '" ++ shown ++
        "' as a value, use '-- " ++ shown ++ "'" ++ usage ++ moreInformation
  | needlessValue option value =>
      "error: unexpected value '" ++ Text.plain value ++ "' for '" ++ option ++
        "' found; no more were expected\n\nUsage: chip8 " ++ option ++ " <ROM>" ++ moreInformation

end Mistake

end Chip8
