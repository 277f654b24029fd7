import Gatehouse.Config.Basic

/-!
The command line of a gateway.

`CommandLine.read` takes the arguments one after the other. A path may stand in an argument of its
own or behind `=`; asking for help or for the version ends the reading.
-/

namespace Gatehouse

/-- A run of the program. -/
structure CommandLine where
  config : String := "config/gateway.toml"
  /-- Only check the configuration. -/
  check : Bool := false
  deriving DecidableEq, Repr, Inhabited

namespace CommandLine

/-- What the arguments come to. -/
inductive Wish where
  | run (commandLine : CommandLine)
  | help
  | version
  deriving DecidableEq, Repr

/-- What is wrong with the arguments. -/
inductive Misuse where
  | unexpected (argument : String)
  | unwantedValue (value : String)
  | missingPath
  | repeatedPath
  | repeatedCheck
  deriving DecidableEq, Repr

/-! ## Words -/

/-- An argument, seen by itself. -/
inductive Word where
  | help
  | version
  | check
  | checkWith (value : String)
  /-- The option for the path, and the path if it stands in the same argument. -/
  | path (value : Option String)
  | other (shown : String)
  deriving DecidableEq, Repr

def Word.of (argument : String) : Word :=
  match argument.toList with
  | ['-', '-', 'h', 'e', 'l', 'p'] => .help
  | ['-', '-', 'v', 'e', 'r', 's', 'i', 'o', 'n'] => .version
  | ['-', '-', 'c', 'h', 'e', 'c', 'k'] => .check
  | '-' :: '-' :: 'c' :: 'h' :: 'e' :: 'c' :: 'k' :: '=' :: value => .checkWith (.ofList value)
  | ['-', '-', 'c', 'o', 'n', 'f', 'i', 'g'] => .path none
  | '-' :: '-' :: 'c' :: 'o' :: 'n' :: 'f' :: 'i' :: 'g' :: '=' :: value =>
    .path (some (.ofList value))
  | '-' :: '-' :: name => .other (.ofList ('-' :: '-' :: name.takeWhile (· ≠ '=')))
  | '-' :: 'h' :: _ => .help
  | '-' :: 'V' :: _ => .version
  | ['-', 'c'] => .path none
  | '-' :: 'c' :: '=' :: value => .path (some (.ofList value))
  | '-' :: 'c' :: value => .path (some (.ofList value))
  | '-' :: letter :: _ => .other (.ofList ['-', letter])
  | _ => .other argument

/-- Text that can be the value of an option: it does not look like an option itself. -/
def isValue (argument : String) : Bool :=
  argument = "-" || argument.toList.head? != some '-'

/-! ## Reading -/

/-- Read the arguments that are left, given the path that was named and whether a check was asked
for. -/
def readFrom (path : Option String) (check : Bool) : List String → Except Misuse Wish
  | [] => .ok (.run ⟨path.getD "config/gateway.toml", check⟩)
  | argument :: rest =>
    match Word.of argument with
    | .help => .ok .help
    | .version => .ok .version
    | .check => if check then .error .repeatedCheck else readFrom path true rest
    | .checkWith value => .error (.unwantedValue value)
    | .path (some value) =>
      if path.isSome then .error .repeatedPath else readFrom (some value) check rest
    | .path none =>
      match rest with
      | [] => .error .missingPath
      | value :: rest =>
        if !isValue value then .error .missingPath
        else if path.isSome then .error .repeatedPath
        else readFrom (some value) check rest
    | .other shown => .error (.unexpected shown)

def read (arguments : List String) : Except Misuse Wish :=
  readFrom none false arguments

/-! ## Texts -/

def usage : String := "Usage: api-gateway [OPTIONS]"

def help : String :=
  "HTTP to gRPC API gateway\n\n" ++ usage ++ "\n\nOptions:\n" ++
  "  -c, --config <CONFIG>  Path to the TOML configuration file [default: config/gateway.toml]\n" ++
  "      --check            Validate the configuration and exit\n" ++
  "  -h, --help             Print help\n" ++
  "  -V, --version          Print version\n"

def Misuse.reason : Misuse → String
  | unexpected argument => "unexpected argument '" ++ argument ++ "' found"
  | unwantedValue value =>
    "unexpected value '" ++ value ++ "' for '--check' found; no more were expected"
  | missingPath => "a value is required for '--config <CONFIG>' but none was supplied"
  | repeatedPath => "the argument '--config <CONFIG>' cannot be used multiple times"
  | repeatedCheck => "the argument '--check' cannot be used multiple times"

def Misuse.message (misuse : Misuse) : String :=
  let usage := if misuse = missingPath then "" else usage ++ "\n\n"
  "error: " ++ misuse.reason ++ "\n\n" ++ usage ++ "For more information, try '--help'.\n"

end CommandLine

end Gatehouse
