import Gatehouse.CommandLine
import Gatehouse.Config.File
import Gatehouse.Config.Logging

/-!
The program: it reads the configuration that the command line names, with the secrets of the
environment, and says what is wrong with it or which gateway it describes.

Whatever is decided here is decided by `CommandLine.read` and `Config.load`.
-/

namespace Gatehouse.Program

/-- The content of a file, if it is there. -/
def content? (path : String) : IO (Option Bytes) := do
  try
    return some (← IO.FS.readBinFile path).toList
  catch
    | .noFileOrDirectory .. => return none
    | problem => throw problem

/-- The secrets in the environment. -/
def secrets : IO Config.Secrets := do
  return ⟨← IO.getEnv "GATEWAY_SIGN", ← IO.getEnv "GATEWAY_HMAC_SECRET"⟩

/-- Load the configuration and tell what it comes to. -/
def run (commandLine : CommandLine) : IO UInt32 := do
  let content ←
    try content? commandLine.config
    catch problem =>
      IO.eprintln ("Error: IO error: " ++ toString problem)
      return 1
  match Config.load content (← secrets) with
  | .error problem =>
    IO.eprintln ("Error: " ++ problem.message)
    return 1
  | .ok (config, missing) =>
    if missing then IO.eprintln "config file not found, using defaults"
    IO.println (if commandLine.check then "configuration is valid" else config.announcement)
    return 0

end Gatehouse.Program

def main (arguments : List String) : IO UInt32 := do
  match Gatehouse.CommandLine.read arguments with
  | .error misuse =>
    IO.eprint misuse.message
    return 2
  | .ok .help =>
    IO.print Gatehouse.CommandLine.help
    return 0
  | .ok .version =>
    IO.println "api-gateway 0.1.0"
    return 0
  | .ok (.run commandLine) => Gatehouse.Program.run commandLine
