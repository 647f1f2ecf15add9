import Gatehouse.Config.Load
import Gatehouse.Gateway
import Gatehouse.Yaml.Document

/-!
# Command line

The command takes the path of a configuration. It loads the configuration and its access list as
a gateway does before it starts, and reports either the fault, with exit code one, or the
address, the number of consumers and the rules that nothing serves.
-/

namespace Gatehouse.Command

/-- The configuration that is loaded when no path is given. -/
def defaultPath : String := "aclgate.yaml"

/-- The text of a file. -/
def readText (path : String) : IO (Except ReadError String) := do
  try
    return Files.decode (← IO.FS.readBinFile path)
  catch
    | .noFileOrDirectory _ _ _ => return .error .notFound
    | e => return .error (.other (toString e))

/-- One line of the log. -/
def line (level : Level) (message : String) (fields : List (String × String)) : String :=
  " ".intercalate (level.name :: message :: fields.map fun f => f.1 ++ "=" ++ f.2)

/-- Writes an entry to the log. -/
def log : LogEntry → IO Unit
  | .event level message fields => IO.println (line level message fields)
  | .span name fields => IO.println (line .info name fields)

/-- Reports the fault that keeps a gateway from starting. -/
def fail (path : String) (fault : Fault) : IO UInt32 := do
  IO.eprintln ("ERROR aclgate-gateway failed error=" ++ fault.message ++ " config=" ++ path)
  return 1

/-- Reports a gateway that is ready to start. -/
def report (config : Config) (acl : Acl) : IO UInt32 := do
  for note in (Gateway.ofConfig config acl).warnings do
    log note.entry
  log (.event .info "aclgate-gateway configured"
    [("listen", config.listen.text), ("consumers", Text.decimal acl.consumers)])
  return 0

/-- The access list that a configuration names. -/
def readAcl (config : Config) : IO (Except Fault Acl) := do
  match config.aclSource with
  | .error fault => return .error fault
  | .ok (.file path) => return Config.aclOfRead path (← readText path)
  | .ok (.inline rules) => return Acl.compile rules

/-- Loads the configuration at a path and its access list, and reports what came of it. -/
def run (path : String) : IO UInt32 := do
  match Config.ofRead Yaml.Document.read path (← readText path) with
  | .error fault => fail path fault
  | .ok config =>
    match ← readAcl config with
    | .error fault => fail path fault
    | .ok acl => report config acl

end Gatehouse.Command

/-- Loads the configuration that the first argument names. -/
def main (args : List String) : IO UInt32 :=
  Gatehouse.Command.run (args.head?.getD Gatehouse.Command.defaultPath)
