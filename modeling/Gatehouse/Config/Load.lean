import Gatehouse.Acl.Document
import Gatehouse.Config.Document
import Gatehouse.Files

/-!
# Loading configurations and access lists

A configuration comes from a file, and the access list that it names from the configuration
itself or from another file.
-/

namespace Gatehouse

namespace Config

/-- The configuration of a file that was or was not read. -/
def ofRead (read : String → Yaml.Document) (path : String) :
    Except ReadError String → Except Fault Config
  | .error e => .error (.config ("read config " ++ path ++ " failed: " ++ e.message))
  | .ok s => ofText read s

/-- The access list of a file that was or was not read. -/
def aclOfRead (path : String) : Except ReadError String → Except Fault Acl
  | .error e => .error (.config ("read acl " ++ path ++ " failed: " ++ e.message))
  | .ok s => Acl.ofJson s

/-- The fault of an access section whose source cannot be told. -/
def noSingleSource : Fault := .config "acl requires exactly one of path or rules"

/-- The source that an access list is loaded from. The path and the rules are checked here once
more, whatever was checked when the configuration was read. -/
def loadedSource (path : Option String) (rules : Option RawRules) : Except Fault RuleSource :=
  match sourceOf path rules with
  | .error e => .error e.fault
  | .ok _ =>
    match path, rules with
    | some path, none => .ok (.file path)
    | none, some rules => .ok (.inline rules)
    | _, _ => .error noSingleSource

/-- The source that the access list of a configuration is loaded from. -/
def aclSource (config : Config) : Except Fault RuleSource :=
  loadedSource config.source.path? config.source.rules?

/-- Loads a configuration. -/
def load (read : String → Yaml.Document) (files : Files) (path : String) : Except Fault Config :=
  ofRead read path (files.readText path)

/-- Loads the access list that a configuration names. -/
def loadAcl (files : Files) (config : Config) : Except Fault Acl :=
  match config.aclSource with
  | .error f => .error f
  | .ok (.file path) => aclOfRead path (files.readText path)
  | .ok (.inline rules) => Acl.compile rules

end Config

end Gatehouse
