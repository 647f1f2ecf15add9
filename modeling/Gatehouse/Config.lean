import Gatehouse.Acl
import Gatehouse.Address.Reader

/-!
# The gateway's configuration

A draft is what a configuration says; a configuration is a draft that was found valid. What is
checked is in the type of the result, so nothing that uses a configuration has to check again.
-/

namespace Gatehouse

/-- Where the access rules come from. -/
inductive RuleSource where
  /-- A JSON file. -/
  | file (path : String)
  /-- The configuration itself. -/
  | inline (rules : RawRules)
  deriving DecidableEq

/-- The path of the file, if the rules come from one. -/
def RuleSource.path? : RuleSource → Option String
  | .file path => some path
  | .inline _ => none

/-- The rules, if the configuration itself has them. -/
def RuleSource.rules? : RuleSource → Option RawRules
  | .file _ => none
  | .inline rules => some rules

/-- The settings that a configuration file gives. -/
structure Config.Draft where
  version : Nat
  listen : String
  subscriberQueue : Nat
  maxInterval : Nat
  rulesPath : Option String
  rules : Option RawRules
  deriving DecidableEq

/-- A valid configuration. -/
structure Config where
  /-- The address to listen on, as it was written. -/
  listenText : String
  /-- The address to listen on. -/
  listen : Address
  /-- How many events wait for a logging subscriber. -/
  subscriberQueue : Nat
  queue_pos : 1 ≤ subscriberQueue
  queue_le : subscriberQueue ≤ 65536
  /-- The longest period of a statistics stream in seconds. -/
  maxInterval : Nat
  interval_pos : 1 ≤ maxInterval
  interval_le : maxInterval ≤ 86400
  /-- Where the access rules come from. -/
  source : RuleSource
  deriving DecidableEq

namespace Config

/-- The supported version of configurations. -/
def supportedVersion : Nat := 1

/-- The address to listen on when none is given. -/
def defaultListen : String := "127.0.0.1:8082"

/-- The depth of queues when none is given. -/
def defaultQueue : Nat := 256

/-- The longest period when none is given. -/
def defaultMaxInterval : Nat := 3600

/-- What is wrong with a draft. -/
inductive Invalid where
  | version
  | listen
  | subscriberQueue
  | maxInterval
  /-- There are two sources of rules. -/
  | twoSources
  /-- There is no source of rules. -/
  | noSource
  deriving DecidableEq, Repr

/-- The fault that an invalid draft becomes. -/
def Invalid.fault : Invalid → Fault
  | .version => .unsupportedVersion
  | .listen =>
    .config "gateway.listen must be a valid SocketAddr: invalid socket address syntax"
  | .subscriberQueue => .config "gateway.subscriber_queue must be between 1 and 65536"
  | .maxInterval => .config "gateway.max_stats_interval_secs must be between 1 and 86400"
  | .twoSources => .config "acl.path and acl.rules are mutually exclusive"
  | .noSource => .config "acl requires either path or rules"

/-- The address that a text names. -/
def addressOf (text : String) : Except Invalid Address :=
  match Address.read? text with
  | some address => .ok address
  | none => .error .listen

/-- The one source of rules, of a path and of rules that may be given. -/
def sourceOf (path : Option String) (rules : Option RawRules) : Except Invalid RuleSource :=
  match path, rules with
  | some _, some _ => .error .twoSources
  | none, none => .error .noSource
  | some path, none => .ok (.file path)
  | none, some rules => .ok (.inline rules)

/-- Checks a draft: its version, its address, its two numbers and its source of rules. -/
def Draft.check (d : Draft) : Except Invalid Config :=
  if d.version ≠ supportedVersion then .error .version
  else
    match addressOf d.listen with
    | .error e => .error e
    | .ok listen =>
      if hq : 1 ≤ d.subscriberQueue ∧ d.subscriberQueue ≤ 65536 then
        if hi : 1 ≤ d.maxInterval ∧ d.maxInterval ≤ 86400 then
          match sourceOf d.rulesPath d.rules with
          | .error e => .error e
          | .ok source =>
            .ok ⟨d.listen, listen, d.subscriberQueue, hq.1, hq.2, d.maxInterval, hi.1, hi.2,
              source⟩
        else .error .maxInterval
      else .error .subscriberQueue

end Config

end Gatehouse
