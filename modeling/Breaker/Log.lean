import Breaker.Event
import Breaker.Policy.ConfigError
import Breaker.Time.Text

/-!
# Log entries

Every entry has a level, a fixed message and fields in a fixed order.
-/

namespace Breaker

inductive LogLevel where
  | trace
  | debug
  | info
  | warn
  deriving DecidableEq

def LogLevel.name : LogLevel → String
  | trace => "TRACE"
  | debug => "DEBUG"
  | info => "INFO"
  | warn => "WARN"

inductive LogEntry where
  | permitted (circuit : String) (state : State)
  | rejected (circuit : String) (remaining : Duration)
  | transition (circuit : String) (source target : State)
  | standardPolicy (circuit : String)
  | bound (circuit : String) (took : Bool)
  | undeclared (circuit : String)
  | dispatching (circuit : String) (state : State)
  | alreadyKnown (circuit : String)
  | configured (circuit : String) (policy : Policy)
  | skipped (error : ConfigError)
  | listenerPanicked (circuit : String) (type : EventType)
  deriving DecidableEq

namespace LogEntry

def level : LogEntry → LogLevel
  | permitted .. | rejected .. | dispatching .. => .trace
  | bound .. | undeclared _ => .debug
  | transition .. | standardPolicy _ | configured .. => .info
  | alreadyKnown _ | skipped _ | listenerPanicked .. => .warn

def message : LogEntry → String
  | permitted .. => "circuit permitted call"
  | rejected .. => "circuit rejected call"
  | transition .. => "circuit state transition"
  | standardPolicy _ => "using default circuit policy"
  | bound .. => "bound classification rule"
  | undeclared _ => "first invocation without a declaration"
  | dispatching .. => "dispatching through circuit"
  | alreadyKnown _ => "circuit already exists; keeping its current policy"
  | configured .. => "configured circuit"
  | skipped _ => "skipping circuit configuration entry"
  | listenerPanicked .. => "circuit event listener panicked"

def fields : LogEntry → List (String × String)
  | permitted circuit state => [("circuit", circuit), ("state", state.name)]
  | rejected circuit remaining => [("circuit", circuit), ("remaining", remaining.text)]
  | transition circuit source target =>
    [("circuit", circuit), ("from", source.name), ("to", target.name)]
  | standardPolicy circuit => [("circuit", circuit)]
  | bound circuit took => [("circuit", circuit), ("bound", if took then "true" else "false")]
  | undeclared circuit => [("circuit", circuit)]
  | dispatching circuit state => [("circuit", circuit), ("state", state.name)]
  | alreadyKnown circuit => [("circuit", circuit)]
  | configured circuit policy =>
    [("circuit", circuit), ("frequency", toString policy.threshold),
      ("period", Inspect.option (policy.window.map Duration.text)),
      ("reset", policy.resetTimeout.text)]
  | skipped error => [("error", error.message)]
  | listenerPanicked circuit type => [("circuit", circuit), ("event", type.name)]

end LogEntry

end Breaker
