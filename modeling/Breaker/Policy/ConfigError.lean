import Breaker.Policy
import Breaker.Text.Inspect
import Breaker.Text.Quoted

/-!
# Errors of configuration

What can be wrong with a policy or with one of the properties it is read from.
-/

namespace Breaker

/-- The numbers given for one circuit so far. -/
structure Settings where
  frequency : Option Int := none
  period : Option Int := none
  reset : Option Int := none
  deriving DecidableEq

inductive ConfigError where
  | invalidNumber (key value : String)
  | unknownProperty (key : String)
  | malformedKey (key : String)
  | incomplete (name : String) (settings : Settings)
  | invalidPolicy (error : PolicyError)
  deriving DecidableEq

namespace ConfigError

def numberText (n : Option Int) : String := Inspect.option (n.map toString)

def message : ConfigError → String
  | invalidNumber key value => "invalid number for '" ++ key ++ "': " ++ Text.quote value
  | unknownProperty key => "unrecognized property: " ++ key
  | malformedKey key => "malformed circuit key: " ++ key
  | incomplete name s =>
    "circuit '" ++ name ++ "' is not fully configured (frequency: " ++ numberText s.frequency
      ++ ", period: " ++ numberText s.period ++ ", reset: " ++ numberText s.reset ++ ")"
  | invalidPolicy error => "invalid circuit policy: " ++ error.message

end ConfigError

end Breaker
