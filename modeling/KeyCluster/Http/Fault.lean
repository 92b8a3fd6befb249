import KeyCluster.Json.Fault

/-! How talking to a server fails. -/

namespace KeyCluster

/-- What is wrong with the body of a status answer. -/
inductive BodyFault where
  | json (fault : Json.Fault)
  | value (fault : ValueFault)

/-- What a message says about a body. -/
def BodyFault.message : BodyFault → Text
  | json fault => fault.message
  | value fault => fault.message

/-- Why a server cannot be talked to. -/
inductive ApiFault where
  | rejected (status : Int) (method path host body : Text)
  | malformed (status : Int) (body : Text) (fault : BodyFault)
  | unanswered (host reason : Text)

namespace ApiFault

/-- What a message says about a fault. -/
def message : ApiFault → Text
  | rejected status method path host body => "HTTP " ++ Value.intText status ++ " on " ++ method ++ " "
      ++ path ++ " at " ++ host ++ ": " ++ body
  | malformed _ _ fault => "Malformed cluster status response: " ++ fault.message
  | unanswered host reason => "Request to " ++ host ++ " failed: " ++ reason

/-- The status of the answer, if there was one. -/
def status? : ApiFault → Option Int
  | rejected status _ _ _ _ => some status
  | malformed status _ _ => some status
  | unanswered _ _ => none

/-- The body of the answer, if there was one. -/
def body? : ApiFault → Option Text
  | rejected _ _ _ _ body => some body
  | malformed _ body _ => some body
  | unanswered _ _ => none

/-- The host that the fault is laid to, if it is laid to one. -/
def host? : ApiFault → Option Text
  | rejected _ _ _ host _ => some host
  | malformed _ _ _ => none
  | unanswered host _ => some host

end ApiFault

end KeyCluster
