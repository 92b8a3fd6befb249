import KeyCluster.Config.Fault
import KeyCluster.Http.Fault
import KeyCluster.Log.Fault
import KeyCluster.Text.Utf8

/-! Everything that can go wrong, from a wrong value to an unreachable server. -/

namespace KeyCluster

/-- The answer that a failure speaks of, as far as it is known. -/
structure Details where
  status : Option Int := none
  body : Option Text := none
  /-- The host that gave the answer or should have given it. -/
  host : Option Text := none

/-- Why an action fails. -/
inductive Failure where
  | config (fault : ConfigFault)
  | api (fault : ApiFault)
  | cancelled
  | deadline
  | noHosts
  /-- A value was used as something that it is not. -/
  | value (fault : ValueFault)
  | log (fault : LogFault)
  | encoding (breach : Utf8.Breach)
  | nameTooLong (path : Text)
  /-- A value is nested too deeply, or without end. -/
  | tooDeep
  | tooDeepBody (container : Json.Container)
  /-- A failure that arose outside, with its own words. -/
  | reported (kind : FailureKind) (text : Text) (details : Details)

namespace Failure

/-- The kind of a failure. -/
def kind : Failure → FailureKind
  | config _ => .config
  | api _ => .api
  | cancelled => .cancelled
  | deadline => .deadline
  | noHosts => .badValue
  | value fault => fault.kind
  | log fault => fault.kind
  | encoding _ => .badEncoding
  | nameTooLong _ => .system
  | tooDeep | tooDeepBody _ => .tooDeep
  | reported kind _ _ => kind

/-- What a message says about bytes that are not text. -/
def encodingMessage (breach : Utf8.Breach) : Text :=
  let place := Value.intText breach.offset
  let bytes : Text :=
    if breach.width == 1 then
      "byte 0x" ++ Text.ofChars (Digit.hexText 2 breach.byte.toNat) ++ " in position " ++ place
    else "bytes in position " ++ place ++ "-" ++ Value.intText (breach.offset + breach.width - 1 : Nat)
  let reason : Text := match breach.defect with
    | .start => "invalid start byte"
    | .continuation => "invalid continuation byte"
    | .ending => "unexpected end of data"
  "'utf-8' codec can't decode " ++ bytes ++ ": " ++ reason

/-- What a message says about a failure. -/
def message : Failure → Text
  | config fault => fault.message
  | api fault => fault.message
  | cancelled => "Operation cancelled"
  | deadline => "Deadline exceeded"
  | noHosts => "At least one host is required"
  | value fault => fault.message
  | log fault => fault.message
  | encoding breach => encodingMessage breach
  | nameTooLong path => "[Errno 36] File name too long: " ++ Quoted.quote path
  | tooDeep => "maximum recursion depth exceeded"
  | tooDeepBody container => container.depthMessage
  -- The words of a missing key are the key itself, so they are shown as a literal.
  | reported .missingKey text _ => Quoted.quote text
  | reported _ text _ => text

/-- What a failure to talk to a server knows about the answer. -/
def details : Failure → Details
  | api fault => { status := fault.status?, body := fault.body?, host := fault.host? }
  | reported _ _ details => details
  | _ => {}

end Failure

end KeyCluster
