import KeyCluster.Value.Convert

/-! Endpoints of servers, and the host names that identify them. -/

namespace KeyCluster.Endpoint

/-- The scheme that an endpoint may carry before its host. -/
def scheme : Text :=
  "https://"

/-- A text without the scheme that it begins with. -/
def dropScheme (text : Text) : Text :=
  if scheme.isPrefixOf text then text.drop scheme.length else text

/-- A text without the slashes that it ends with. -/
def dropSlashes (text : Text) : Text :=
  (text.reverse.dropWhile (· == .char '/')).reverse

/-- The host of an endpoint: one scheme and all closing slashes are dropped. -/
def host (endpoint : Text) : Text :=
  dropSlashes (dropScheme endpoint)

/-- The host that a value names; only texts name one. -/
def hostOf : Value → Except ValueFault Text
  | .text endpoint => .ok (host endpoint)
  | .bytes _ => .error .bytePrefix
  | v => .error (.noMember v.kind "startswith")

end KeyCluster.Endpoint
