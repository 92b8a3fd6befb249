import KeyCluster.Value.Text

/-! What can be wrong with a configuration. -/

namespace KeyCluster

/-- Why a configuration is not accepted. -/
inductive ConfigFault where
  | notFound (path : Text)
  | malformed (path reason : Text)
  | notMapping
  | unset (name : Text)
  /-- The text given as the time limit of requests is no number. -/
  | timeoutText (text : Text)
  | noEndpoints
  /-- One of the endpoints is no text or is blank; a literal shows it. -/
  | endpoint (shown : Text)
  | timeout
  /-- A client certificate is configured without its key. -/
  | keyRequired
  | logFormat
  | authorityFile (path : Text)
  /-- A client certificate comes without its key. -/
  | certificateAlone
  | credentialFile (path : Text)

/-- What a message says about a fault. -/
def ConfigFault.message : ConfigFault → Text
  | notFound path => "Configuration file not found: " ++ path
  | malformed path reason => "Invalid YAML in " ++ path ++ ": " ++ reason
  | notMapping => "Configuration file must be a YAML mapping"
  | unset name => "Environment variable '" ++ name ++ "' is not set"
  | timeoutText text => "server.timeout is not a number: " ++ Quoted.quote text
  | noEndpoints => "server.endpoints must be a non-empty list"
  | endpoint shown => "server.endpoints contains an invalid entry: " ++ shown
  | timeout => "server.timeout must be a positive number"
  | keyRequired => "server.tls.client_key is required when client_cert is set"
  | logFormat => "logging.format must be 'json' or 'text'"
  | authorityFile path => "CA file not found: " ++ path
  | certificateAlone => "A client certificate requires a client key"
  | credentialFile path => "TLS file not found: " ++ path

end KeyCluster
