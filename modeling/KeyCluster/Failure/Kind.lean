import KeyCluster.Failure.Foreign

/-! The kinds of failure, and which of them are caught together. -/

namespace KeyCluster

/-- The ways in which an exchange with a server breaks down before there is an answer. -/
inductive TransportKind where
  /-- Anything about the exchange. -/
  | exchange
  | connection
  | connectTimeout
  | secureChannel
  | proxy
  | readTimeout
  | timeout
  | httpStatus
  | tooManyRedirects
  | invalidUrl
  | missingSchema
  | invalidSchema
  | invalidHeader
  | invalidProxyUrl
  | chunkedEncoding
  | contentDecoding
  | streamConsumed
  | retry
  | unrewindableBody
  | urlRequired
  | invalidJson
  deriving DecidableEq, Repr

/-- The kinds of failure that a caller can tell apart. -/
inductive FailureKind where
  /-- Any failure of the cluster tooling itself. -/
  | cluster
  | config
  | api
  | cancelled
  | deadline
  | transport (kind : TransportKind)
  | noMember
  | wrongShape
  | badValue
  | missingKey
  | missingPlace
  | overflow
  | badEncoding
  | tooDeep
  | system
  | systemTimeout
  | connectionReset
  | runtime
  | interrupt
  /-- A kind that is only passed on. -/
  | foreign (kind : ForeignKind)
  deriving DecidableEq, Repr

namespace TransportKind

/-- The name under which a kind is reported. -/
def name : TransportKind → String
  | exchange => "RequestException"
  | connection => "ConnectionError"
  | connectTimeout => "ConnectTimeout"
  | secureChannel => "SSLError"
  | proxy => "ProxyError"
  | readTimeout => "ReadTimeout"
  | timeout => "Timeout"
  | httpStatus => "HTTPError"
  | tooManyRedirects => "TooManyRedirects"
  | invalidUrl => "InvalidURL"
  | missingSchema => "MissingSchema"
  | invalidSchema => "InvalidSchema"
  | invalidHeader => "InvalidHeader"
  | invalidProxyUrl => "InvalidProxyURL"
  | chunkedEncoding => "ChunkedEncodingError"
  | contentDecoding => "ContentDecodingError"
  | streamConsumed => "StreamConsumedError"
  | retry => "RetryError"
  | unrewindableBody => "UnrewindableBodyError"
  | urlRequired => "URLRequired"
  | invalidJson => "InvalidJSONError"

/-- Every kind of breakdown. -/
def all : List TransportKind :=
  [exchange, connection, connectTimeout, secureChannel, proxy, readTimeout, timeout, httpStatus,
    tooManyRedirects, invalidUrl, missingSchema, invalidSchema, invalidHeader, invalidProxyUrl,
    chunkedEncoding, contentDecoding, streamConsumed, retry, unrewindableBody, urlRequired, invalidJson]

/-- Whether the server was not reached at all, so that another one may be tried. -/
def isUnreachable : TransportKind → Bool
  | connection | connectTimeout | secureChannel | proxy => true
  | _ => false

/-- The names of the wider kinds that a kind belongs to, the narrowest first. -/
def wider : TransportKind → List String
  | exchange => ["OSError"]
  | connectTimeout => ["ConnectionError", "Timeout", "RequestException", "OSError"]
  | secureChannel | proxy => ["ConnectionError", "RequestException", "OSError"]
  | readTimeout => ["Timeout", "RequestException", "OSError"]
  | invalidUrl | missingSchema | invalidSchema | invalidHeader =>
    ["RequestException", "OSError", "ValueError"]
  | invalidProxyUrl => ["InvalidURL", "RequestException", "OSError", "ValueError"]
  | contentDecoding => ["RequestException", "OSError", "HTTPError"]
  | streamConsumed => ["RequestException", "OSError", "TypeError"]
  | _ => ["RequestException", "OSError"]

end TransportKind

namespace FailureKind

/-- The name under which a kind is reported. -/
def name : FailureKind → String
  | cluster => "KMSClusterError"
  | config => "ConfigError"
  | api => "KMSAPIError"
  | cancelled => "JoinCancelled"
  | deadline => "DeadlineExceeded"
  | transport kind => kind.name
  | noMember => "AttributeError"
  | wrongShape => "TypeError"
  | badValue => "ValueError"
  | missingKey => "KeyError"
  | missingPlace => "IndexError"
  | overflow => "OverflowError"
  | badEncoding => "UnicodeDecodeError"
  | tooDeep => "RecursionError"
  | system => "OSError"
  | systemTimeout => "TimeoutError"
  | connectionReset => "ConnectionResetError"
  | runtime => "RuntimeError"
  | interrupt => "KeyboardInterrupt"
  | foreign kind => kind.name

/-- The kinds that have a name of their own, apart from those of an exchange. -/
def named : List FailureKind :=
  [cluster, config, api, cancelled, deadline, noMember, wrongShape, badValue, missingKey, missingPlace,
    overflow, badEncoding, tooDeep, system, systemTimeout, connectionReset, runtime, interrupt]

/-- Second names of kinds. -/
def aliases : List (String × FailureKind) :=
  [("IOError", system), ("EnvironmentError", system), ("BaseHTTPError", foreign .transfer)]

/-- The kinds with each of their names. -/
def names : List (String × FailureKind) :=
  -- A name that two kinds share means the one of an exchange.
  TransportKind.all.map (fun kind => (kind.name, transport kind))
    ++ named.map (fun kind => (kind.name, kind))
    ++ ForeignKind.all.map (fun kind => (kind.name, foreign kind)) ++ aliases

/-- The kind with a name. A name that is not known here is that of a kind that is only passed on. -/
def ofName (name : String) : FailureKind :=
  (names.lookup name).getD (foreign { name })

/-- The place that a log names before the kinds that are not general ones. -/
def home : FailureKind → String
  | cluster | config | api | cancelled | deadline => "kms_cluster.exceptions."
  | transport _ => ForeignKind.exchangeHome
  | foreign kind => kind.home
  | _ => ""

/-- What a log says about a failure that has no words of its own. -/
def silence : FailureKind → String
  | foreign kind => kind.silence
  | _ => ""

/-- Whether a failure is one of the cluster tooling itself. -/
def isClusterFailure : FailureKind → Bool
  | cluster | config | api | cancelled | deadline => true
  | _ => false

/-- The names of the wider kinds that a kind belongs to, the narrowest first. -/
def wider : FailureKind → List String
  | config | api | cancelled => ["KMSClusterError"]
  | deadline => ["JoinCancelled", "KMSClusterError"]
  | transport kind => kind.wider
  | missingKey | missingPlace => ["LookupError"]
  | overflow => ["ArithmeticError"]
  | badEncoding => ["UnicodeError", "ValueError"]
  | tooDeep => ["RuntimeError"]
  | systemTimeout => ["OSError"]
  | connectionReset => ["ConnectionError", "OSError"]
  | foreign kind => kind.wider
  | _ => []

/-- Whether what catches all ordinary failures catches a kind. An interrupt is no ordinary failure. -/
def isOrdinary : FailureKind → Bool
  | interrupt => false
  | foreign kind => kind.ordinary
  | _ => true

/-- The names under which a failure can be caught, from its own to the one of everything. -/
def lineage (kind : FailureKind) : List String :=
  -- The widest kinds are their own, so each name is kept once.
  (kind.name :: kind.wider ++ (if kind.isOrdinary then ["Exception"] else []) ++ ["BaseException", "object"]).eraseDups

end FailureKind

end KeyCluster
