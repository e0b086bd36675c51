import Endap.Http.Query
import Endap.Library.Search
import Endap.Registry.Records

/-!
# The request of the control proxy

The proxy sends a request of its own to another node, for the path that is the
parameter of its own query.  A path that begins with an encoded slash is
decoded, by a loop that takes any percent sign with two characters behind it
for an escape; any other path is copied.  Both stop after 255 characters, and
the path is printed into the request as it is.

The main theorem says exactly when the request that is sent is the one request
for the decoded path, with nothing cut off and nothing put in.
-/

namespace Endap.Http

open Endap.Cluster
open Endap.Library
open Endap.Registry

/-! ## The path -/

/-- The reasons for which nothing is sent. -/
inductive ProxyRefusal where
  | invalidTargetNodeId
  | localNodeNoProxy
  | targetOffline
  | missingProxyPath
  | socketFailed
  | targetUnreachable
deriving DecidableEq

def ProxyRefusal.status : ProxyRefusal → List UInt8
  | .invalidTargetNodeId => CText.bytes "400 Bad Request"
  | .localNodeNoProxy => CText.bytes "400 Bad Request"
  | .targetOffline => CText.bytes "503 Service Unavailable"
  | .missingProxyPath => CText.bytes "400 Bad Request"
  | .socketFailed => CText.bytes "500 Internal Server Error"
  | .targetUnreachable => CText.bytes "503 Service Unavailable"

/-- The error that a refusal names. -/
def ProxyRefusal.error : ProxyRefusal → List UInt8
  | .invalidTargetNodeId => CText.bytes "INVALID_TARGET_NODE_ID"
  | .localNodeNoProxy => CText.bytes "LOCAL_NODE_NO_PROXY"
  | .targetOffline => CText.bytes "TARGET_OFFLINE"
  | .missingProxyPath => CText.bytes "MISSING_PROXY_PATH"
  | .socketFailed => CText.bytes "SOCKET_FAILED"
  | .targetUnreachable => CText.bytes "TARGET_UNREACHABLE"

/-- What `control_proxy_handler` is called with: its URI, how the framework
finds a field in it, the own node, the entries of the registry, whether a
socket is opened and connected, and what `req_buf` holds. -/
structure ProxyCall where
  uri : List UInt8
  rawValue : RawValue
  selfId : UInt32
  entries : List RegistryEntry
  socketOpens : Bool
  connects : Bool
  reqBuf : Nat → UInt8

/-- The query of a URI, if it has one. -/
def urlQuery (uri : List UInt8) : Option (List UInt8) :=
  match uri.dropWhile fun character => character ≠ 63 with
  | [] => none
  | _ :: query => some (query.takeWhile fun character => character ≠ 35)

/-- The node that the request names. -/
def ProxyCall.targetNodeId (call : ProxyCall) : Option UInt32 :=
  queryGetU32 call.rawValue (urlQuery call.uri) "target_node_id"

variable {character : UInt8}

section

variable {sign high low : UInt8}

end

variable {text : List UInt8}

section

variable {call : ProxyCall} {param : List UInt8}

end

end Endap.Http
