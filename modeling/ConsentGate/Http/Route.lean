import ConsentGate.Http.Host
import ConsentGate.Http.Message

namespace ConsentGate.Http

inductive Route where
  | decision
  | vendorList
deriving DecidableEq

inductive Destination where
  | route (r : Route)
  | wrongMethod
  /-- The path is known without the slashes at its end. -/
  | elsewhere (path : String)
  | nowhere
deriving DecidableEq

namespace Route

def path : Route → String
  | decision => "/privacy/decision"
  | vendorList => "/privacy/vendor-list"

/-- A line feed at the end of a path makes no difference. -/
def ofPath? (path : String) : Option Route :=
  [decision, vendorList].find? fun r => path = r.path || path = r.path ++ "\n"

end Route

namespace Request

def withoutSlashes (path : String) : String := .ofList (trimEnd (· == '/') path.toList)

def destination (r : Request) : Destination :=
  match Route.ofPath? r.path with
  | some route => if r.method = "GET" then .route route else .wrongMethod
  | none =>
    let path := withoutSlashes r.path
    if path ≠ r.path && (Route.ofPath? path).isSome then .elsewhere path else .nowhere

/-- A request that names no host, or none that can be one, is for this host. -/
def host (r : Request) : String := ((r.header "host").filter Host.isWellFormed).getD "testserver"

def addressOf (r : Request) (path : String) : String :=
  let query := if r.query = "" then "" else "?" ++ r.query
  let address := "http://" ++ r.host ++ path ++ query
  .ofList (Percent.encodeAddress address.toList)

end Request

end ConsentGate.Http
