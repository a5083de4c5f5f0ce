import ConsentGate.Http.Cookie
import ConsentGate.Signals

namespace ConsentGate.Http

structure Request where
  method : String := "GET"
  path : String
  query : String := ""
  headers : List (String × String) := []
  client : Option String := none

structure Reply where
  status : Nat
  headers : List (String × Text) := []
  body : Option Json := none

/-- A reply with a header that has a character past U+00FF cannot be sent. -/
def Reply.unsendable? (r : Reply) : Option WideRun :=
  r.headers.findSome? fun h => Latin1.wideRun? h.2

namespace Request

/-- The headers by their names in lower case; of a repeated one the first counts. -/
def headerMap (r : Request) : OrderedMap String String :=
  OrderedMap.ofPairs (r.headers.map fun (k, v) => (Case.lower k, v)).reverse

def header (r : Request) (name : String) : Option String := r.headerMap.lookup name

def cookies (r : Request) : Cookies :=
  .ofHeaders ((r.headers.filter fun h => Case.lower h.1 = "cookie").map (·.2))

def signals (r : Request) : Signals :=
  let text (p : String × String) : Text × Text := (p.1, p.2)
  .ofParts (r.headerMap.map text) (r.cookies.map text) (r.client.map Text.ofString)

def shownPath (r : Request) : String :=
  .ofList (r.path.toList.filter fun c => c != '\t' && c != '\n' && c != '\r')

end Request

end ConsentGate.Http
