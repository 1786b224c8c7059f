import Courier.Event

/-!
# Requests

A call posts JSON to the echo path of the link address.  Header names are kept in byte order, each
once.
-/

namespace Courier

structure Request where
  target : String
  body : Bytes
  headers : List (String × String)
  deriving DecidableEq

namespace Request

/-- Sets a header, replacing one of the same name. -/
def setHeader (name value : String) : List (String × String) → List (String × String)
  | [] => [(name, value)]
  | (n, v) :: rest =>
    if name < n then (name, value) :: (n, v) :: rest
    else if name = n then (name, value) :: rest
    else (n, v) :: setHeader name value rest

/-- A request that carries JSON. -/
def json (target : String) (body : Bytes) : Request :=
  ⟨target, body, [("Content-Type", "application/json")]⟩

def withHeader (request : Request) (name value : String) : Request :=
  { request with headers := setHeader name value request.headers }

/-- The address without its trailing slashes. -/
def stripSlashes (cs : List Char) : List Char := (cs.reverse.dropWhile (· == '/')).reverse

/-- Where calls go for a link address. -/
def targetOf (address : String) : String :=
  String.ofList (stripSlashes address.toList) ++ "/link/echo"

/-- The request that sends an event's data on. -/
def ofEvent (target : String) (event : Event) : Request := json target event.body

end Request

end Courier
