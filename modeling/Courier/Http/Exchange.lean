import Courier.Http.Response
import Courier.Http.Url
import Courier.Journal
import Courier.Run.Link
import Courier.Text.Base64

/-!
# Exchanges

A call over HTTP is one request on one connection.  A request that cannot be built is an error and
is never sent.  One that is sent has a reply whatever happens: the status and the body of a whole
answer, redirections included, and a transport failure for anything less.
-/

namespace Courier

namespace Http

/-- Why a request cannot be built. -/
inductive Refusal where
  | url (target : String) (defect : Url.Defect)
  | address (url : Url)
  | field

def Refusal.problem : Refusal → Problem
  | .url target defect => .settings ("invalid target url '" ++ target ++ "': " ++ defect.message)
  | .address place => .internal ("build request: builder error for url (" ++ place.text ++ ")")
  | .field => .internal "build request: builder error"

/-- A request as it is sent; the names of its fields are in lower case. -/
structure Outgoing where
  url : Url
  fields : List (String × String)
  body : Bytes
  deriving DecidableEq

namespace Outgoing

def line (out : Outgoing) : String := "POST " ++ String.ofList out.url.target ++ " HTTP/1.1"

/-- The bytes on the wire. -/
def bytes (out : Outgoing) : Bytes :=
  let fields := out.fields.flatMap fun (name, value) ↦ Utf8.encode (name ++ ": " ++ value ++ "\r\n")
  Utf8.encode (out.line ++ "\r\n") ++ fields ++ Utf8.encode "\r\n" ++ out.body

end Outgoing

/-- The product and version that requests name. -/
def agent : String := "relay/0.1.0"

def longestUrl : Nat := 65534

def validField (name value : String) : Bool :=
  validName (Utf8.encode name) && validValue (Utf8.encode value)

/-- Whether a request can be sent to the address. -/
def isReachable (url : Url) : Bool :=
  (url.scheme = "http".toList || url.scheme = "https".toList) &&
    !url.hostText.any (fun c ↦ "\"`\x7b\x7d".toList.contains c) &&
    (Utf8.encode url.text).length ≤ longestUrl

/-- The text behind the percent signs, if it is one. -/
def decoded? (cs : List Char) : Option String := Utf8.decode? (Percent.decode (Utf8.encodeChars cs))

/-- The user and the password of an address, which are sent as a field.  A user that is no text keeps
both from being sent, and a password that is no text counts as none. -/
def credentials? (url : Url) : Option String := do
  let user ← decoded? url.user
  let password := url.password.bind decoded?
  if user.isEmpty ∧ password.isNone then none
  else
    let both := user ++ ":" ++ password.getD ""
    some ("Basic " ++ String.ofList (Base64.encode (Utf8.encode both)))

def withoutCredentials (url : Url) : Url := { url with user := [], password := none }

/-- The fields with one more unless the name is there already. -/
def withDefault (name value : String) (fields : List (String × String)) : List (String × String) :=
  if fields.any fun field ↦ field.1 = name then fields else fields ++ [(name, value)]

def lowerName (name : String) : String := String.ofList (name.toList.map Char.toLower)

/-- The fields of a request: the given ones, and those that every request has. -/
def fieldsOf (url : Url) (credentials : Option String) (request : Request) :
    List (String × String) :=
  let given := request.headers.map fun (name, value) ↦ (lowerName name, value)
  let given := (credentials.map fun value ↦ ("authorization", value)).toList ++ given
  let given := withDefault "accept" "*/*" given
  let given := withDefault "user-agent" agent given
  let given := withDefault "host" (String.ofList url.hostText) given
  if request.body.isEmpty then given
  else withDefault "content-length" (toString request.body.length) given

/-- The request as it is sent. -/
def prepare (request : Request) : Except Refusal Outgoing :=
  match Url.read request.target.toList with
  | .error defect => .error (.url request.target defect)
  | .ok url =>
    if !url.hasServer then .error (.address url)
    else if !request.headers.all fun (name, value) ↦ validField name value then .error .field
    else
      let credentials := credentials? url
      let url := if credentials.isSome then withoutCredentials url else url
      if isReachable url then .ok ⟨url, fieldsOf url credentials request, request.body⟩
      else .error (.address url)

/-- The failure of a call that has no answer. -/
def unanswered (url : Url) : Reply :=
  .transportFailure ("error sending request for url (" ++ url.text ++ ")")

/-- The reply for what the server sent. -/
def replyOf (url : Url) : Response → Reply
  | .noHead => unanswered url
  | .cutShort _ => .transportFailure "read body: error decoding response body"
  | .whole status body => Reply.ofStatus status body

/-- What is logged about an answer. -/
def entryOf : Response → List Entry
  | .whole status body => [.linkAnswered status (Utf8.lossy body)]
  | _ => []

/-! ## Servers -/

/-- A server at an address that gives each connection the next of its answers, and listens no more
after the last. -/
structure Server where
  address : List Char
  answers : List Bytes
  received : List Outgoing

namespace Server

/-- Whether a request goes to the server. -/
def isAt (server : Server) (url : Url) : Bool :=
  url.scheme = "http".toList && url.hostText = server.address

/-- What the client sees of its connection. -/
def connect (server : Server) (out : Outgoing) : Response × Server :=
  match server.answers with
  | [] => (.noHead, server)
  | bytes :: rest =>
    if server.isAt out.url then
      (Response.read bytes, { server with answers := rest, received := server.received ++ [out] })
    else (.noHead, server)

/-- One call of the server, with what is logged about it. -/
def call (request : Request) (server : Server) : Except Refusal Reply × List Entry × Server :=
  match prepare request with
  | .error refusal => (.error refusal, [], server)
  | .ok out =>
    let (response, server) := server.connect out
    (.ok (replyOf out.url response), entryOf response, server)

/-- Calls of the server that take no time. -/
def link : Link Server := fun request server ↦
  let (answer, _, server) := server.call request
  (⟨answer.mapError fun refusal ↦ refusal.problem.message, 0⟩, server)

end Server

end Http

end Courier
