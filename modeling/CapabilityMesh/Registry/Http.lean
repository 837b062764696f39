/-
The registry over HTTP.  The network is a function from requests to replies, with the
encodings of text that are known on the agent's side.  What an agent asks, how redirections
are followed, and what each reply means is decided here.
-/
import CapabilityMesh.Config.Settings
import CapabilityMesh.Log.Entry
import CapabilityMesh.Registry.Encoding
import CapabilityMesh.Registry.Probe
import CapabilityMesh.Registry.Reason
import CapabilityMesh.Wire.Declaration
import CapabilityMesh.Wire.Response

namespace CapabilityMesh

/-- The methods of the requests that an agent sends. -/
inductive HttpMethod where
  | get
  | head
  | post
  | delete
deriving Repr, DecidableEq

namespace HttpMethod

def name : HttpMethod → String
  | get => "GET"
  | head => "HEAD"
  | post => "POST"
  | delete => "DELETE"

end HttpMethod

/-- A request as the network receives it. -/
structure HttpRequest where
  method : HttpMethod
  url : Url
  contentType : Option String := none
  body : String := ""
deriving Repr, DecidableEq

/-- An answer of a server.  A body that breaks off is not complete. -/
structure HttpAnswer where
  status : Nat
  location : Option String := none
  contentType : Option String := none
  body : List UInt8 := []
  isComplete : Bool := true
deriving Repr, DecidableEq

/-- What the network brings back. -/
inductive HttpReply where
  /-- The request did not reach its server. -/
  | undelivered (reason : String)
  /-- The request reached its server, which gave no answer. -/
  | lost (reason : String)
  | answer (answer : HttpAnswer)
deriving Repr, DecidableEq

/-- What lies between an agent and the servers it asks. -/
structure Network where
  /-- The reply to a request of a call that has sent a number of requests before. -/
  reply : Nat → HttpRequest → HttpReply
  /-- The encoding of text that the content type of an answer names, if it is known. -/
  encoding? : String → Option Encoding

namespace Network

/-- The network that brings no request to its server. -/
def unreachable : Network where
  reply _ _ := .undelivered "unreachable"
  encoding? _ := none

def text (net : Network) (answer : HttpAnswer) : String :=
  Encoding.sniff ((answer.contentType.bind net.encoding?).getD .utf8) answer.body

end Network

/-- What came of a call over the network. -/
structure Exchange (α : Type) where
  /-- The requests that reached their server, in order. -/
  requests : List HttpRequest
  log : Log := []
  result : Except MeshError α

/-- The registry at a base address. -/
structure HttpRegistry where
  /-- The base address without slashes at its end. -/
  baseUrl : String
deriving Repr, DecidableEq

namespace HttpRegistry

def ofAddress (address : String) : HttpRegistry :=
  ⟨String.ofList (Text.dropEnd (· == '/') address.toList)⟩

def ofSettings (s : Settings) : HttpRegistry :=
  ofAddress s.registry.url

def redirect? (request : HttpRequest) (answer : HttpAnswer) : Option HttpRequest := do
  let location ← answer.location
  let url ← (request.url.join location).toOption
  match answer.status with
  | 301 | 302 | 303 =>
      match request.method with
      | .head => some { request with url := url, body := "", contentType := none }
      | _ => some ⟨.get, url, none, ""⟩
  | 307 | 308 => some { request with url := url }
  | _ => none

/-- Send a request and follow at most as many redirections as the fuel allows. -/
def follow (net : Network) : Nat → Nat → HttpRequest → Exchange HttpAnswer
  | fuel, sent, request =>
      if !request.url.isWeb then ⟨[], [], .error (.transport "unsupported scheme")⟩
      else
        match net.reply sent request with
        | .undelivered reason => ⟨[], [], .error (.transport reason)⟩
        | .lost reason => ⟨[request], [], .error (.transport reason)⟩
        | .answer answer =>
            match redirect? request answer with
            | none => ⟨[request], [], .ok answer⟩
            | some next =>
                match fuel with
                | 0 => ⟨[request], [], .error (.transport "too many redirects")⟩
                | fuel + 1 =>
                    let rest := follow net fuel (sent + 1) next
                    { rest with requests := request :: rest.requests }

def send (r : HttpRegistry) (net : Network) (method : HttpMethod) (path : String)
    (contentType : Option String) (body : String) : Exchange HttpAnswer :=
  match Url.parse (r.baseUrl ++ path) with
  | .error fault => ⟨[], [], .error (.transport fault.message)⟩
  | .ok url => follow net 10 0 ⟨method, url, contentType, body⟩

/-- The part of a body that an error message shows. -/
def excerpt (body : String) : String :=
  String.ofList (body.toList.take 256)

def isServerError (status : Nat) : Bool :=
  500 ≤ status && status < 600

def isSuccess (status : Nat) : Bool :=
  200 ≤ status && status < 300

def readDeclarationAnswer (net : Network) (answer : HttpAnswer) :
    Except MeshError RegistrationResponse :=
  if !answer.isComplete then .error (.transport "incomplete body")
  else
    let body := net.text answer
    if isServerError answer.status then .error (.registry answer.status (excerpt body))
    else if !isSuccess answer.status then .error (.unexpectedStatus answer.status)
    else RegistrationResponse.parse body

/-- The line logged about the answer to a declaration that was read to its end. -/
def noteAnswer (path : String) (answer : HttpAnswer) : Log :=
  if answer.isComplete then
    [.debug ("[REGISTRY] POST " ++ path ++ " -> " ++ StatusCode.render answer.status)]
  else []

def postDeclaration (r : HttpRegistry) (net : Network) (path : String)
    (request : RegistrationRequest) : Exchange RegistrationResponse :=
  let sent := r.send net .post path (some "application/json") request.toJson
  { requests := sent.requests
    log := match sent.result with
      | .ok answer => noteAnswer path answer
      | .error _ => []
    result := sent.result.bind (readDeclarationAnswer net) }

def register (r : HttpRegistry) (net : Network) (request : RegistrationRequest) :
    Exchange RegistrationResponse :=
  r.postDeclaration net "/agents/register_decorators" request

/-- Declare everything again and ask for bindings. -/
def heartbeat (r : HttpRegistry) (net : Network) (request : RegistrationRequest) :
    Exchange RegistrationResponse :=
  r.postDeclaration net "/heartbeat_decorators" request

/-- Ask where the agent stands.  A call that fails is an answer too. -/
def probe (r : HttpRegistry) (net : Network) (agentId : String) : Exchange ProbeReply :=
  let sent := r.send net .head ("/heartbeat/" ++ agentId) none ""
  { requests := sent.requests
    result := .ok (match sent.result with
      | .ok answer => .status answer.status
      | .error failure => .failed failure.message) }

/-- What the answer to a removal means.  An agent that the registry does not know
counts as removed. -/
def readRemovalAnswer (net : Network) (answer : HttpAnswer) : Except MeshError Unit :=
  if isSuccess answer.status || answer.status == 404 then .ok ()
  else if isServerError answer.status then
    let body := if answer.isComplete then net.text answer else ""
    .error (.registry answer.status (excerpt body))
  else .error (.unexpectedStatus answer.status)

def unregister (r : HttpRegistry) (net : Network) (agentId : String) : Exchange Unit :=
  let sent := r.send net .delete ("/agents/" ++ agentId) none ""
  { requests := sent.requests
    result := sent.result.bind (readRemovalAnswer net) }

end HttpRegistry

end CapabilityMesh
