import LayerCode.Cache
import LayerCode.Compile
import LayerCode.Publish.Manifest
import LayerCode.Service.Query
import LayerCode.Snapshot.Read

/-!
# The code generation service

A request brings a snapshot and names a target; the answer is the code. Results are remembered, so
the same snapshot is worked on once for each target, and the manifest of a new result is handed to
a sink. Failing to hand it over changes no answer.

* `Request`, `Response`, `Sink`;
* `Server`, `ServerState`: what a server is set up with, and what it remembers;
* `Server.compile`: the answer to a request for code;
* `Server.handle`: the answer to any request.
-/

namespace LayerCode

open Text

/-- A request. -/
structure Request where
  method : String
  path : String
  query : String
  /-- The body, or the text of the failure to read it. -/
  body : Except String (List UInt8)
  /-- The client has gone away before the request has its turn. -/
  canceled : Bool
  /-- The client goes away while the request has its turn, before its graph is worked on. -/
  leaves : Bool := false

/-- What an answer brings. -/
inductive Body where
  | text (s : String)
  | item (bytes : List UInt8)
  /-- The counters, in a format of their own. -/
  | metrics
deriving DecidableEq, Repr

/-- An answer. -/
structure Response where
  status : Nat
  contentType : String
  body : Body
deriving DecidableEq, Repr

/-- Takes manifests, with a state of its own: the state after, the events it logged, and the text of
its failure, if there is one. -/
abbrev Sink (π : Type) := π → Record → π × List LogEvent × Option String

/-- What a server is set up with. -/
structure Server (π : Type) where
  defaultBackend : String
  /-- How many graphs may be worked on at once. -/
  slots : Int64
  sink : Option (Sink π)

/-- What a server remembers. -/
structure ServerState (π : Type) where
  cache : Cache := {}
  sink : π

/-- The answer to a request, and what it left behind. -/
structure Answer (π : Type) where
  state : ServerState π
  response : Response
  journal : Journal := {}

namespace Response

/-- An answer with the text of a failure. -/
def failure (status : Nat) (text : String) : Response :=
  ⟨status, "text/plain; charset=utf-8", .text (text ++ "\n")⟩

/-- An answer with code. -/
def code (r : Result) : Response := ⟨200, "application/cbor", .item r.bytes⟩

end Response

namespace Server

variable {π : Type}

/-- The largest body of a request. -/
def maxBody : Nat := 268435456

/-- The target that a request names, else the default one. -/
def target (s : Server π) (query : String) : Except Target.Unknown Target :=
  let name := Service.Query.first query "backend"
  Target.lookup (if name.bytes.isEmpty then .ofString s.defaultBackend else name)

/-- The body of a request, if it can be read and is not too large. -/
def readBody (r : Request) : Except String (List UInt8) :=
  match r.body with
  | .error text => .error text
  | .ok body => if maxBody < body.length then .error "http: request body too large" else .ok body

/-- Hands the manifest of a result to the sink. -/
def publish (s : Server π) (state : π) (r : Result) : π × List LogEvent :=
  match s.sink, Record.ofResult? r with
  | some sink, some record =>
    match sink state record with
    | (after, events, none) => (after, events)
    | (after, events, some text) => (after, events ++ [.publishFailed text r.graph])
  | _, _ => (state, [])

/-- The status of a request whose code could not be generated. -/
def faultStatus (fault : Compile.Fault) : Nat :=
  match fault with
  | .notSupported .. => 422
  | _ => 500

/-- What is logged of a request whose code could not be generated. -/
def faultEvents (t : Target) (g : Graph) (fault : Compile.Fault) : List LogEvent :=
  match fault with
  | .notSupported .. => []
  | _ => [.compileFailed fault.message g.name t.name]

/-- The answer to a snapshot that is not in the cache, to a client that may leave. -/
def generate (s : Server π) (state : ServerState π) (t : Target) (leaves : Bool)
    (body : List UInt8) : Answer π :=
  match Snapshot.decode body with
  | .error fault =>
    ⟨state, .failure 400 ("Bad Request (CBOR decode): " ++ fault.message), {}⟩
  | .ok g =>
    let o := LayerCode.compile t leaves g
    match o.result with
    | .error fault =>
      ⟨state, .failure (faultStatus fault) fault.message,
        o.journal ++ ⟨faultEvents t g fault, []⟩⟩
    | .ok r =>
      let (sink, events) := s.publish state.sink r
      ⟨⟨state.cache.put (Cache.key t.name body) r, sink⟩, .code r, o.journal ++ ⟨events, []⟩⟩

/-- A request has to wait for its turn in vain. -/
def busy (s : Server π) (r : Request) : Bool := r.canceled || s.slots ≤ 0

/-- The answer to a request for code, before it is counted. -/
def answer (s : Server π) (state : ServerState π) (r : Request) : Answer π :=
  if r.method ≠ "POST" then ⟨state, .failure 405 "Method not allowed", {}⟩
  else match s.target r.query with
    | .error unknown => ⟨state, .failure 400 unknown.message, {}⟩
    | .ok t =>
      match readBody r with
      | .error text => ⟨state, .failure 400 ("Bad Request (read body): " ++ text), {}⟩
      | .ok body =>
        match state.cache.get (Cache.key t.name body) with
        | (some result, counted) => ⟨state, .code result, counted⟩
        | (none, counted) =>
          if s.busy r then
            ⟨state, .failure 503 "Server busy", counted ++ .event (.notAcquired "context canceled")⟩
          else
            let a := s.generate state t r.leaves body
            { a with journal := counted ++ a.journal }

/-- The answer to a request for code. -/
def compile (s : Server π) (state : ServerState π) (r : Request) : Answer π :=
  let a := s.answer state r
  { a with journal := a.journal ++ ⟨[], [.requests a.response.status, .requestDuration]⟩ }

/-- The answer to any request. -/
def handle (s : Server π) (state : ServerState π) (r : Request) : Answer π :=
  if r.path = "/compile" then s.compile state r
  else if r.path = "/health" then ⟨state, ⟨200, "", .text "OK"⟩, {}⟩
  else if r.path = "/metrics" then ⟨state, ⟨200, "text/plain", .metrics⟩, {}⟩
  else ⟨state, .failure 404 "404 page not found", {}⟩

end Server

end LayerCode
