/-
  SyncFleet/Http/Router.lean
  ==========================
  **The control interface: which request does what.**

  A request is answered at once, or it is a command to the decision loop and
  is answered when the loop has taken it.  A path that is known but not with
  this method is answered with the methods it knows; `HEAD` is understood
  wherever `GET` is and gets no body.  Asking for the options of any path
  succeeds.
-/
import SyncFleet.Fleet.Construction
import SyncFleet.Fleet.Manager
import SyncFleet.Metrics.Exposition
import SyncFleet.Text.Blank

namespace SyncFleet.Http

open Calendar Control

/-! ### Percent-encoded path segments

A percent sign and two hexadecimal digits stand for a byte; a percent sign
that is not followed by two such digits stands for itself, and so does a
plus sign. -/

/-- The value of a hexadecimal digit of either case. -/
def hexDigit? (b : UInt8) : Option UInt8 :=
  if 48 ≤ b ∧ b ≤ 57 then some (b - 48)
  else if 65 ≤ b ∧ b ≤ 70 then some (b - 55)
  else if 97 ≤ b ∧ b ≤ 102 then some (b - 87)
  else none

/-- The bytes that a percent-encoded run of bytes stands for. -/
def percentDecoded : List UInt8 → List UInt8
  | [] => []
  | 37 :: a :: b :: rest =>
    match hexDigit? a, hexDigit? b with
    | some x, some y => (x * 16 + y) :: percentDecoded rest
    | _, _ => 37 :: percentDecoded (a :: b :: rest)
  | b :: rest => b :: percentDecoded rest

/-- The text that a percent-encoded segment stands for, if it is UTF-8. -/
def segmentText? (segment : String) : Option String :=
  String.fromUTF8? ⟨(percentDecoded segment.toUTF8.toList).toArray⟩

/-! ### Responses, and how faults are answered -/

/-- A response: its status, the headers that depend on the request, and its body. -/
structure Response where
  status : Nat
  contentType : Option String
  /-- the methods that a path knows, where the response says so -/
  allow : Option String
  body : String
deriving DecidableEq, Repr

namespace Response

/-- The origins that may read every response. -/
def allowOrigin : String := "*"

/-- A response with a JSON body. -/
def json (status : Nat) (body : Json) : Response :=
  ⟨status, some "application/json", none, body.render⟩

/-- A response without a body. -/
def bare (status : Nat) : Response := ⟨status, none, none, ""⟩

/-- The response with a message. -/
def message (text : String) : Response := json 200 (.object [("message", .string text)])

/-- The same response without its body. -/
def withoutBody (r : Response) : Response := { r with body := "" }

end Response

/-- Why a request fails. -/
inductive ApiError where
  | notFound (message : String)
  | unavailable (message : String)
  | internal (message : String)
deriving DecidableEq, Repr

namespace ApiError

/-- The fault of a request to the fleet. -/
def ofFleetError : FleetError → ApiError
  | .jobNotFound name => .notFound ("job not found: " ++ name)
  | .channel reason => .unavailable ("manager is not running: " ++ reason)
  | e => .internal e.message

/-- The body of an error response. -/
def body (error code : String) : Json := .object [("error", .string error), ("code", .string code)]

/-- The response to a request that failed. -/
def response : ApiError → Response
  | .notFound m => .json 404 (body m "NOT_FOUND")
  | .unavailable m => .json 503 (body m "SERVICE_UNAVAILABLE")
  | .internal m => .json 500 (body m "INTERNAL_ERROR")

end ApiError

/-! ### Paths -/

/-- What a path names. -/
inductive Endpoint where
  | health
  | manager
  | summary
  | start
  | stop
  /-- the trigger of the job of a percent-encoded name -/
  | trigger (segment : String)
  | metrics
deriving DecidableEq, Repr

/-- The segments of a path, between its slashes. -/
def segments (path : String) : List String := (Text.partsOf path.toList).map String.ofList

/-- The endpoint of a path. -/
def Endpoint.ofPath? (path : String) : Option Endpoint :=
  match segments path with
  | ["", "api", "health"] => some .health
  | ["", "api", "v1", "manager"] => some .manager
  | ["", "api", "v1", "manager", "summary"] => some .summary
  | ["", "api", "v1", "manager", "start"] => some .start
  | ["", "api", "v1", "manager", "stop"] => some .stop
  | ["", "api", "v1", "jobs", name, "trigger"] => some (.trigger name)
  | ["", "metrics"] => some .metrics
  | _ => none

/-- What is behind the scheme and the authority of a whole address. -/
def behindAuthority? : List Char → Option (List Char)
  | ':' :: '/' :: '/' :: rest => some (rest.dropWhile fun c => c != '/' && c != '?' && c != '#')
  | c :: rest => if c = '/' then none else behindAuthority? rest
  | [] => none

/-- The path of an address, without its query; the address may be whole or begin with the path. -/
def pathOf (uri : String) : String :=
  let rest := (behindAuthority? uri.toList).getD uri.toList
  String.ofList (rest.takeWhile fun c => c != '?' && c != '#')

/-- The methods that an endpoint knows, as a response lists them. -/
def Endpoint.methods : Endpoint → String
  | .health | .summary | .metrics => "GET,HEAD"
  | .manager => "GET,HEAD,DELETE"
  | .start | .stop | .trigger _ => "POST"

/-! ### Answers -/

/-- The version that the interface reports. -/
def apiVersion : String := "0.1.0"

/-- What becomes of a request. -/
inductive Reply where
  /-- it is answered -/
  | response (r : Response)
  /-- it waits for a command to the decision loop -/
  | command (c : ControlCommand)

/-- What a request does: the reply, and the place of the job that it triggers. -/
structure Reaction where
  reply : Reply
  triggered : Option Nat

/-- A request that is answered and does nothing. -/
def Reaction.answer (r : Response) : Reaction := ⟨.response r, none⟩

/-- The request to trigger the job of a percent-encoded name. -/
def triggerReaction (m : Manager) (segment : String) : Reaction :=
  match segmentText? segment with
  | none => .answer ⟨400, some "text/plain; charset=utf-8", none,
      "Invalid URL: Invalid UTF-8 in \x60name\x60"⟩
  | some name =>
    match m.locate name with
    | .error e => .answer (ApiError.ofFleetError e).response
    | .ok i => ⟨.response (.json 200 (.object [("job", .string name),
        ("message", .string ("job '" ++ name ++ "' triggered"))])), some i⟩

/-- The reaction to a request with a method that its endpoint knows; `HEAD` counts as `GET`. -/
def Endpoint.reaction? (m : Manager) (x : Exporter) (now : Instant) (method : String) :
    Endpoint → Option Reaction
  | .health => if method = "GET" then
      some (.answer (.json 200
        (.object [("status", .string "ok"), ("version", .string apiVersion)]))) else none
  | .manager =>
    if method = "GET" then some (.answer (.json 200 (m.statusJson now)))
    else if method = "DELETE" then some ⟨.command .exit, none⟩ else none
  | .summary => if method = "GET" then some (.answer (.json 200 (m.summaryJson now))) else none
  | .start => if method = "POST" then some ⟨.command .start, none⟩ else none
  | .stop => if method = "POST" then some ⟨.command .stop, none⟩ else none
  | .trigger segment => if method = "POST" then some (triggerReaction m segment) else none
  | .metrics => if method = "GET" then
      some (.answer ⟨200, some "text/plain; version=0.0.4", none, x.render⟩) else none

/-- The reaction to a request (`build_router`). -/
def react (m : Manager) (x : Exporter) (now : Instant) (method uri : String) : Reaction :=
  let endpoint := Endpoint.ofPath? (pathOf uri)
  if method = "OPTIONS" then .answer { Response.bare 200 with allow := endpoint.map (·.methods) }
  else match endpoint with
    | none => .answer (.bare 404)
    | some e =>
      let known :=
        if method = "HEAD" then
          (e.reaction? m x now "GET").map fun r => match r.reply with
            | .response a => { r with reply := .response a.withoutBody }
            | .command _ => r
        else e.reaction? m x now method
      known.getD (.answer { Response.bare 405 with allow := some e.methods })

/-- The message that a command has been carried out. -/
def doneMessage : ControlCommand → String
  | .start => "manager started"
  | .stop => "manager stopped"
  | .exit => "manager exited"

/-- The response to a request that was a command, by how its call ended. -/
def commandResponse (c : ControlCommand) : Except ChannelFault Unit → Response
  | .ok _ => .message (doneMessage c)
  | .error fault => (ApiError.ofFleetError (.channel fault.message)).response

end SyncFleet.Http
