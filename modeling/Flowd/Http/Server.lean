import Flowd.Http.Parser
import Flowd.Lib.Transition

namespace Flowd.Http

/-! HTTPServer: the connections, the queues between them and the network, and a call of `process`. -/

inductive HttpResponseState where
  | pending
  | writing (response : HttpResponse) (sent : Nat)
  | complete

inductive ConnectionState where
  | readingRequest (reading : Reading)
  | processingRequest (request : HttpRequest) (clientId : Nat)
  | writingResponse (requestId : Nat) (responseState : HttpResponseState) (clientId : Nat)
  | keepAlive
  | closed

structure RouteConfig where
  method : String
  path : String

/-- `req` is the number of outports REQ, and `resp` what is queued on RESP.  The map of the connections is a
function, as the order of its keys is up to `Surroundings`.  `nextClientId` wraps, the counter of requests does
not. -/
structure HttpServer where
  listenAddr : Option String
  routesConfig : Option (List RouteConfig)
  req : Nat
  resp : List FbpMessage
  connections : Nat → Option ConnectionState
  nextClientId : Nat
  pendingRequests : List (Nat × Nat × HttpRequest)
  pendingResponses : HashMap Nat HttpResponse
  responseWaitQueue : List Nat
  nextRequestId : Nat

def HttpServer.new (req : Nat) : HttpServer := ⟨none, none, req, [], fun _ => none, 0, [], ∅, [], 0⟩

/-- The clients whose requests are pending. -/
def HttpServer.clients (server : HttpServer) : List Nat := server.pendingRequests.map fun entry => entry.2.1

def HttpServer.setConnection (server : HttpServer) (clientId : Nat) (state : ConnectionState) : HttpServer :=
  { server with connections := Function.update server.connections clientId (some state) }

/-- The parameters that a path has in the places of a route's `{name}`s. -/
def matchRouteWithParams (requestPath routePattern : String) : Option (HashMap String String) :=
  let requestParts := split requestPath '/'
  let routeParts := split routePattern '/'
  if requestParts.length = routeParts.length then
    (requestParts.zip routeParts).foldlM (fun params (requestPart, routePart) =>
      if startsWith routePart "\x7b" && endsWith routePart "\x7d" then
        some (AList.insert (.ofList (routePart.toList.tail.dropLast)) requestPart params)
      else if requestPart = routePart then some params else none) ∅
  else none

/-- The index of the first route for the request, with the parameters in its path. -/
def findRoute (routes : List RouteConfig) (request : HttpRequest) : Option (Nat × HashMap String String) :=
  routes.zipIdx.findSome? fun (route, index) =>
    if request.method = route.method then
      if request.path = route.path then some (index, ∅)
      else (matchRouteWithParams request.path route.path).map fun params => (index, params)
    else none

section
variable (casing : Casing)

/-- The routes of the packet on ROUTES; GET if there is no method. -/
def parseRoutes (text : String) : List RouteConfig :=
  (split text ',').map fun spec =>
    match splitWhitespace spec with
    | [method, path] => ⟨casing.toUppercase method, path⟩
    | _ => ⟨"GET", trim spec⟩

end

/-! What is sent. -/

def encodeMapLine (map : HashMap String String) : String :=
  "&".intercalate ((map.entries.map fun entry => entry.1 ++ "=" ++ entry.2).mergeSort (· ≤ ·))

/-- `lossy` is `String::from_utf8_lossy`. -/
def encodeRequestForReqPort (lossy : List UInt8 → String) (request : HttpRequest) : List UInt8 :=
  intoBytes ("METHOD=" ++ request.method ++ "\nPATH=" ++ request.path ++ "\nVERSION=" ++ request.version ++
    "\nQUERY=" ++ encodeMapLine request.queryParams ++ "\nPATH_PARAMS=" ++ encodeMapLine request.pathParams ++
    "\nBODY=" ++ lossy request.body ++ "\n")

/-- Hexadecimal digits as `format!` prints them. -/
def hexText (value : Nat) : String := .ofList (Nat.toDigits 16 value)

/-- The body in chunks of 4 KB; `rounds` bounds their number. -/
def encodeChunks : Nat → List UInt8 → List UInt8
  | 0, _ => []
  | _, [] => []
  | rounds + 1, body =>
      let chunk := body.take 4096
      intoBytes (hexText chunk.length ++ "\r\n") ++ chunk ++ [13, 10] ++ encodeChunks rounds (body.drop 4096)

/-- The current time as RFC 2822 writes it, in 31 bytes whatever the time. -/
structure HttpDate where
  text : String
  length : (intoBytes text).length = 31

def HttpResponse.chunked (response : HttpResponse) : Bool := decide (8192 < response.body.length)

/-- What `format_response` writes before the body.  The response has no headers of its own, as none has here. -/
def responseHead (date : HttpDate) (response : HttpResponse) : List UInt8 :=
  intoBytes ("HTTP/1.1 " ++ toString response.statusCode ++ " " ++ response.statusText ++ "\r\nDate: ") ++
    intoBytes date.text ++
    intoBytes ("\r\nConnection: close\r\n" ++
      (if response.chunked then "Transfer-Encoding: chunked\r\n"
        else "Content-Length: " ++ toString response.body.length ++ "\r\n") ++ "Server: flowd/0.5\r\n\r\n")

def responseContent (response : HttpResponse) : List UInt8 :=
  if response.chunked then encodeChunks response.body.length response.body ++ intoBytes "0\r\n\r\n"
  else response.body

def formatResponse (date : HttpDate) (response : HttpResponse) : List UInt8 :=
  responseHead date response ++ responseContent response

/-! A call of `process`. -/

/-- What an observer of the server sees. -/
inductive HttpEvent where
  | accepted (clientId : Nat)
  | read (clientId : Nat) (bytes : List UInt8)
  /-- The connection has sent a request, which gets a number. -/
  | requested (requestId clientId : Nat) (request : HttpRequest)
  /-- The connection has sent what is no request; the response gets a number. -/
  | refused (requestId clientId : Nat) (response : HttpResponse)
  | unrouted (requestId : Nat)
  | pushed (requestId index : Nat) (packet : List UInt8)
  | popped (packet : FbpMessage)
  /-- The response is taken out of the queue to be written to the connection. -/
  | began (clientId requestId : Nat) (response : HttpResponse)
  /-- The connection's socket has taken these bytes. -/
  | wrote (clientId requestId : Nat) (bytes : List UInt8)

inductive ReadResult where
  | ok (bytes : List UInt8)
  | wouldBlock
  | error

inductive WriteResult where
  | ok (written : Nat)
  | wouldBlock
  | error

/-- What one call meets.  `order` is the order of the hash map, which has no key twice, `expired` tells who
was idle for too long, and `room` is how many packets fit on REQ before one is refused. -/
structure Surroundings where
  conf : Option String
  routes : Option String
  signal : Option String
  accepts : Nat
  order : List Nat
  distinct : order.Nodup
  read : Nat → ReadResult
  write : Nat → WriteResult
  expired : Nat → Bool
  date : HttpDate
  room : Nat

/-- A call in progress. -/
structure Visit where
  server : HttpServer
  remainingBudget : Nat
  workUnits : Nat
  log : List HttpEvent

namespace Visit

/-- `work_units += 1; context.remaining_budget -= 1` -/
def worked (visit : Visit) : Visit :=
  { visit with workUnits := visit.workUnits + 1, remainingBudget := visit.remainingBudget - 1 }

def report (visit : Visit) (event : HttpEvent) : Visit := { visit with log := visit.log ++ [event] }

def setConnection (visit : Visit) (clientId : Nat) (state : ConnectionState) : Visit :=
  { visit with server := visit.server.setConnection clientId state }

/-- `listener.accept()` until there is nobody or the budget is used up, none if the counter overflows in a
build that checks it.  A connection that still has the number is dropped. -/
def accept (overflowChecks : Bool) : Nat → Visit → Option Visit
  | 0, visit => some visit
  | accepts + 1, visit =>
      if 0 < visit.remainingBudget then
        let clientId := visit.server.nextClientId
        if overflowChecks ∧ 2 ^ 32 ≤ clientId + 1 then none
        else
          let visit := (visit.setConnection clientId (.readingRequest .start)).report (.accepted clientId)
          accept overflowChecks accepts
            { visit with server := { visit.server with nextClientId := (clientId + 1) % 2 ^ 32 } }.worked
      else some visit

end Visit

/-- The loop over the connections, with the changes it has put off. -/
structure Sweep extends Visit where
  stateChanges : List (Nat × ConnectionState)
  connectionsToRemove : List Nat

namespace Sweep

def change (sweep : Sweep) (clientId : Nat) (state : ConnectionState) : Sweep :=
  { sweep with stateChanges := sweep.stateChanges ++ [(clientId, state)] }

def remove (sweep : Sweep) (clientId : Nat) : Sweep :=
  { sweep with connectionsToRemove := sweep.connectionsToRemove ++ [clientId] }

def visit (sweep : Sweep) (visit : Visit) : Sweep := { sweep with toVisit := visit }

/-- What becomes of the connection when its parser has come to an end or waits. -/
def parsed (sweep : Sweep) (clientId : Nat) : Parsed → Sweep
  | .waiting reading => sweep.visit (sweep.setConnection clientId (.readingRequest reading))
  | .failed response =>
      let server := sweep.server
      let requestId := server.nextRequestId
      let server := { server with
        nextRequestId := requestId + 1
        pendingResponses := AList.insert requestId response server.pendingResponses }
      (sweep.visit ({ sweep.toVisit with server }.report (.refused requestId clientId response))).change clientId
        (.writingResponse requestId .pending clientId)
  | .complete reading =>
      match reading.request with
      | none => sweep.visit (sweep.setConnection clientId (.readingRequest reading))
      | some request =>
          let server := sweep.server
          let requestId := server.nextRequestId
          let server := { server with
            nextRequestId := requestId + 1
            pendingRequests := server.pendingRequests ++ [(requestId, clientId, request)] }
          (sweep.visit ({ sweep.toVisit with server }.report (.requested requestId clientId request)).worked).change
            clientId (.processingRequest request clientId)

/-- A response that is available begins to be written. -/
def begin (sweep : Sweep) (key requestId clientId : Nat) : Sweep :=
  match sweep.server.pendingResponses.lookup requestId with
  | none => sweep
  | some response =>
      let visit := sweep.setConnection key (.writingResponse requestId (.writing response 0) clientId)
      let server := { visit.server with pendingResponses := AList.erase requestId visit.server.pendingResponses }
      sweep.visit ({ visit with server }.report (.began key requestId response)).worked

/-- `sock.write` of what is left of the response. -/
def write (sweep : Sweep) (date : HttpDate) (key requestId clientId : Nat) (response : HttpResponse) (sent : Nat) :
    WriteResult → Sweep
  | .wouldBlock => sweep
  | .error => sweep.remove clientId
  | .ok written =>
      let formatted := formatResponse date response
      let bytes := (formatted.drop sent).take written
      let sent := sent + bytes.length
      let visit := sweep.report (.wrote key requestId bytes)
      if formatted.length ≤ sent then
        (sweep.visit (visit.setConnection key (.writingResponse requestId .complete clientId)).worked).change clientId
          .keepAlive
      else
        sweep.visit (visit.setConnection key (.writingResponse requestId (.writing response sent) clientId)).worked

section
variable (casing : Casing) (rounds : Nat) (surroundings : Surroundings)

/-- One round of the loop; none if the parser's rounds do not suffice. -/
def connection (key : Nat) (sweep : Sweep) : Option Sweep :=
  if sweep.remainingBudget = 0 then some sweep
  else
    match sweep.server.connections key with
    | none => some sweep
    | some (.readingRequest reading) =>
        match surroundings.read key with
        | .wouldBlock => some sweep
        | .error | .ok [] => some (sweep.remove key)
        | .ok bytes =>
            ((reading.extend bytes).parse casing rounds).map ((sweep.visit (sweep.report (.read key bytes))).parsed key)
    | some (.processingRequest _ _) => some sweep
    | some (.writingResponse requestId .pending clientId) => some (sweep.begin key requestId clientId)
    | some (.writingResponse requestId (.writing response sent) clientId) =>
        some (sweep.write surroundings.date key requestId clientId response sent (surroundings.write key))
    | some (.writingResponse _ .complete _) => some sweep
    | some .keepAlive =>
        if surroundings.expired key then some ((sweep.change key .closed).remove key)
        else some ((sweep.change key (.readingRequest .start)).visit sweep.worked)
    | some .closed => some (sweep.remove key)

def connections : List Nat → Sweep → Option Sweep
  | [], sweep => some sweep
  | key :: rest, sweep => (sweep.connection casing rounds surroundings key).bind (connections rest)

end

/-- `connection.state = new_state` for a connection that is still there. -/
def applyChange (server : HttpServer) (change : Nat × ConnectionState) : HttpServer :=
  if (server.connections change.1).isSome then server.setConnection change.1 change.2 else server

def removeConnection (server : HttpServer) (clientId : Nat) : HttpServer :=
  match server.connections clientId with
  | none => server
  | some state =>
      let server := { server with connections := Function.update server.connections clientId none }
      match state with
      | .writingResponse requestId _ _ =>
          { server with
            responseWaitQueue := server.responseWaitQueue.filter (· ≠ requestId)
            pendingResponses := AList.erase requestId server.pendingResponses }
      | _ => server

/-- The server with the states that were put off. -/
def settled (sweep : Sweep) : HttpServer := sweep.stateChanges.foldl applyChange sweep.server

/-- The changes and the removals that were put off; each removal counts as work. -/
def settle (sweep : Sweep) : Visit :=
  let server := sweep.connectionsToRemove.foldl removeConnection sweep.settled
  { sweep.toVisit with server, workUnits := sweep.workUnits + sweep.connectionsToRemove.length }

end Sweep

def notFound (body : String) : HttpResponse := ⟨404, "Not Found", ∅, intoBytes body⟩

def okResponse (packet : FbpMessage) : HttpResponse := ⟨200, "OK", ∅, packet.asBytes.getD []⟩

namespace Visit

/-- The connection waits for the response with this number, if it is still there. -/
def awaitResponse (visit : Visit) (requestId clientId : Nat) : Visit :=
  { visit with server := Sweep.applyChange visit.server (clientId, .writingResponse requestId .pending clientId) }

/-- A request without a route is answered at once. -/
def unrouted (visit : Visit) (requestId clientId : Nat) (body : String) : Visit :=
  let server := { visit.server with
    pendingResponses := AList.insert requestId (notFound body) visit.server.pendingResponses }
  ({ visit with server }.report (.unrouted requestId)).awaitResponse requestId clientId

section
variable (lossy : List UInt8 → String) (routes : List RouteConfig)

/-- `while remaining_budget > 0 && !pending_requests.is_empty()`; `requests` are the pending ones and `room`
is what is left on REQ. -/
def forward : List (Nat × Nat × HttpRequest) → Nat → Visit → Visit
  | [], _, visit => visit
  | (requestId, clientId, request) :: rest, room, visit =>
      if visit.remainingBudget = 0 then visit
      else
        let popped := { visit with server := { visit.server with pendingRequests := rest } }
        match findRoute routes request with
        | none => forward rest room (popped.unrouted requestId clientId "Route not found")
        | some (index, params) =>
            let request := if params.entries.isEmpty then request else { request with pathParams := params }
            if index < visit.server.req then
              match room with
              | 0 => visit
              | room + 1 =>
                  let server := { popped.server with
                    responseWaitQueue := popped.server.responseWaitQueue ++ [requestId] }
                  let packet := encodeRequestForReqPort lossy request
                  forward rest room
                    (({ popped with server }.report (.pushed requestId index packet)).worked.awaitResponse
                      requestId clientId)
            else forward rest room (popped.unrouted requestId clientId "Route not configured")

end

/-- `while remaining_budget > 0` over what is queued on RESP. -/
def readResponses : List FbpMessage → Visit → Visit
  | [], visit => visit
  | packet :: rest, visit =>
      if visit.remainingBudget = 0 then visit
      else
        let visit := { visit with server := { visit.server with resp := rest } }.report (.popped packet)
        match visit.server.responseWaitQueue with
        | [] => visit
        | requestId :: waiting =>
            let server := { visit.server with
              responseWaitQueue := waiting
              pendingResponses := AList.insert requestId (okResponse packet) visit.server.pendingResponses }
            readResponses rest { visit with server }.worked

end Visit

namespace HttpServer

/-- The packets on CONF and ROUTES, if there are any. -/
def configure (casing : Casing) (server : HttpServer) (surroundings : Surroundings) : HttpServer :=
  { server with
    listenAddr := surroundings.conf.orElse fun _ => server.listenAddr
    routesConfig := (surroundings.routes.map (parseRoutes casing)).orElse fun _ => server.routesConfig }

/-- A call of `process`, none if the parser's rounds do not suffice.  The address in force and the timeout
are those of the surroundings. -/
def process (overflowChecks : Bool) (casing : Casing) (lossy : List UInt8 → String) (rounds : Nat)
    (surroundings : Surroundings) (server : HttpServer) (remainingBudget : Nat) : Option (Visit × Returned) :=
  let server := server.configure casing surroundings
  let visit : Visit := ⟨server, remainingBudget, 0, []⟩
  match server.listenAddr, server.routesConfig with
  | some _, some routes =>
      let visit := if surroundings.conf.isSome || surroundings.routes.isSome then visit.worked else visit
      if surroundings.signal = some "stop" then some (visit, .result .finished)
      else
        match visit.accept overflowChecks surroundings.accepts with
        | none => some (visit, .panicked)
        | some visit =>
            (Sweep.connections casing rounds surroundings surroundings.order ⟨visit, [], []⟩).map fun sweep =>
              let visit := sweep.settle
              let visit := visit.forward lossy routes visit.server.pendingRequests surroundings.room
              let visit := visit.readResponses visit.server.resp
              (visit, .result (if 0 < visit.workUnits then .didWork visit.workUnits else .noWork))
  | _, _ => some (visit, .result .noWork)

/-- How many clients the call accepts, if nothing overflows. -/
def admits (server : HttpServer) (surroundings : Surroundings) (remainingBudget : Nat) : Nat :=
  let reconfigured := surroundings.conf.isSome || surroundings.routes.isSome
  let configured := (surroundings.conf.isSome || server.listenAddr.isSome) &&
    (surroundings.routes.isSome || server.routesConfig.isSome)
  if configured && surroundings.signal != some "stop" then
    min surroundings.accepts (if reconfigured then remainingBudget - 1 else remainingBudget)
  else 0

/-- So many numbers for clients from the first one on. -/
def numbers : Nat → Nat → List Nat
  | 0, _ => []
  | count + 1, first => first :: numbers count ((first + 1) % 2 ^ 32)

/-- The numbers that the call gives to the clients it accepts. -/
def newClients (server : HttpServer) (surroundings : Surroundings) (remainingBudget : Nat) : List Nat :=
  numbers (server.admits surroundings remainingBudget) server.nextClientId

end HttpServer

/-! Runs. -/

inductive HttpAction where
  /-- Packets arrive on RESP. -/
  | deliver (packets : List FbpMessage)
  | process (remainingBudget rounds : Nat) (surroundings : Surroundings)

/-- What a call leaves that has returned. -/
def leaves : Visit × Returned → Option (HttpServer × List HttpEvent)
  | (visit, .result _) => some (visit.server, visit.log)
  | (_, .panicked) => none

/-- A server that has panicked is not called again. -/
def httpMachine (overflowChecks : Bool) (casing : Casing) (lossy : List UInt8 → String) :
    Transition.Machine HttpServer HttpAction HttpEvent where
  step
    | server, .deliver packets => some ({ server with resp := server.resp ++ packets }, [])
    | server, .process remainingBudget rounds surroundings =>
        (server.process overflowChecks casing lossy rounds surroundings remainingBudget).bind leaves

/-- No new client gets the number of one whose request is still pending. -/
def HttpServer.KeepsApart (server : HttpServer) : HttpAction → Prop
  | .deliver _ => True
  | .process remainingBudget _ surroundings =>
      ∀ client ∈ server.newClients surroundings remainingBudget, client ∉ server.clients

instance HttpServer.decidableKeepsApart (server : HttpServer) : DecidablePred server.KeepsApart
  | .deliver _ => inferInstanceAs (Decidable True)
  | .process remainingBudget _ surroundings => inferInstanceAs
      (Decidable (∀ client ∈ server.newClients surroundings remainingBudget, client ∉ server.clients))

/-- A call that accepts nobody, reads and writes nothing. -/
def Surroundings.calm : Surroundings where
  conf := none
  routes := none
  signal := none
  accepts := 0
  order := [0]
  distinct := List.nodup_singleton 0
  read := fun _ => .wouldBlock
  write := fun _ => .wouldBlock
  expired := fun _ => false
  date := ⟨"Mon, 01 Jan 2024 00:00:00 +0000", by decide +kernel⟩
  room := 1

end Flowd.Http
