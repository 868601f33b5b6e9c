import Flowd.Http.Server

namespace Flowd.Http

/-! The moves a call of `process` is made of, one constructor for each, and what all of them keep. -/

/-- The event is that a client gets this number. -/
def HttpEvent.accepts (clientId : Nat) : HttpEvent → Bool
  | .accepted other => other == clientId
  | _ => false

/-- What has happened since a client got this number the last time. -/
def since (clientId : Nat) (log : List HttpEvent) : List HttpEvent :=
  log.rtakeWhile fun event => !event.accepts clientId

@[simp] theorem since_nil (clientId : Nat) : since clientId [] = [] := rfl

theorem since_accepted (clientId : Nat) (log : List HttpEvent) : since clientId (log ++ [.accepted clientId]) = [] := by
  rw [since, List.rtakeWhile_concat]
  simp [HttpEvent.accepts]

theorem since_append {clientId : Nat} {events : List HttpEvent} (log : List HttpEvent)
    (quiet : ∀ event ∈ events, event.accepts clientId = false) :
    since clientId (log ++ events) = since clientId log ++ events := by
  induction events using List.reverseRecOn with
  | nil => simp
  | append_singleton events event ih =>
      have last := quiet event (by simp)
      rw [← List.append_assoc, since, List.rtakeWhile_concat, last]
      simp only [Bool.not_false, if_true]
      rw [← since, ih fun other member => quiet other (by simp [member]), List.append_assoc]

/-- A connection in this state may be removed. -/
def ConnectionState.Removable : ConnectionState → Prop
  | .writingResponse _ .pending _ => False
  | _ => True

variable {casing : Casing} {server next : HttpServer} {events : List HttpEvent}

inductive Moved (casing : Casing) (server : HttpServer) : List HttpEvent → HttpServer → Prop where
  | configures (listenAddr : Option String) (routesConfig : Option (List RouteConfig)) :
      Moved casing server [] { server with listenAddr, routesConfig }
  | delivers (resp : List FbpMessage) : Moved casing server [] { server with resp }
  | accepts (free : server.nextClientId ∉ server.clients) :
      Moved casing server [.accepted server.nextClientId]
        { server.setConnection server.nextClientId (.readingRequest .start) with
          nextClientId := (server.nextClientId + 1) % 2 ^ 32 }
  | waits {key : Nat} {reading left : Reading} {bytes : List UInt8}
      (state : server.connections key = some (.readingRequest reading))
      (parses : (reading.extend bytes).Parses casing (.waiting left)) :
      Moved casing server [.read key bytes] (server.setConnection key (.readingRequest left))
  | misses {key : Nat} {reading left : Reading} {bytes : List UInt8}
      (state : server.connections key = some (.readingRequest reading))
      (parses : (reading.extend bytes).Parses casing (.complete left)) (nothing : left.request = none) :
      Moved casing server [.read key bytes] (server.setConnection key (.readingRequest left))
  | refuses {key : Nat} {reading : Reading} {bytes : List UInt8} {response : HttpResponse}
      (state : server.connections key = some (.readingRequest reading))
      (parses : (reading.extend bytes).Parses casing (.failed response)) :
      Moved casing server [.read key bytes, .refused server.nextRequestId key response]
        { server.setConnection key (.writingResponse server.nextRequestId .pending key) with
          nextRequestId := server.nextRequestId + 1
          pendingResponses := AList.insert server.nextRequestId response server.pendingResponses }
  | requests {key : Nat} {reading left : Reading} {bytes : List UInt8} {request : HttpRequest}
      (state : server.connections key = some (.readingRequest reading))
      (parses : (reading.extend bytes).Parses casing (.complete left)) (found : left.request = some request) :
      Moved casing server [.read key bytes, .requested server.nextRequestId key request]
        { server.setConnection key (.processingRequest request key) with
          nextRequestId := server.nextRequestId + 1
          pendingRequests := server.pendingRequests ++ [(server.nextRequestId, key, request)] }
  | begins {key requestId clientId : Nat} {response : HttpResponse}
      (state : server.connections key = some (.writingResponse requestId .pending clientId))
      (available : server.pendingResponses.lookup requestId = some response) :
      Moved casing server [.began key requestId response]
        { server.setConnection key (.writingResponse requestId (.writing response 0) clientId) with
          pendingResponses := AList.erase requestId server.pendingResponses }
  | writes {key requestId clientId sent : Nat} {response : HttpResponse} {date : HttpDate} {bytes : List UInt8}
      (state : server.connections key = some (.writingResponse requestId (.writing response sent) clientId))
      (onwards : bytes <+: (formatResponse date response).drop sent) :
      Moved casing server [.wrote key requestId bytes]
        (server.setConnection key (.writingResponse requestId (.writing response (sent + bytes.length)) clientId))
  | finishes {key requestId clientId sent : Nat} {response : HttpResponse} {date : HttpDate} {bytes : List UInt8}
      (state : server.connections key = some (.writingResponse requestId (.writing response sent) clientId))
      (onwards : bytes <+: (formatResponse date response).drop sent)
      (whole : (formatResponse date response).length ≤ sent + bytes.length) :
      Moved casing server [.wrote key requestId bytes] (server.setConnection key .keepAlive)
  | reuses {key : Nat} (state : server.connections key = some .keepAlive) :
      Moved casing server [] (server.setConnection key (.readingRequest .start))
  | expires {key : Nat} (state : server.connections key = some .keepAlive) :
      Moved casing server [] (server.setConnection key .closed)
  | removes {key : Nat} {state : ConnectionState} (found : server.connections key = some state)
      (removable : state.Removable) : Moved casing server [] (Sweep.removeConnection server key)
  | unroutes {requestId clientId : Nat} {request : HttpRequest} {rest : List (Nat × Nat × HttpRequest)} (body : String)
      (first : server.pendingRequests = (requestId, clientId, request) :: rest) :
      Moved casing server [.unrouted requestId]
        (Sweep.applyChange { server with
          pendingRequests := rest
          pendingResponses := AList.insert requestId (notFound body) server.pendingResponses }
          (clientId, .writingResponse requestId .pending clientId))
  | pushes {requestId clientId : Nat} {request : HttpRequest} {rest : List (Nat × Nat × HttpRequest)} (index : Nat)
      (packet : List UInt8) (first : server.pendingRequests = (requestId, clientId, request) :: rest) :
      Moved casing server [.pushed requestId index packet]
        (Sweep.applyChange { server with
          pendingRequests := rest
          responseWaitQueue := server.responseWaitQueue ++ [requestId] }
          (clientId, .writingResponse requestId .pending clientId))
  | loses {packet : FbpMessage} {rest : List FbpMessage} (first : server.resp = packet :: rest)
      (nobody : server.responseWaitQueue = []) : Moved casing server [.popped packet] { server with resp := rest }
  | pops {packet : FbpMessage} {rest : List FbpMessage} {requestId : Nat} {waiting : List Nat}
      (first : server.resp = packet :: rest) (next : server.responseWaitQueue = requestId :: waiting) :
      Moved casing server [.popped packet]
        { server with
          resp := rest
          responseWaitQueue := waiting
          pendingResponses := AList.insert requestId (okResponse packet) server.pendingResponses }

/-- Moves one after the other, with what they report. -/
inductive Moves (casing : Casing) (first : HttpServer) : List HttpEvent → HttpServer → Prop where
  | nil : Moves casing first [] first
  | snoc {log events : List HttpEvent} {server next : HttpServer} :
      Moves casing first log server → Moved casing server events next → Moves casing first (log ++ events) next

theorem Moves.append {first : HttpServer} {log later : List HttpEvent} (left : Moves casing first log server)
    (right : Moves casing server later next) : Moves casing first (log ++ later) next := by
  induction right with
  | nil => simpa using left
  | snoc _ moved ih =>
      rw [← List.append_assoc]
      exact .snoc ih moved

theorem Moved.single (moved : Moved casing server events next) : Moves casing server events next := by
  simpa using Moves.snoc .nil moved

/-! The connections. -/

@[simp] theorem connections_setConnection (server : HttpServer) (key : Nat) (state : ConnectionState) :
    (server.setConnection key state).connections = Function.update server.connections key (some state) := rfl

/-- The states that were put off, on the map alone. -/
def settledMap (changes : List (Nat × ConnectionState)) (connections : Nat → Option ConnectionState) :
    Nat → Option ConnectionState :=
  changes.foldl (fun connections change =>
    if (connections change.1).isSome then Function.update connections change.1 (some change.2) else connections)
    connections

theorem applyChange_eq (server : HttpServer) (change : Nat × ConnectionState) :
    Sweep.applyChange server change = { server with connections := settledMap [change] server.connections } := by
  unfold Sweep.applyChange settledMap
  split
  · next there => simp [there, HttpServer.setConnection]
  · next gone => simp [gone]

theorem applyChanges_eq (changes : List (Nat × ConnectionState)) (server : HttpServer) :
    changes.foldl Sweep.applyChange server =
      { server with connections := settledMap changes server.connections } := by
  induction changes generalizing server with
  | nil => rfl
  | cons change rest ih =>
      rw [List.foldl_cons, ih, applyChange_eq]
      rfl

section
variable {changes : List (Nat × ConnectionState)} {connections : Nat → Option ConnectionState}
variable {key : Nat} {state : ConnectionState}

/-- A connection that no change is about keeps its state. -/
theorem settledMap_apart (apart : ∀ change ∈ changes, change.1 ≠ key) : settledMap changes connections key = connections key := by
  induction changes generalizing connections with
  | nil => rfl
  | cons change rest ih =>
      have different : key ≠ change.1 := (apart change List.mem_cons_self).symm
      have later := fun connections => @ih connections fun other member => apart other (List.mem_cons_of_mem _ member)
      unfold settledMap at later ⊢
      rw [List.foldl_cons, later]
      split
      · rw [Function.update_of_ne different]
      · rfl

/-- A state that is set at once may as well be set after the changes to other connections. -/
theorem settledMap_update (apart : ∀ change ∈ changes, change.1 ≠ key) :
    settledMap changes (Function.update connections key (some state)) =
      Function.update (settledMap changes connections) key (some state) := by
  induction changes generalizing connections with
  | nil => rfl
  | cons change rest ih =>
      have different : change.1 ≠ key := apart change List.mem_cons_self
      have later := fun connections => @ih connections fun other member => apart other (List.mem_cons_of_mem _ member)
      unfold settledMap at later ⊢
      rw [List.foldl_cons, List.foldl_cons, Function.update_of_ne different]
      split
      · rw [Function.update_comm different.symm, later]
      · rw [later]

end

/-- Who writes a response is who it is for. -/
def Keyed (server : HttpServer) : Prop :=
  ∀ key requestId responseState clientId,
    server.connections key = some (.writingResponse requestId responseState clientId) → clientId = key

theorem Keyed.set (keyed : Keyed server) (key : Nat) (state : ConnectionState)
    (fits : ∀ requestId responseState clientId, state = .writingResponse requestId responseState clientId → clientId = key) :
    Keyed (server.setConnection key state) := by
  intro other requestId responseState clientId found
  rw [connections_setConnection] at found
  by_cases same : other = key
  · subst same
    rw [Function.update_self, Option.some.injEq] at found
    exact fits requestId responseState clientId found
  · rw [Function.update_of_ne same] at found
    exact keyed other requestId responseState clientId found

theorem Keyed.applyChange (keyed : Keyed server) (key requestId : Nat) :
    Keyed (Sweep.applyChange server (key, .writingResponse requestId .pending key)) := by
  unfold Sweep.applyChange
  split
  · exact keyed.set key _ (by simp)
  · exact keyed

theorem connections_removeConnection (server : HttpServer) (key : Nat) :
    (Sweep.removeConnection server key).connections = Function.update server.connections key none := by
  unfold Sweep.removeConnection
  cases found : server.connections key with
  | none => exact (Function.update_eq_self_iff.mpr found.symm).symm
  | some state => cases state <;> rfl

theorem pendingRequests_removeConnection (server : HttpServer) (key : Nat) :
    (Sweep.removeConnection server key).pendingRequests = server.pendingRequests := by
  unfold Sweep.removeConnection
  cases server.connections key with
  | none => rfl
  | some state => cases state <;> rfl

theorem Moved.keyed (moved : Moved casing server events next) (keyed : Keyed server) : Keyed next := by
  cases moved with
  | configures | delivers | loses | pops => exact keyed
  | accepts => exact keyed.set server.nextClientId (.readingRequest .start) (by simp)
  | @waits key _ left => exact keyed.set key (.readingRequest left) (by simp)
  | @misses key _ left => exact keyed.set key (.readingRequest left) (by simp)
  | @refuses key => exact keyed.set key (.writingResponse server.nextRequestId .pending key) (by simp)
  | @requests key _ _ _ request => exact keyed.set key (.processingRequest request key) (by simp)
  | @begins key requestId clientId response state =>
      have same := keyed _ _ _ _ state
      exact keyed.set key (.writingResponse requestId (.writing response 0) clientId) (by simp [same])
  | writes state =>
      have same := keyed _ _ _ _ state
      exact keyed.set _ _ (by simp [same])
  | finishes | reuses | expires => exact keyed.set _ _ (by simp)
  | @unroutes requestId clientId =>
      apply Keyed.applyChange
      exact keyed
  | @pushes requestId clientId =>
      apply Keyed.applyChange
      exact keyed
  | @removes key =>
      intro other requestId responseState clientId there
      rw [connections_removeConnection] at there
      by_cases same : other = key
      · simp [same] at there
      · rw [Function.update_of_ne same] at there
        exact keyed other requestId responseState clientId there

theorem Moves.keyed {first : HttpServer} {log : List HttpEvent} (moves : Moves casing first log server)
    (keyed : Keyed first) : Keyed server := by
  induction moves with
  | nil => exact keyed
  | snoc _ moved ih => exact moved.keyed ih

/-! The loop over the connections. -/

/-- What holds in the loop when the connections that remain have not been visited: with the changes that were
put off, the server has moved, and nobody who waits for a response is to be removed. -/
structure Swept (casing : Casing) (first : HttpServer) (sweep : Sweep) (remaining : List Nat) : Prop where
  moves : Moves casing first sweep.log sweep.settled
  keyed : Keyed sweep.settled
  apart : ∀ change ∈ sweep.stateChanges, change.1 ∉ remaining
  removals : ∀ key ∈ sweep.connectionsToRemove, key ∉ remaining ∧
    ∀ state, sweep.settled.connections key = some state → state.Removable

variable {first : HttpServer} {sweep : Sweep} {key : Nat} {rest remaining : List Nat}

theorem Swept.weaken (swept : Swept casing first sweep (key :: rest)) : Swept casing first sweep rest where
  moves := swept.moves
  keyed := swept.keyed
  apart := fun change member later => swept.apart change member (List.mem_cons_of_mem _ later)
  removals := fun other member =>
    ⟨fun later => (swept.removals other member).1 (List.mem_cons_of_mem _ later), (swept.removals other member).2⟩

/-- The state of a connection that has not been visited is the one it will have. -/
theorem Swept.unvisited (swept : Swept casing first sweep (key :: rest)) :
    sweep.settled.connections key = sweep.server.connections key := by
  unfold Sweep.settled
  rw [applyChanges_eq]
  exact settledMap_apart fun change member same => swept.apart change member (same ▸ List.mem_cons_self)

/-- A visit that is a move of the connection. -/
theorem Swept.moved {events : List HttpEvent} (swept : Swept casing first sweep (key :: rest))
    (distinct : (key :: rest).Nodup) (last : Sweep) (moved : Moved casing sweep.settled events last.settled)
    (log : last.log = sweep.log ++ events)
    (changes : ∀ change ∈ last.stateChanges, change ∈ sweep.stateChanges ∨ change.1 = key)
    (removals : last.connectionsToRemove = sweep.connectionsToRemove)
    {state : Option ConnectionState}
    (set : last.settled.connections = Function.update sweep.settled.connections key state) :
    Swept casing first last rest := by
  have fresh : key ∉ rest := (List.nodup_cons.mp distinct).1
  refine ⟨?_, moved.keyed swept.keyed, ?_, ?_⟩
  · rw [log]
    exact .snoc swept.moves moved
  · intro change member
    rcases changes change member with earlier | same
    · exact swept.weaken.apart change earlier
    · exact same ▸ fresh
  · intro other member
    rw [removals] at member
    obtain ⟨visited, removable⟩ := swept.removals other member
    have different : other ≠ key := fun same => visited (same ▸ List.mem_cons_self)
    refine ⟨fun later => visited (List.mem_cons_of_mem _ later), ?_⟩
    rw [set, Function.update_of_ne different]
    exact removable

/-- A connection that was visited may be removed later. -/
theorem Swept.removed (swept : Swept casing first sweep rest) (visited : key ∉ rest)
    (removable : ∀ state, sweep.settled.connections key = some state → state.Removable) :
    Swept casing first (sweep.remove key) rest := by
  refine ⟨swept.moves, swept.keyed, swept.apart, ?_⟩
  intro other member
  rcases List.mem_append.mp member with earlier | same
  · exact swept.removals other earlier
  · cases List.mem_singleton.mp same
    exact ⟨visited, removable⟩

/-- A visit sets the state of its own connection, next to the changes that were put off. -/
theorem settled_visit {visit : Visit} {state : ConnectionState} (apart : ∀ change ∈ sweep.stateChanges, change.1 ≠ key)
    (set : visit.server.connections = Function.update sweep.server.connections key (some state)) :
    (sweep.visit visit).settled =
      { visit.server with connections := Function.update sweep.settled.connections key (some state) } := by
  unfold Sweep.settled
  rw [applyChanges_eq, applyChanges_eq]
  change { visit.server with connections := settledMap sweep.stateChanges visit.server.connections } = _
  rw [set, settledMap_update apart]

theorem settled_change (sweep : Sweep) (key : Nat) (state : ConnectionState)
    (there : (sweep.settled.connections key).isSome = true) :
    (sweep.change key state).settled = sweep.settled.setConnection key state := by
  change (sweep.stateChanges ++ [(key, state)]).foldl Sweep.applyChange sweep.server = _
  rw [List.foldl_append]
  exact if_pos there

theorem settled_visit_change {visit : Visit} {before : ConnectionState}
    (apart : ∀ change ∈ sweep.stateChanges, change.1 ≠ key)
    (set : visit.server.connections = Function.update sweep.server.connections key (some before))
    (after : ConnectionState) :
    ((sweep.visit visit).change key after).settled =
      { visit.server with connections := Function.update sweep.settled.connections key (some after) } := by
  have settled := settled_visit apart set
  rw [settled_change, settled, HttpServer.setConnection]
  · simp only [Function.update_idem]
  · rw [settled]
    simp

theorem settled_eq (sweep : Sweep) :
    sweep.settled = { sweep.server with connections := sweep.settled.connections } := by
  unfold Sweep.settled
  rw [applyChanges_eq]

theorem Swept.others (swept : Swept casing first sweep (key :: rest)) : ∀ change ∈ sweep.stateChanges, change.1 ≠ key :=
  fun change member same => swept.apart change member (same ▸ List.mem_cons_self)

theorem Swept.visit {visit : Visit} {state : ConnectionState} (swept : Swept casing first sweep (key :: rest))
    (distinct : (key :: rest).Nodup) (log : visit.log = sweep.log ++ events)
    (set : visit.server.connections = Function.update sweep.server.connections key (some state))
    (moved : Moved casing sweep.settled events
      { visit.server with connections := Function.update sweep.settled.connections key (some state) }) :
    Swept casing first (sweep.visit visit) rest := by
  have settled := settled_visit swept.others set
  rw [← settled] at moved
  exact swept.moved distinct _ moved log (fun change member => .inl member) rfl (congrArg HttpServer.connections settled)

/-- A visit that also puts off a change of the connection's state. -/
theorem Swept.change {visit : Visit} {before after : ConnectionState} (swept : Swept casing first sweep (key :: rest))
    (distinct : (key :: rest).Nodup) (log : visit.log = sweep.log ++ events)
    (set : visit.server.connections = Function.update sweep.server.connections key (some before))
    (moved : Moved casing sweep.settled events
      { visit.server with connections := Function.update sweep.settled.connections key (some after) }) :
    Swept casing first ((sweep.visit visit).change key after) rest := by
  have settled := settled_visit_change swept.others set after
  rw [← settled] at moved
  refine swept.moved distinct _ moved log ?_ rfl (congrArg HttpServer.connections settled)
  intro change member
  rcases List.mem_append.mp member with earlier | last
  · exact .inl earlier
  · exact .inr (List.mem_singleton.mp last ▸ rfl)

/-- What the parser leaves of a request is a move. -/
theorem Swept.parsed (swept : Swept casing first sweep (key :: rest)) (distinct : (key :: rest).Nodup)
    {reading : Reading} {bytes : List UInt8} {parsed : Parsed}
    (found : sweep.server.connections key = some (.readingRequest reading))
    (parses : (reading.extend bytes).Parses casing parsed) :
    Swept casing first ((sweep.visit (sweep.report (.read key bytes))).parsed key parsed) rest := by
  have state := swept.unvisited.trans found
  have same := settled_eq sweep
  have kept : sweep.server.connections =
      Function.update sweep.server.connections key (some (.readingRequest reading)) :=
    (Function.update_eq_self_iff.mpr found.symm).symm
  cases parsed with
  | waiting left =>
      apply swept.visit distinct rfl rfl
      rw [same] at state ⊢
      exact .waits state parses
  | failed response =>
      refine swept.change distinct (List.append_assoc _ _ _) kept ?_
      rw [same] at state ⊢
      exact .refuses state parses
  | complete left =>
      obtain ⟨parseState, buffer, request⟩ := left
      cases request with
      | none =>
          apply swept.visit distinct rfl rfl
          rw [same] at state ⊢
          exact .misses state parses rfl
      | some request =>
          refine swept.change distinct (List.append_assoc _ _ _) kept ?_
          rw [same] at state ⊢
          exact .requests state parses rfl

/-- A response that begins to be written is a move. -/
theorem Swept.begin (swept : Swept casing first sweep (key :: rest)) (distinct : (key :: rest).Nodup)
    {requestId clientId : Nat}
    (found : sweep.server.connections key = some (.writingResponse requestId .pending clientId)) :
    Swept casing first (sweep.begin key requestId clientId) rest := by
  have state := swept.unvisited.trans found
  have same := settled_eq sweep
  unfold Sweep.begin
  cases available : sweep.server.pendingResponses.lookup requestId with
  | none => exact swept.weaken
  | some response =>
      apply swept.visit distinct rfl rfl
      rw [same] at state ⊢
      exact .begins state available

/-- A piece of a response that is written is a move, and so is its end. -/
theorem Swept.write (swept : Swept casing first sweep (key :: rest)) (distinct : (key :: rest).Nodup)
    {requestId clientId sent : Nat} {response : HttpResponse} (date : HttpDate) (result : WriteResult)
    (found : sweep.server.connections key = some (.writingResponse requestId (.writing response sent) clientId)) :
    Swept casing first (sweep.write date key requestId clientId response sent result) rest := by
  have state := swept.unvisited.trans found
  have same := settled_eq sweep
  have own : clientId = key := swept.keyed key _ _ _ state
  subst own
  cases result with
  | wouldBlock => exact swept.weaken
  | error =>
      apply swept.weaken.removed (List.nodup_cons.mp distinct).1
      intro other there
      cases Option.some.inj (state.symm.trans there)
      trivial
  | ok written =>
      unfold Sweep.write
      dsimp only
      split
      · next whole =>
        apply swept.change distinct rfl rfl
        rw [same] at state ⊢
        exact .finishes state (List.take_prefix ..) whole
      · apply swept.visit distinct rfl rfl
        rw [same] at state ⊢
        exact .writes state (List.take_prefix ..)

/-- One round of the loop. -/
theorem Swept.connection {next : Sweep} {rounds : Nat} {surroundings : Surroundings}
    (swept : Swept casing first sweep (key :: rest)) (distinct : (key :: rest).Nodup)
    (done : sweep.connection casing rounds surroundings key = some next) : Swept casing first next rest := by
  have visited := (List.nodup_cons.mp distinct).1
  unfold Sweep.connection at done
  split at done
  · cases done
    exact swept.weaken
  · cases found : sweep.server.connections key with
    | none =>
        simp only [found, Option.some.injEq] at done
        exact done ▸ swept.weaken
    | some state =>
        cases state with
        | readingRequest reading =>
            have removable : ∀ state, sweep.settled.connections key = some state → state.Removable := by
              intro state there
              cases Option.some.inj (there.symm.trans (swept.unvisited.trans found))
              trivial
            cases result : surroundings.read key with
            | wouldBlock =>
                simp only [found, result, Option.some.injEq] at done
                exact done ▸ swept.weaken
            | error =>
                simp only [found, result, Option.some.injEq] at done
                exact done ▸ swept.weaken.removed visited removable
            | ok bytes =>
                cases bytes with
                | nil =>
                    simp only [found, result, Option.some.injEq] at done
                    exact done ▸ swept.weaken.removed visited removable
                | cons byte bytes =>
                    simp only [found, result, Option.map_eq_some_iff] at done
                    obtain ⟨parsed, parses, rfl⟩ := done
                    exact swept.parsed distinct found ⟨rounds, parses⟩
        | processingRequest request clientId =>
            simp only [found, Option.some.injEq] at done
            exact done ▸ swept.weaken
        | writingResponse requestId responseState clientId =>
            cases responseState with
            | pending =>
                simp only [found, Option.some.injEq] at done
                exact done ▸ swept.begin distinct found
            | writing response sent =>
                simp only [found, Option.some.injEq] at done
                exact done ▸ swept.write distinct _ _ found
            | complete =>
                simp only [found, Option.some.injEq] at done
                exact done ▸ swept.weaken
        | keepAlive =>
            have kept : sweep.server.connections = Function.update sweep.server.connections key (some .keepAlive) :=
              (Function.update_eq_self_iff.mpr found.symm).symm
            have state := swept.unvisited.trans found
            have same := settled_eq sweep
            have closes : Swept casing first (sweep.change key .closed) rest := by
              refine @Swept.change casing [] first sweep key rest sweep.toVisit .keepAlive .closed swept distinct
                (List.append_nil _).symm kept ?_
              rw [same] at state ⊢
              exact .expires state
            have reads : Swept casing first ((sweep.visit sweep.worked).change key (.readingRequest .start)) rest := by
              refine @Swept.change casing [] first sweep key rest sweep.worked .keepAlive _ swept distinct
                (List.append_nil _).symm kept ?_
              rw [same] at state ⊢
              exact .reuses state
            simp only [found] at done
            split at done
            · refine (Option.some.inj done) ▸ closes.removed visited ?_
              intro other there
              rw [settled_change sweep key .closed (by rw [state]; rfl), connections_setConnection,
                Function.update_self] at there
              cases Option.some.inj there
              trivial
            · exact (Option.some.inj done) ▸ reads
        | closed =>
            simp only [found, Option.some.injEq] at done
            refine done ▸ swept.weaken.removed visited ?_
            intro state there
            cases Option.some.inj (there.symm.trans (swept.unvisited.trans found))
            trivial

theorem Swept.connections {next : Sweep} {rounds : Nat} {surroundings : Surroundings}
    (swept : Swept casing first sweep remaining) (distinct : remaining.Nodup)
    (done : sweep.connections casing rounds surroundings remaining = some next) : Swept casing first next [] := by
  induction remaining generalizing sweep with
  | nil =>
      cases done
      exact swept
  | cons key rest ih =>
      obtain ⟨middle, step, later⟩ := Option.bind_eq_some_iff.mp done
      exact ih (swept.connection distinct step) (List.nodup_cons.mp distinct).2 later

/-! The other loops, and the whole call. -/

theorem Moves.silent {log : List HttpEvent} (moves : Moves casing first log server) (moved : Moved casing server [] next) :
    Moves casing first log next := by
  simpa using moves.snoc moved

theorem Moves.removals {log : List HttpEvent} {keys : List Nat} (moves : Moves casing first log server)
    (removable : ∀ key ∈ keys, ∀ state, server.connections key = some state → state.Removable) :
    Moves casing first log (keys.foldl Sweep.removeConnection server) := by
  induction keys generalizing server with
  | nil => exact moves
  | cons key rest ih =>
      rw [List.foldl_cons]
      have removed : Moves casing first log (Sweep.removeConnection server key) := by
        cases found : server.connections key with
        | none =>
            have same : Sweep.removeConnection server key = server := by
              unfold Sweep.removeConnection
              rw [found]
            rw [same]
            exact moves
        | some state => exact moves.silent (.removes found (removable key List.mem_cons_self state found))
      apply ih removed
      intro other member state there
      rw [connections_removeConnection] at there
      by_cases same : other = key
      · simp [same] at there
      · rw [Function.update_of_ne same] at there
        exact removable other (List.mem_cons_of_mem _ member) state there

theorem Moves.accept {overflowChecks : Bool} {accepts : Nat} {visit last : Visit}
    (moves : Moves casing first visit.log visit.server)
    (free : ∀ client ∈ HttpServer.numbers (min accepts visit.remainingBudget) visit.server.nextClientId,
      client ∉ visit.server.clients)
    (done : visit.accept overflowChecks accepts = some last) : Moves casing first last.log last.server := by
  induction accepts generalizing visit with
  | zero =>
      cases done
      exact moves
  | succ accepts ih =>
      unfold Visit.accept at done
      split at done
      · next left =>
          obtain ⟨budget, split⟩ := Nat.exists_eq_succ_of_ne_zero (Nat.pos_iff_ne_zero.mp left)
          rw [split, Nat.succ_min_succ, HttpServer.numbers] at free
          dsimp only at done
          split at done
          · cases done
          · refine ih (moves.snoc (.accepts (free _ List.mem_cons_self))) ?_ done
            have budget_eq : visit.remainingBudget - 1 = budget := by omega
            intro client member
            exact free client (List.mem_cons_of_mem _ (budget_eq ▸ member))
      · cases done
        exact moves

@[simp] theorem applyChange_pendingRequests (server : HttpServer) (change : Nat × ConnectionState) :
    (Sweep.applyChange server change).pendingRequests = server.pendingRequests := by
  rw [applyChange_eq]

theorem Moves.forward {lossy : List UInt8 → String} {routes : List RouteConfig} {visit : Visit} (room : Nat)
    (moves : Moves casing first visit.log visit.server) :
    Moves casing first (visit.forward lossy routes visit.server.pendingRequests room).log
      (visit.forward lossy routes visit.server.pendingRequests room).server := by
  generalize pending : visit.server.pendingRequests = requests
  induction requests generalizing visit room with
  | nil => exact moves
  | cons entry rest ih =>
      obtain ⟨requestId, clientId, request⟩ := entry
      have unrouted : ∀ body, Moves casing first
          (({ visit with server := { visit.server with pendingRequests := rest } } : Visit).unrouted requestId clientId
            body).log
          (({ visit with server := { visit.server with pendingRequests := rest } } : Visit).unrouted requestId clientId
            body).server := fun body => moves.snoc (.unroutes body pending)
      unfold Visit.forward
      split
      · exact moves
      · dsimp only
        split
        · exact ih room (unrouted "Route not found") (applyChange_pendingRequests _ _)
        · split
          · cases room with
            | zero => exact moves
            | succ room =>
                refine ih room ?_ (applyChange_pendingRequests _ _)
                exact moves.snoc (.pushes _ _ pending)
          · exact ih room (unrouted "Route not configured") (applyChange_pendingRequests _ _)

theorem Moves.readResponses {visit : Visit} (moves : Moves casing first visit.log visit.server) :
    Moves casing first (visit.readResponses visit.server.resp).log (visit.readResponses visit.server.resp).server := by
  generalize queued : visit.server.resp = packets
  induction packets generalizing visit with
  | nil => exact moves
  | cons packet rest ih =>
      unfold Visit.readResponses
      split
      · exact moves
      · cases waiting : visit.server.responseWaitQueue with
        | nil =>
            simp only [Visit.report, waiting]
            simpa only [waiting] using moves.snoc (.loses queued waiting)
        | cons requestId others =>
            simp only [Visit.report, waiting]
            refine ih ?_ rfl
            exact moves.snoc (.pops queued waiting)

theorem configure_configured (server : HttpServer) (surroundings : Surroundings) :
    (server.configure casing surroundings).listenAddr.isSome = (surroundings.conf.isSome || server.listenAddr.isSome) ∧
      (server.configure casing surroundings).routesConfig.isSome =
        (surroundings.routes.isSome || server.routesConfig.isSome) := by
  unfold HttpServer.configure
  cases surroundings.conf <;> cases surroundings.routes <;> simp [Option.orElse]

/-- What is left for the clients that wait, when the call comes to accept them. -/
theorem admits_eq {surroundings : Surroundings} {remainingBudget : Nat} {visit : Visit} {listenAddr : String}
    {routes : List RouteConfig} (addressed : (server.configure casing surroundings).listenAddr = some listenAddr)
    (routed : (server.configure casing surroundings).routesConfig = some routes)
    (going : surroundings.signal ≠ some "stop")
    (begun : (if (surroundings.conf.isSome || surroundings.routes.isSome) = true then
      Visit.worked ⟨server.configure casing surroundings, remainingBudget, 0, []⟩
      else ⟨server.configure casing surroundings, remainingBudget, 0, []⟩) = visit) :
    server.admits surroundings remainingBudget = min surroundings.accepts visit.remainingBudget := by
  obtain ⟨address, routing⟩ := @configure_configured casing server surroundings
  rw [addressed] at address
  rw [routed] at routing
  subst begun
  simp only [HttpServer.admits, ← address, ← routing, Option.isSome_some, Bool.and_self, Bool.true_and, bne_iff_ne, ne_eq,
    going, not_false_eq_true, if_true]
  split <;> rfl

/-- A call of `process` that does not panic is a sequence of moves. -/
theorem process_moves {overflowChecks : Bool} {lossy : List UInt8 → String} {rounds remainingBudget : Nat}
    {surroundings : Surroundings} {visit : Visit} {result : ProcessResult} (keyed : Keyed server)
    (free : ∀ client ∈ server.newClients surroundings remainingBudget, client ∉ server.clients)
    (done : server.process overflowChecks casing lossy rounds surroundings remainingBudget = some (visit, .result result)) :
    Moves casing server visit.log visit.server := by
  have configured : Moves casing server [] (server.configure casing surroundings) :=
    Moved.single (.configures _ _)
  unfold HttpServer.process at done
  dsimp only at done
  split at done
  · next routes addressed routed =>
      generalize begun : (if (surroundings.conf.isSome || surroundings.routes.isSome) = true then
        Visit.worked ⟨server.configure casing surroundings, remainingBudget, 0, []⟩
        else ⟨server.configure casing surroundings, remainingBudget, 0, []⟩) = visit' at done
      have moves : Moves casing server visit'.log visit'.server := by
        subst begun
        split <;> exact configured
      split at done
      · cases done
        exact moves
      · next going =>
          cases accepting : visit'.accept overflowChecks surroundings.accepts with
          | none => simp [accepting] at done
          | some entered =>
              simp only [accepting] at done
              obtain ⟨sweep, swept, ends⟩ := Option.map_eq_some_iff.mp done
              cases ends
              have accepted : Moves casing server entered.log entered.server := by
                refine moves.accept ?_ accepting
                have same : visit'.server.nextClientId = server.nextClientId ∧ visit'.server.clients = server.clients := by
                  subst begun
                  split <;> exact ⟨rfl, rfl⟩
                rw [← admits_eq addressed routed going begun, same.1, same.2]
                exact free
              have start : Swept casing server ⟨entered, [], []⟩ surroundings.order :=
                ⟨accepted, accepted.keyed keyed, by simp, by simp⟩
              have loop := start.connections surroundings.distinct swept
              have settled : Moves casing server sweep.settle.log sweep.settle.server :=
                loop.moves.removals fun key member => (loop.removals key member).2
              exact (settled.forward surroundings.room).readResponses
  · cases done
    exact configured

/-- A run that keeps pending requests apart is made of moves. -/
theorem run_moves {overflowChecks : Bool} {lossy : List UInt8 → String} {req : Nat} {log : List HttpEvent}
    (run : (httpMachine overflowChecks casing lossy).Run HttpServer.KeepsApart (.new req) log server) :
    Moves casing (.new req) log server ∧ Keyed server := by
  have keyed : Keyed (.new req) := by simp [Keyed, HttpServer.new]
  induction run with
  | nil => exact ⟨.nil, keyed⟩
  | @snoc log events server next action _ apart step ih =>
      obtain ⟨moves, keyed⟩ := ih
      have later : Moves casing server events next := by
        cases action with
        | deliver packets =>
            cases step
            exact Moved.single (.delivers _)
        | process remainingBudget rounds surroundings =>
            obtain ⟨⟨visit, returned⟩, done, left⟩ := Option.bind_eq_some_iff.mp step
            cases returned with
            | result result =>
                cases left
                exact process_moves keyed apart done
            | panicked => cases left
      exact ⟨moves.append later, later.keyed keyed⟩

end Flowd.Http
