import Flowd.Http.Moves
import Flowd.Http.Segments

namespace Flowd.Http

/-! What comes of the streams that the connections send, in every run. -/

namespace HttpEvent

/-- What a read of the connection has delivered. -/
def segment (key : Nat) : HttpEvent → Option (List UInt8)
  | .read clientId bytes => if clientId = key then some bytes else none
  | _ => none

/-- What has come of a message of the connection. -/
def outcome (key : Nat) : HttpEvent → Option Outcome
  | .requested _ clientId request => if clientId = key then some (.inl request) else none
  | .refused _ clientId response => if clientId = key then some (.inr response) else none
  | _ => none

end HttpEvent

theorem segment_read (key other : Nat) (bytes : List UInt8) :
    (HttpEvent.read key bytes).segment other = if key = other then some bytes else none := rfl

theorem outcome_read (key other : Nat) (bytes : List UInt8) : (HttpEvent.read key bytes).outcome other = none := rfl

/-- The parser of the connection is there, or will be as it starts. -/
def ConnectionState.Reads (reading : Reading) : ConnectionState → Prop
  | .readingRequest left => left = reading
  | _ => reading = .start

variable {casing : Casing} {server next : HttpServer} {log events : List HttpEvent} {key : Nat} {reading : Reading}
variable {before after : ConnectionState}

/-- What the reads of the connection that has the number have delivered, and what has come of it. -/
def delivered (key : Nat) (log : List HttpEvent) : List (List UInt8) := (since key log).filterMap (HttpEvent.segment key)

def outcomes (key : Nat) (log : List HttpEvent) : List Outcome := (since key log).filterMap (HttpEvent.outcome key)

/-- The parser is where what the connection has sent leads to. -/
def Reached (casing : Casing) (server : HttpServer) (log : List HttpEvent) (key : Nat) : Prop :=
  ∃ reading, (httpReader casing).History (delivered key log) (outcomes key log) reading ∧
    ∀ state, server.connections key = some state → state.Reads reading

/-- Whose request is queued waits for it, and has no other one in the queue. -/
structure Queued (connections : Nat → Option ConnectionState) (clients : List Nat) : Prop where
  once : clients.Nodup
  processing : ∀ client ∈ clients, ∀ state, connections client = some state →
    ∃ request clientId, state = .processingRequest request clientId

structure Streamed (casing : Casing) (server : HttpServer) (log : List HttpEvent) : Prop where
  reached : ∀ key, Reached casing server log key
  queued : Queued server.connections server.clients

/-! What keeps it. -/

/-- Events that tell nothing about the connection's stream. -/
structure Silent (events : List HttpEvent) (key : Nat) : Prop where
  quiet : ∀ event ∈ events, event.accepts key = false
  segment : events.filterMap (HttpEvent.segment key) = []
  outcome : events.filterMap (HttpEvent.outcome key) = []

theorem Silent.nil : Silent [] key := ⟨by simp, rfl, rfl⟩

theorem delivered_append (log : List HttpEvent) (quiet : ∀ event ∈ events, event.accepts key = false) :
    delivered key (log ++ events) = delivered key log ++ events.filterMap (HttpEvent.segment key) := by
  rw [delivered, since_append log quiet, List.filterMap_append, ← delivered]

theorem outcomes_append (log : List HttpEvent) (quiet : ∀ event ∈ events, event.accepts key = false) :
    outcomes key (log ++ events) = outcomes key log ++ events.filterMap (HttpEvent.outcome key) := by
  rw [outcomes, since_append log quiet, List.filterMap_append, ← outcomes]

theorem Silent.delivered (silent : Silent events key) : delivered key (log ++ events) = delivered key log := by
  rw [delivered_append log silent.quiet, silent.segment, List.append_nil]

theorem Silent.outcomes (silent : Silent events key) : outcomes key (log ++ events) = outcomes key log := by
  rw [outcomes_append log silent.quiet, silent.outcome, List.append_nil]

/-- One event that says neither of the key. -/
theorem Silent.single {event : HttpEvent} (quiet : event.accepts key = false) (segment : event.segment key = none)
    (outcome : event.outcome key = none) : Silent [event] key :=
  ⟨by simpa using quiet, by simp [segment], by simp [outcome]⟩

theorem Reached.same (reached : Reached casing server log key) (silent : Silent events key)
    (same : next.connections key = server.connections key) : Reached casing next (log ++ events) key := by
  obtain ⟨reading, history, reads⟩ := reached
  refine ⟨reading, ?_, ?_⟩
  · rw [silent.delivered, silent.outcomes]
    exact history
  · rw [same]
    exact reads

/-- A move of one connection, with what it has to say about its own stream only. -/
theorem Streamed.step (streamed : Streamed casing server log) (apart : ∀ other, other ≠ key → Silent events other)
    (set : next.connections = Function.update server.connections key (some after))
    (reached : Reached casing next (log ++ events) key) (queued : Queued next.connections next.clients) :
    Streamed casing next (log ++ events) := by
  refine ⟨?_, queued⟩
  intro other
  by_cases same : other = key
  · exact same ▸ reached
  · exact (streamed.reached other).same (apart other same) (by rw [set, Function.update_of_ne same])

/-- A connection that is not in the queue may change its state. -/
theorem Queued.update {connections : Nat → Option ConnectionState} {clients : List Nat} (queued : Queued connections clients)
    (absent : key ∉ clients) (after : Option ConnectionState) : Queued (Function.update connections key after) clients := by
  refine ⟨queued.once, ?_⟩
  intro client member state found
  have different : client ≠ key := fun same => absent (same ▸ member)
  rw [Function.update_of_ne different] at found
  exact queued.processing client member state found

theorem Queued.absent {connections : Nat → Option ConnectionState} {clients : List Nat} (queued : Queued connections clients)
    (found : connections key = some before) (busy : ∀ request clientId, before ≠ .processingRequest request clientId) :
    key ∉ clients := by
  intro member
  obtain ⟨request, clientId, same⟩ := queued.processing key member before found
  exact busy request clientId same

theorem Queued.gone {connections : Nat → Option ConnectionState} {clients : List Nat} (queued : Queued connections clients)
    (key : Nat) : Queued (Function.update connections key none) clients := by
  refine ⟨queued.once, ?_⟩
  intro client member state found
  by_cases same : client = key
  · simp [same] at found
  · rw [Function.update_of_ne same] at found
    exact queued.processing client member state found

/-- The connection joins the queue with its request. -/
theorem Queued.asks {connections : Nat → Option ConnectionState} {clients : List Nat} (queued : Queued connections clients)
    (absent : key ∉ clients) (request : HttpRequest) (clientId : Nat) :
    Queued (Function.update connections key (some (.processingRequest request clientId))) (clients ++ [key]) := by
  refine ⟨List.nodup_append.mpr ⟨queued.once, List.nodup_singleton key, ?_⟩, ?_⟩
  · intro client member other last same
    exact absent (List.mem_singleton.mp last ▸ same ▸ member)
  · intro client member state found
    rcases List.mem_append.mp member with earlier | last
    · exact (queued.update absent _).processing client earlier state found
    · cases List.mem_singleton.mp last
      rw [Function.update_self, Option.some.injEq] at found
      exact ⟨request, clientId, found.symm⟩

/-- A connection that does not read changes its state. -/
theorem Streamed.set (streamed : Streamed casing server log) (found : server.connections key = some before)
    (silent : ∀ other, Silent events other) (writes : ∀ reading, before ≠ .readingRequest reading)
    (busy : ∀ request clientId, before ≠ .processingRequest request clientId)
    (set : next.connections = Function.update server.connections key (some after)) (fits : after.Reads .start)
    (pending : next.pendingRequests = server.pendingRequests) : Streamed casing next (log ++ events) := by
  have clients : next.clients = server.clients := congrArg (List.map _) pending
  refine streamed.step (fun other _ => silent other) set ?_ ?_
  · obtain ⟨reading, history, reads⟩ := streamed.reached key
    have start : reading = .start := by
      have left := reads before found
      cases before with
      | readingRequest reading => exact absurd rfl (writes reading)
      | _ => exact left
    subst start
    refine ⟨.start, ?_, ?_⟩
    · rw [(silent key).delivered, (silent key).outcomes]
      exact history
    · intro state there
      rw [set, Function.update_self, Option.some.injEq] at there
      exact there ▸ fits
  · rw [set, clients]
    exact streamed.queued.update (streamed.queued.absent found busy) _

/-- The connection reads, and the parser waits. -/
theorem Streamed.waits {left : Reading} {bytes : List UInt8} (streamed : Streamed casing server log)
    (found : server.connections key = some (.readingRequest reading))
    (reads : (httpReader casing).reads reading bytes (.inl left)) :
    Streamed casing (server.setConnection key (.readingRequest left)) (log ++ [.read key bytes]) := by
  have quiet : ∀ other, ∀ event ∈ [HttpEvent.read key bytes], event.accepts other = false := by simp [HttpEvent.accepts]
  refine streamed.step ?_ (connections_setConnection ..) ?_ ?_
  · intro other different
    exact .single rfl (by simp [segment_read, different.symm]) rfl
  · obtain ⟨reached, history, fits⟩ := streamed.reached key
    cases fits _ found
    refine ⟨left, ?_, ?_⟩
    · rw [delivered_append log (quiet key), outcomes_append log (quiet key)]
      simpa [List.filterMap_cons, segment_read, outcome_read] using history.waits reads
    · intro state there
      rw [connections_setConnection, Function.update_self, Option.some.injEq] at there
      exact there ▸ rfl
  · exact streamed.queued.update (streamed.queued.absent found (by simp)) _

/-- The connection reads, and a message has an outcome. -/
theorem Streamed.ends {bytes : List UInt8} {outcome : Outcome} {event : HttpEvent} (streamed : Streamed casing server log)
    (found : server.connections key = some (.readingRequest reading))
    (reads : (httpReader casing).reads reading bytes (.inr outcome))
    (set : next.connections = Function.update server.connections key (some after)) (fits : after.Reads .start)
    (own : event.outcome key = some outcome) (apart : ∀ other, other ≠ key → event.outcome other = none)
    (other : ∀ key, event.segment key = none) (calm : ∀ key, event.accepts key = false)
    (queued : Queued next.connections next.clients) : Streamed casing next (log ++ [.read key bytes, event]) := by
  have quiet : ∀ other, ∀ later ∈ [HttpEvent.read key bytes, event], later.accepts other = false := by
    intro other
    simpa [HttpEvent.accepts] using calm other
  refine streamed.step ?_ set ?_ queued
  · intro client different
    exact ⟨quiet client, by simp [other, segment_read, different.symm],
      by simp [List.filterMap_cons, apart client different, outcome_read]⟩
  · obtain ⟨reached, history, reads'⟩ := streamed.reached key
    cases reads' _ found
    refine ⟨.start, ?_, ?_⟩
    · have later : (httpReader casing).History _ _ .start := history.ends reads
      rw [delivered_append log (quiet key), outcomes_append log (quiet key)]
      simpa [List.filterMap_cons, own, other, segment_read, outcome_read] using later
    · intro state there
      rw [set, Function.update_self, Option.some.injEq] at there
      exact there ▸ fits

/-- The first request in the queue leaves it, and its connection waits for the response. -/
theorem Streamed.leaves {requestId clientId number : Nat} {request : HttpRequest} {rest : List (Nat × Nat × HttpRequest)}
    {middle : HttpServer} (streamed : Streamed casing server log)
    (first : server.pendingRequests = (requestId, clientId, request) :: rest) (silent : ∀ other, Silent events other)
    (pending : middle.pendingRequests = rest) (connections : middle.connections = server.connections) :
    Streamed casing (Sweep.applyChange middle (clientId, .writingResponse number .pending clientId)) (log ++ events) := by
  have clients : server.clients = clientId :: middle.clients := by
    rw [HttpServer.clients, first, HttpServer.clients, pending]
    rfl
  have queued := streamed.queued
  rw [clients] at queued
  obtain ⟨alone, once⟩ := List.nodup_cons.mp queued.once
  have others : Queued server.connections middle.clients :=
    ⟨once, fun client member => queued.processing client (List.mem_cons_of_mem _ member)⟩
  unfold Sweep.applyChange
  rw [connections]
  split
  · next there =>
      obtain ⟨state, found⟩ := Option.isSome_iff_exists.mp there
      obtain ⟨asked, asker, rfl⟩ := queued.processing clientId List.mem_cons_self state found
      have set : (middle.setConnection clientId (.writingResponse number .pending clientId)).connections =
          Function.update server.connections clientId (some (.writingResponse number .pending clientId)) := by
        rw [connections_setConnection, connections]
      refine streamed.step (fun other _ => silent other) set ?_ ?_
      · obtain ⟨reading, history, reads⟩ := streamed.reached clientId
        refine ⟨reading, ?_, ?_⟩
        · rw [(silent clientId).delivered, (silent clientId).outcomes]
          exact history
        · intro state there
          have start : reading = .start := reads _ found
          rw [set, Function.update_self, Option.some.injEq] at there
          exact there ▸ start
      · rw [set]
        exact others.update alone _
  · refine ⟨fun key => (streamed.reached key).same (silent key) (by rw [connections]), ?_⟩
    rw [connections]
    exact others

/-- Nothing happens to the connections. -/
theorem Streamed.idle (streamed : Streamed casing server log) (silent : ∀ key, Silent events key)
    (connections : next.connections = server.connections) (pending : next.pendingRequests = server.pendingRequests) :
    Streamed casing next (log ++ events) := by
  have clients : next.clients = server.clients := congrArg (List.map _) pending
  refine ⟨fun key => (streamed.reached key).same (silent key) (by rw [connections]), ?_⟩
  rw [connections, clients]
  exact streamed.queued

/-- A new client starts from nothing, whoever had its number before. -/
theorem Reached.accepts {connections : Nat → Option ConnectionState}
    (set : next.connections = Function.update connections key (some (.readingRequest .start))) :
    Reached casing next (log ++ [.accepted key]) key := by
  refine ⟨.start, ?_, ?_⟩
  · rw [delivered, outcomes, since_accepted]
    exact .nil
  · intro state found
    rw [set, Function.update_self, Option.some.injEq] at found
    exact found ▸ rfl

theorem Streamed.accepts (streamed : Streamed casing server log) (free : key ∉ server.clients)
    (set : next.connections = Function.update server.connections key (some (.readingRequest .start)))
    (pending : next.pendingRequests = server.pendingRequests) : Streamed casing next (log ++ [.accepted key]) := by
  have clients : next.clients = server.clients := congrArg (List.map _) pending
  refine streamed.step ?_ set ?_ ?_
  · intro other different
    exact .single (by simp [HttpEvent.accepts, different.symm]) rfl rfl
  · exact .accepts set
  · rw [set, clients]
    exact streamed.queued.update free _

theorem Streamed.new (casing : Casing) (req : Nat) : Streamed casing (.new req) [] where
  reached := fun _ => ⟨.start, .nil, by simp [HttpServer.new]⟩
  queued := ⟨List.nodup_nil, by simp [HttpServer.clients, HttpServer.new]⟩

theorem Streamed.moved (streamed : Streamed casing server log) (moved : Moved casing server events next) :
    Streamed casing next (log ++ events) := by
  cases moved with
  | configures | delivers => exact streamed.idle (fun _ => .nil) rfl rfl
  | accepts free => exact streamed.accepts free rfl rfl
  | waits state parses => exact streamed.waits state ⟨_, parses, rfl⟩
  | @misses key reading left bytes state parses nothing =>
      exact streamed.waits state ⟨_, parses, by simp [Parsed.result, nothing]⟩
  | @refuses key reading bytes response state parses =>
      refine streamed.ends state ⟨_, parses, rfl⟩ rfl rfl ?_ ?_ ?_ ?_ ?_
      · simp [HttpEvent.outcome]
      · intro other different
        simp [HttpEvent.outcome, different.symm]
      · simp [HttpEvent.segment]
      · simp [HttpEvent.accepts]
      · exact streamed.queued.update (streamed.queued.absent state (by simp)) _
  | @requests key reading left bytes request state parses found =>
      have absent := streamed.queued.absent state (by simp)
      have result : (Parsed.complete left).result = .inr (.inl request) := by simp [Parsed.result, found]
      refine streamed.ends state ⟨_, parses, result⟩ rfl rfl ?_ ?_ ?_ ?_ ?_
      · simp [HttpEvent.outcome]
      · intro other different
        simp [HttpEvent.outcome, different.symm]
      · simp [HttpEvent.segment]
      · simp [HttpEvent.accepts]
      · have asked := streamed.queued.asks absent request key
        simpa [HttpServer.clients] using asked
  | @begins key requestId clientId response state available =>
      exact streamed.set state (fun _ => .single rfl rfl rfl) (by simp) (by simp) rfl rfl rfl
  | writes state => exact streamed.set state (fun _ => .single rfl rfl rfl) (by simp) (by simp) rfl rfl rfl
  | finishes state => exact streamed.set state (fun _ => .single rfl rfl rfl) (by simp) (by simp) rfl rfl rfl
  | reuses state => exact streamed.set state (fun _ => .nil) (by simp) (by simp) rfl rfl rfl
  | expires state => exact streamed.set state (fun _ => .nil) (by simp) (by simp) rfl rfl rfl
  | @removes key state found removable =>
      have gone := connections_removeConnection server key
      have clients : (Sweep.removeConnection server key).clients = server.clients :=
        congrArg (List.map _) (pendingRequests_removeConnection server key)
      refine ⟨?_, ?_⟩
      · intro other
        obtain ⟨reading, history, reads⟩ := streamed.reached other
        refine ⟨reading, by simpa using history, ?_⟩
        intro state there
        rw [gone] at there
        by_cases same : other = key
        · simp [same] at there
        · rw [Function.update_of_ne same] at there
          exact reads state there
      · rw [gone, clients]
        exact streamed.queued.gone key
  | unroutes body first => exact streamed.leaves first (fun _ => .single rfl rfl rfl) rfl rfl
  | pushes index packet first => exact streamed.leaves first (fun _ => .single rfl rfl rfl) rfl rfl
  | loses | pops => exact streamed.idle (fun _ => .single rfl rfl rfl) rfl rfl

theorem Moves.streamed {first : HttpServer} (moves : Moves casing first events server) (start : Streamed casing first log) :
    Streamed casing server (log ++ events) := by
  induction moves with
  | nil => simpa using start
  | snoc _ moved ih =>
      rw [← List.append_assoc]
      exact ih.moved moved

/-! Calls return. -/

section
variable {surroundings : Surroundings} {sweep last : Sweep} {rounds more : Nat}

/-- What the connection reads now comes to an end. -/
def Returns (casing : Casing) (surroundings : Surroundings) (sweep : Sweep) (key : Nat) : Prop :=
  ∀ reading bytes, sweep.server.connections key = some (.readingRequest reading) → surroundings.read key = .ok bytes →
    bytes ≠ [] → ∃ parsed, (reading.extend bytes).Parses casing parsed

theorem parsed_others (sweep : Sweep) (parsed : Parsed) {other : Nat} (different : other ≠ key) :
    (sweep.parsed key parsed).server.connections other = sweep.server.connections other := by
  cases parsed with
  | waiting left => exact Function.update_of_ne different ..
  | failed response => rfl
  | complete left =>
      unfold Sweep.parsed
      dsimp only
      cases left.request with
      | none => exact Function.update_of_ne different ..
      | some request => rfl

theorem begin_others (sweep : Sweep) (requestId clientId : Nat) {other : Nat} (different : other ≠ key) :
    (sweep.begin key requestId clientId).server.connections other = sweep.server.connections other := by
  unfold Sweep.begin
  cases sweep.server.pendingResponses.lookup requestId with
  | none => rfl
  | some response => exact Function.update_of_ne different ..

theorem write_others (sweep : Sweep) (date : HttpDate) (requestId clientId : Nat) (response : HttpResponse) (sent : Nat)
    (result : WriteResult) {other : Nat} (different : other ≠ key) :
    (sweep.write date key requestId clientId response sent result).server.connections other =
      sweep.server.connections other := by
  cases result with
  | wouldBlock | error => rfl
  | ok written =>
      unfold Sweep.write
      dsimp only
      split <;> exact Function.update_of_ne different ..

/-- A round of the loop is about one connection. -/
theorem connection_others (done : sweep.connection casing rounds surroundings key = some last) {other : Nat}
    (different : other ≠ key) : last.server.connections other = sweep.server.connections other := by
  unfold Sweep.connection at done
  split at done
  · cases done
    rfl
  · cases found : sweep.server.connections key with
    | none =>
        simp only [found, Option.some.injEq] at done
        rw [← done]
    | some state =>
        cases state with
        | readingRequest reading =>
            cases result : surroundings.read key with
            | wouldBlock =>
                simp only [found, result, Option.some.injEq] at done
                rw [← done]
            | error =>
                simp only [found, result, Option.some.injEq] at done
                rw [← done]
                rfl
            | ok bytes =>
                cases bytes with
                | nil =>
                    simp only [found, result, Option.some.injEq] at done
                    rw [← done]
                    rfl
                | cons byte bytes =>
                    simp only [found, result, Option.map_eq_some_iff] at done
                    obtain ⟨parsed, -, rfl⟩ := done
                    exact parsed_others _ parsed different
        | processingRequest request clientId =>
            simp only [found, Option.some.injEq] at done
            rw [← done]
        | writingResponse requestId responseState clientId =>
            cases responseState with
            | pending =>
                simp only [found, Option.some.injEq] at done
                rw [← done]
                exact begin_others sweep requestId clientId different
            | writing response sent =>
                simp only [found, Option.some.injEq] at done
                rw [← done]
                exact write_others sweep _ requestId clientId response sent _ different
            | complete =>
                simp only [found, Option.some.injEq] at done
                rw [← done]
        | keepAlive =>
            simp only [found] at done
            split at done <;> cases done <;> rfl
        | closed =>
            simp only [found, Option.some.injEq] at done
            rw [← done]
            rfl

/-- The rounds that suffice do not change what the connection comes to. -/
theorem connection_returns (returns : Returns casing surroundings sweep key) :
    ∃ least last, ∀ rounds, least ≤ rounds → sweep.connection casing rounds surroundings key = some last := by
  by_cases spent : sweep.remainingBudget = 0
  · exact ⟨0, sweep, fun rounds _ => if_pos spent⟩
  · cases found : sweep.server.connections key with
    | none =>
        simp only [Sweep.connection, if_neg spent, found]
        exact ⟨0, _, fun _ _ => rfl⟩
    | some state =>
        cases state with
        | readingRequest reading =>
            cases result : surroundings.read key with
            | wouldBlock | error =>
                simp only [Sweep.connection, if_neg spent, found, result]
                exact ⟨0, _, fun _ _ => rfl⟩
            | ok bytes =>
                cases bytes with
                | nil =>
                    simp only [Sweep.connection, if_neg spent, found, result]
                    exact ⟨0, _, fun _ _ => rfl⟩
                | cons byte bytes =>
                    obtain ⟨parsed, least, parse⟩ := returns reading (byte :: bytes) found result (by simp)
                    refine ⟨least, (sweep.visit (sweep.report (.read key (byte :: bytes)))).parsed key parsed,
                      fun rounds enough => ?_⟩
                    simp only [Sweep.connection, if_neg spent, found, result, parse_more parse enough, Option.map_some]
        | writingResponse requestId responseState clientId =>
            cases responseState with
            | pending | writing | complete =>
                simp only [Sweep.connection, if_neg spent, found]
                exact ⟨0, _, fun _ _ => rfl⟩
        | keepAlive =>
            simp only [Sweep.connection, if_neg spent, found]
            split <;> exact ⟨0, _, fun _ _ => rfl⟩
        | processingRequest | closed =>
            simp only [Sweep.connection, if_neg spent, found]
            exact ⟨0, _, fun _ _ => rfl⟩

theorem connections_return {order : List Nat} (distinct : order.Nodup)
    (returns : ∀ key ∈ order, Returns casing surroundings sweep key) :
    ∃ least last, ∀ rounds, least ≤ rounds → sweep.connections casing rounds surroundings order = some last := by
  induction order generalizing sweep with
  | nil => exact ⟨0, sweep, fun _ _ => rfl⟩
  | cons key rest ih =>
      obtain ⟨visited, others⟩ := List.nodup_cons.mp distinct
      obtain ⟨first, middle, here⟩ := connection_returns (returns key List.mem_cons_self)
      have later : ∀ other ∈ rest, Returns casing surroundings middle other := by
        intro other member reading bytes found
        rw [connection_others (here first (Nat.le_refl _)) fun same => visited (same ▸ member)] at found
        exact returns other (List.mem_cons_of_mem _ member) reading bytes found
      obtain ⟨second, last, there⟩ := ih others later
      refine ⟨max first second, last, fun rounds enough => ?_⟩
      rw [Sweep.connections, here rounds (by omega), Option.bind_some]
      exact there rounds (by omega)

theorem accept_log {overflowChecks : Bool} {accepts : Nat} {visit entered : Visit}
    (done : visit.accept overflowChecks accepts = some entered) :
    entered.log = visit.log ++
      (HttpServer.numbers (min accepts visit.remainingBudget) visit.server.nextClientId).map .accepted := by
  induction accepts generalizing visit with
  | zero =>
      cases done
      simp [HttpServer.numbers]
  | succ accepts ih =>
      unfold Visit.accept at done
      split at done
      · next left =>
          dsimp only at done
          split at done
          · cases done
          · obtain ⟨budget, split⟩ := Nat.exists_eq_succ_of_ne_zero (Nat.pos_iff_ne_zero.mp left)
            have less : visit.remainingBudget - 1 = budget := by omega
            rw [ih done, split, Nat.succ_min_succ, HttpServer.numbers]
            simp [Visit.worked, Visit.report, Visit.setConnection, HttpServer.setConnection, less]
      · next spent =>
          cases done
          have empty : entered.remainingBudget = 0 := by omega
          simp [empty, HttpServer.numbers]

/-- The counter overflows only where so many clients have come. -/
theorem accept_panics {overflowChecks : Bool} {accepts : Nat} {visit : Visit}
    (panics : visit.accept overflowChecks accepts = none) :
    overflowChecks = true ∧ 2 ^ 32 ≤ visit.server.nextClientId + accepts := by
  induction accepts generalizing visit with
  | zero => cases panics
  | succ accepts ih =>
      unfold Visit.accept at panics
      split at panics
      · dsimp only at panics
        split at panics
        · next overflows => exact ⟨overflows.1, by omega⟩
        · obtain ⟨checked, later⟩ := ih panics
          have least : (visit.server.nextClientId + 1) % 2 ^ 32 ≤ visit.server.nextClientId + 1 := Nat.mod_le _ _
          refine ⟨checked, ?_⟩
          change 2 ^ 32 ≤ (visit.server.nextClientId + 1) % 2 ^ 32 + accepts at later
          omega
      · cases panics

/-- Whoever gets which number: the parsers of the clients that come start from nothing. -/
theorem reached_accept {overflowChecks : Bool} {accepts : Nat} {visit entered : Visit}
    (reached : ∀ key, Reached casing visit.server (log ++ visit.log) key)
    (done : visit.accept overflowChecks accepts = some entered) :
    ∀ key, Reached casing entered.server (log ++ entered.log) key := by
  induction accepts generalizing visit with
  | zero =>
      cases done
      exact reached
  | succ accepts ih =>
      unfold Visit.accept at done
      split at done
      · dsimp only at done
        split at done
        · cases done
        · refine ih ?_ done
          intro key
          change Reached casing _ (log ++ (visit.log ++ [.accepted visit.server.nextClientId])) key
          rw [← List.append_assoc]
          by_cases same : key = visit.server.nextClientId
          · subst same
            exact .accepts rfl
          · refine (reached key).same (.single ?_ rfl rfl) (Function.update_of_ne same ..)
            simp [HttpEvent.accepts, Ne.symm same]
      · cases done
        exact reached

end

/-! Whole runs. -/

variable {script : List (List (List UInt8))}

/-- Where a connection has got in its script, and what has come of the messages. -/
theorem Reached.progress (reached : Reached casing server log key)
    (wellCut : ∀ message ∈ script, WellCut casing message) (follows : delivered key log <+: script.flatten) : ∃ reading,
    (httpReader casing).Progress script (delivered key log) (outcomes key log) reading ∧
    ∀ state, server.connections key = some state → state.Reads reading := by
  obtain ⟨reading, history, reads⟩ := reached
  exact ⟨reading, history.progress (httpReader_resumes casing) (fun message member => (wellCut message member).cut) follows,
    reads⟩

/-- A call returns, or panics with the number of the client, if what its reads deliver is what comes next in
the scripts. -/
theorem process_returns {overflowChecks : Bool} {lossy : List UInt8 → String}
    (reached : ∀ key, Reached casing server log key) (surroundings : Surroundings) (remainingBudget : Nat)
    (sends : ∀ key ∈ surroundings.order, ∀ bytes, surroundings.read key = .ok bytes → bytes ≠ [] →
      ∃ script : List (List (List UInt8)), (∀ message ∈ script, WellCut casing message) ∧
        delivered key (log ++ (server.newClients surroundings remainingBudget).map .accepted) ++ [bytes] <+: script.flatten) :
    ∃ least, ∀ rounds, least ≤ rounds → ∃ visit returned,
      server.process overflowChecks casing lossy rounds surroundings remainingBudget = some (visit, returned) ∧
        (returned = .panicked → overflowChecks = true ∧ 2 ^ 32 ≤ server.nextClientId + surroundings.accepts) := by
  unfold HttpServer.process
  dsimp only
  cases addressed : (server.configure casing surroundings).listenAddr with
  | none => exact ⟨0, fun _ _ => ⟨_, _, rfl, by simp⟩⟩
  | some listenAddr =>
      cases routed : (server.configure casing surroundings).routesConfig with
      | none => exact ⟨0, fun _ _ => ⟨_, _, rfl, by simp⟩⟩
      | some routes =>
          dsimp only
          generalize begun : (if (surroundings.conf.isSome || surroundings.routes.isSome) = true then
            Visit.worked ⟨server.configure casing surroundings, remainingBudget, 0, []⟩
            else ⟨server.configure casing surroundings, remainingBudget, 0, []⟩) = visit
          have same : visit.log = [] ∧ visit.server = server.configure casing surroundings := by
            subst begun
            split <;> exact ⟨rfl, rfl⟩
          split
          · exact ⟨0, fun _ _ => ⟨_, _, rfl, by simp⟩⟩
          · next going =>
              cases accepting : visit.accept overflowChecks surroundings.accepts with
              | none =>
                  obtain ⟨checked, many⟩ := accept_panics accepting
                  rw [same.2] at many
                  exact ⟨0, fun _ _ => ⟨_, _, rfl, fun _ => ⟨checked, many⟩⟩⟩
              | some entered =>
                  have accepted : ∀ key, Reached casing entered.server (log ++ entered.log) key := by
                    refine reached_accept (fun key => ?_) accepting
                    rw [same.1, same.2]
                    exact (reached key).same .nil rfl
                  have events : entered.log = (server.newClients surroundings remainingBudget).map .accepted := by
                    rw [accept_log accepting, same.1, same.2, List.nil_append, ← admits_eq addressed routed going begun]
                    rfl
                  have returns : ∀ key ∈ surroundings.order, Returns casing surroundings ⟨entered, [], []⟩ key := by
                    intro key member reading bytes found delivers nonempty
                    obtain ⟨script, wellCut, next⟩ := sends key member bytes delivers nonempty
                    rw [← events] at next
                    obtain ⟨left, progress, reads⟩ := (accepted key).progress wellCut ((List.prefix_append ..).trans next)
                    cases reads _ found
                    obtain ⟨result, parsed, comes, -⟩ := progress.reads (httpReader_resumes casing)
                      (fun message member => (wellCut message member).cut) next
                    exact ⟨parsed, comes⟩
                  obtain ⟨least, last, done⟩ := connections_return surroundings.distinct returns
                  refine ⟨least, fun rounds enough => ?_⟩
                  simp only [done rounds enough, Option.map_some]
                  exact ⟨_, _, rfl, by simp⟩

/-- Cut where the parser waits, the messages of every connection come to what they come to in one piece, and
every call returns. -/
theorem segmentation {overflowChecks : Bool} {lossy : List UInt8 → String} {req : Nat}
    (run : (httpMachine overflowChecks casing lossy).Run HttpServer.KeepsApart (.new req) log server) :
    (∀ key script, (∀ message ∈ script, WellCut casing message) → delivered key log <+: script.flatten →
      ∃ reading, (httpReader casing).Progress script (delivered key log) (outcomes key log) reading) ∧
    ∀ (remainingBudget : Nat) (surroundings : Surroundings),
      (∀ key ∈ surroundings.order, ∀ bytes, surroundings.read key = .ok bytes → bytes ≠ [] →
        ∃ script : List (List (List UInt8)), (∀ message ∈ script, WellCut casing message) ∧
          delivered key (log ++ (server.newClients surroundings remainingBudget).map .accepted) ++ [bytes] <+:
            script.flatten) →
      ∃ least, ∀ rounds, least ≤ rounds → ∃ visit returned,
        server.process overflowChecks casing lossy rounds surroundings remainingBudget = some (visit, returned) ∧
          (returned = .panicked → overflowChecks = true ∧ 2 ^ 32 ≤ server.nextClientId + surroundings.accepts) := by
  have streamed : Streamed casing server log := (run_moves run).1.streamed (.new casing req)
  refine ⟨fun key script wellCut follows => ?_, ?_⟩
  · obtain ⟨reading, progress, -⟩ := (streamed.reached key).progress wellCut follows
    exact ⟨reading, progress⟩
  · exact fun remainingBudget surroundings sends => process_returns streamed.reached surroundings remainingBudget sends

/-- A client connects, and sends nothing yet. -/
def oneClient : List HttpAction :=
  [.process 4 4 { Surroundings.calm with conf := some "127.0.0.1:8080", routes := some "/", accepts := 1 }]

theorem rootLine (bytes : List UInt8) (first : (firstLine bytes).map Prod.fst = some (some "GET / HTTP/1.1")) :
    ∃ request rest, firstLine bytes = some (some "GET / HTTP/1.1", rest) ∧
      parseRequestLine ⟨id, id⟩ "GET / HTTP/1.1" = .ok request := by
  have asks : (parseRequestLine ⟨id, id⟩ "GET / HTTP/1.1").toOption.isSome = true := by decide +kernel
  obtain ⟨⟨text, rest⟩, split, same⟩ := Option.map_eq_some_iff.mp first
  cases asked : parseRequestLine ⟨id, id⟩ "GET / HTTP/1.1" with
  | error response =>
      rw [asked] at asks
      cases asks
  | ok request =>
      cases same
      exact ⟨request, rest, split, rfl⟩

theorem rootRequest_ends : Ends ⟨id, id⟩ (intoBytes "GET / HTTP/1.1\r\nHost: a\r\n\r\n") := by
  obtain ⟨request, rest, first, asks⟩ := rootLine (intoBytes "GET / HTTP/1.1\r\nHost: a\r\n\r\n") (by decide +kernel)
  have lines : firstLine (intoBytes "GET / HTTP/1.1\r\nHost: a\r\n\r\n") =
      some (some "GET / HTTP/1.1", intoBytes "Host: a\r\n\r\n") := by decide +kernel
  cases first.symm.trans lines
  have header : HeaderLines ⟨id, id⟩ ∅ (intoBytes "Host: a\r\n\r\n") (AList.insert "Host" "a" ∅) (intoBytes "\r\n") := by
    have more : findCrlf (intoBytes "Host: a\r\n\r\n") ≠ some 0 := by decide +kernel
    have line : firstLine (intoBytes "Host: a\r\n\r\n") = some (some "Host: a", intoBytes "\r\n") := by decide +kernel
    have parsed : parseHeaderLine ⟨id, id⟩ "Host: a" = some ("Host", "a") := by decide +kernel
    exact .line more line parsed .nil
  have ended : findCrlf (intoBytes "\r\n") = some 0 := by decide +kernel
  have announced : framing ⟨id, id⟩ (AList.insert "Host" "a" ∅) = .sized 0 := by decide +kernel
  exact .sized ⟨first, asks, header⟩ ended announced (by decide +kernel)

/-- A request that is cut in its second line: the call that reads the first segment does not return. -/
theorem cut_head_hangs :
    let machine := httpMachine false ⟨id, id⟩ fun _ => ""
    let server := machine.played (.new 1) oneClient
    let surroundings := { Surroundings.calm with read := fun _ => .ok (intoBytes "GET / HTTP/1.1\r\nHost") }
    machine.Run HttpServer.KeepsApart (.new 1) (machine.reported (.new 1) oneClient) server ∧
      Ends ⟨id, id⟩ (intoBytes "GET / HTTP/1.1\r\nHost" ++ intoBytes ": a\r\n\r\n") ∧
      ∀ rounds, server.process false ⟨id, id⟩ (fun _ => "") rounds surroundings 4 = none := by
  dsimp only
  refine ⟨Transition.Machine.run_played _ (by decide +kernel) (by decide +kernel), ?_, ?_⟩
  · have whole : intoBytes "GET / HTTP/1.1\r\nHost" ++ intoBytes ": a\r\n\r\n" =
        intoBytes "GET / HTTP/1.1\r\nHost: a\r\n\r\n" := by decide +kernel
    rw [whole]
    exact rootRequest_ends
  · intro rounds
    have hang : ∀ parsed, ¬ (Reading.start.extend (intoBytes "GET / HTTP/1.1\r\nHost")).Parses ⟨id, id⟩ parsed := by
      intro parsed
      obtain ⟨request, rest, first, asks⟩ := rootLine (intoBytes "GET / HTTP/1.1\r\nHost") (by decide +kernel)
      have left : firstLine (intoBytes "GET / HTTP/1.1\r\nHost") = some (some "GET / HTTP/1.1", intoBytes "Host") := by
        decide +kernel
      cases first.symm.trans left
      rw [parses_again (round_requestLine first asks)]
      have open_ : findCrlf (intoBytes "Host") = none := by decide +kernel
      refine hangs ?_
      rw [Reading.round]
      simp only [open_]
    have nothing : (Reading.start.extend (intoBytes "GET / HTTP/1.1\r\nHost")).parse ⟨id, id⟩ rounds = none := by
      by_contra some
      obtain ⟨parsed, parse⟩ := Option.ne_none_iff_exists'.mp some
      exact hang parsed ⟨rounds, parse⟩
    cases bytes : intoBytes "GET / HTTP/1.1\r\nHost" with
    | nil => cases (show (intoBytes "GET / HTTP/1.1\r\nHost").length ≠ 0 by decide +kernel) (by rw [bytes]; rfl)
    | cons byte rest =>
        rw [bytes] at nothing
        change Option.map _ (Option.bind (Option.map _ (Reading.parse _ rounds (Reading.start.extend (byte :: rest)))) _) = _
        rw [nothing]
        rfl

/-- A request whose first line arrives in two segments. -/
def cutRequest : List (List UInt8) := [intoBytes "GET / H", intoBytes "TTP/1.1\r\nHost: a\r\n\r\n"]

theorem cutRequest_wellCut : WellCut ⟨id, id⟩ cutRequest where
  nonempty := List.cons_ne_nil _ _
  pauses := by
    intro front back split some left
    have first : front = [intoBytes "GET / H"] := by
      cases front with
      | nil => exact absurd rfl some
      | cons head tail =>
          cases tail with
          | nil => exact congrArg (fun segment => [segment]) (List.cons.inj split).1.symm
          | cons second tail =>
              have length := congrArg List.length split
              simp [cutRequest, left] at length
    subst first
    exact .line (by decide +kernel)
  ends := by
    have whole : cutRequest.flatten = intoBytes "GET / HTTP/1.1\r\nHost: a\r\n\r\n" := by decide +kernel
    rw [whole]
    exact rootRequest_ends

theorem segmentation_cutRequest :
    let machine := httpMachine false ⟨id, id⟩ fun _ => ""
    let actions := oneClient ++ cutRequest.map fun segment =>
      .process 4 4 { Surroundings.calm with read := fun _ => .ok segment }
    ∃ reading, (httpReader ⟨id, id⟩).Progress [cutRequest] (delivered 0 (machine.reported (.new 1) actions))
      (outcomes 0 (machine.reported (.new 1) actions)) reading := by
  intro machine actions
  have run := machine.run_played (show machine.Permits HttpServer.KeepsApart (.new 1) actions by decide +kernel)
    (by decide +kernel)
  have reads : delivered 0 (machine.reported (.new 1) actions) = cutRequest := by decide +kernel
  refine (segmentation run).1 0 [cutRequest] ?_ ?_
  · intro message member
    cases List.mem_singleton.mp member
    exact cutRequest_wellCut
  · rw [reads]
    simp

end Flowd.Http
