import Flowd.Http.Correlation

namespace Flowd.Http

/-! What goes out on the connections: the responses, each where its request came from. -/

/-- A chunk as the chunked coding has it. -/
def frame (chunk : List UInt8) : List UInt8 := intoBytes (hexText chunk.length ++ "\r\n") ++ chunk ++ [13, 10]

/-- The content is the body as it is, or in chunks up to the empty one. -/
def Carries (chunked : Bool) (body content : List UInt8) : Prop :=
  if chunked then ∃ chunks : List (List UInt8), chunks.flatten = body ∧ (∀ chunk ∈ chunks, chunk ≠ []) ∧
    content = chunks.flatMap frame ++ intoBytes "0\r\n\r\n"
  else content = body

/-- The packet makes the response. -/
structure MadeOf (packet : FbpMessage) (response : HttpResponse) : Prop where
  status : response.statusCode = 200
  body : ∀ bytes, packet = .bytes bytes → response.body = bytes

/-- How long the head of the response is, whatever the date. -/
def headLength (response : HttpResponse) : Nat := (responseHead Surroundings.calm.date response).length

/-- The bytes are the response, or its beginning, as it is formatted at some time: byte for byte, and what comes
after the head carries the body. -/
structure Renders (response : HttpResponse) (bytes : List UInt8) : Prop where
  formatted : ∀ (index : Nat) (byte : UInt8), bytes[index]? = some byte →
    ∃ date, (formatResponse date response)[index]? = some byte
  content : ∃ content, Carries response.chunked response.body content ∧ bytes.drop (headLength response) <+: content

/-- Each response goes to the connection whose request it answers: those to the requests that were pushed are
made of the packets, in the order of both, and the others consume none. -/
structure AnswersRightClient (server : HttpServer) (log : List HttpEvent) : Prop where
  /-- The n-th packet is the response to the n-th request, which waits until the connection takes it. -/
  answered : ∀ (index requestId : Nat) (packet : FbpMessage),
    (log.filterMap HttpEvent.pushedNumber)[index]? = some requestId →
    (log.filterMap HttpEvent.poppedPacket)[index]? = some packet → ∃ response, MadeOf packet response ∧
      (server.pendingResponses.lookup requestId = some response ∨
        ∃ clientId, .began clientId requestId response ∈ log)
  answers : ∀ clientId requestId response, .began clientId requestId response ∈ log →
    (∃ (index : Nat) (packet : FbpMessage), (log.filterMap HttpEvent.pushedNumber)[index]? = some requestId ∧
      (log.filterMap HttpEvent.poppedPacket)[index]? = some packet ∧ MadeOf packet response) ∨
    requestId ∉ log.filterMap HttpEvent.pushedNumber ∧
      (response.statusCode = 400 ∨ response.statusCode = 404 ∨ response.statusCode = 505)
  /-- A response begins only on the connection that has sent the request, and not on another one that has got
  its number since. -/
  sent : ∀ front clientId requestId response back, log = front ++ .began clientId requestId response :: back →
    (∃ request, .requested requestId clientId request ∈ since clientId front) ∨
      ∃ refusal, .refused requestId clientId refusal ∈ since clientId front
  /-- What is written goes on with the response that has begun there, where the earlier writes have left it. -/
  wrote : ∀ front clientId requestId bytes back, log = front ++ .wrote clientId requestId bytes :: back →
    ∃ response date, .began clientId requestId response ∈ since clientId front ∧
      bytes <+: (formatResponse date response).drop (written requestId front).length
  renders : ∀ clientId requestId response, .began clientId requestId response ∈ log →
    Renders response (written requestId log)
  /-- A request has one number, is pushed at most once and gets at most one response. -/
  numberedOnce : ((log.filterMap HttpEvent.sender).map Prod.fst).Nodup
  pushedOnce : (log.filterMap HttpEvent.pushedNumber).Nodup
  begunOnce : ((log.filterMap HttpEvent.begunResponse).map (·.2.1)).Nodup

/-! What is written of a response. -/

theorem encodeChunks_carries {rounds : Nat} {body : List UInt8} (enough : body.length ≤ rounds) :
    ∃ chunks : List (List UInt8), chunks.flatten = body ∧ (∀ chunk ∈ chunks, chunk ≠ []) ∧
      encodeChunks rounds body = chunks.flatMap frame := by
  induction rounds generalizing body with
  | zero =>
      cases List.length_eq_zero_iff.mp (Nat.le_zero.mp enough)
      exact ⟨[], rfl, by simp, rfl⟩
  | succ rounds ih =>
      cases body with
      | nil => exact ⟨[], rfl, by simp, rfl⟩
      | cons byte rest =>
          have fewer : ((byte :: rest).drop 4096).length ≤ rounds := by
            rw [List.length_drop]
            omega
          obtain ⟨chunks, whole, nonempty, encoded⟩ := ih fewer
          refine ⟨(byte :: rest).take 4096 :: chunks, ?_, ?_, ?_⟩
          · rw [List.flatten_cons, whole, List.take_append_drop]
          · intro chunk member
            rcases List.mem_cons.mp member with rfl | later
            · simp
            · exact nonempty chunk later
          · rw [encodeChunks, List.flatMap_cons, ← encoded, frame]
            simp

theorem responseContent_carries (response : HttpResponse) :
    Carries response.chunked response.body (responseContent response) := by
  unfold Carries responseContent
  split
  · obtain ⟨chunks, whole, nonempty, encoded⟩ := encodeChunks_carries (Nat.le_refl response.body.length)
    exact ⟨chunks, whole, nonempty, by rw [encoded]⟩
  · rfl

theorem responseHead_length (date : HttpDate) (response : HttpResponse) :
    (responseHead date response).length = headLength response := by
  simp only [headLength, responseHead, List.length_append, date.length, Surroundings.calm.date.length]

theorem madeOf_okResponse (packet : FbpMessage) : MadeOf packet (okResponse packet) where
  status := rfl
  body := by
    rintro bytes rfl
    rfl

variable {response : HttpResponse} {bytes : List UInt8}

/-- What is the formatted response byte for byte, whatever the times, has the body behind the head. -/
theorem Renders.of_formatted (formatted : ∀ (index : Nat) (byte : UInt8), bytes[index]? = some byte →
    ∃ date, (formatResponse date response)[index]? = some byte) : Renders response bytes := by
  refine ⟨formatted, responseContent response, responseContent_carries response, ?_⟩
  rw [List.prefix_iff_getElem?]
  intro index inside
  have byte : bytes[headLength response + index]? = some (bytes.drop (headLength response))[index] := by
    rw [← List.getElem?_drop, List.getElem?_eq_getElem inside]
  obtain ⟨date, same⟩ := formatted _ _ byte
  have head := responseHead_length date response
  rw [formatResponse, List.getElem?_append_right (by omega), head, Nat.add_sub_cancel_left] at same
  exact same

/-- The bytes so far and a piece of the formatted response from there on. -/
theorem formatted_append {more : List UInt8} {date : HttpDate}
    (formatted : ∀ (index : Nat) (byte : UInt8), bytes[index]? = some byte →
      ∃ date, (formatResponse date response)[index]? = some byte)
    (onwards : more <+: (formatResponse date response).drop bytes.length) :
    ∀ (index : Nat) (byte : UInt8), (bytes ++ more)[index]? = some byte →
      ∃ date, (formatResponse date response)[index]? = some byte := by
  intro index byte found
  by_cases earlier : index < bytes.length
  · rw [List.getElem?_append_left earlier] at found
    exact formatted index byte found
  · rw [List.getElem?_append_right (by omega)] at found
    obtain ⟨rest, split⟩ := onwards
    have inside := (List.getElem?_eq_some_iff.mp found).1
    refine ⟨date, ?_⟩
    have later : ((formatResponse date response).drop bytes.length)[index - bytes.length]? = some byte := by
      rw [← split, List.getElem?_append_left inside, found]
    rw [List.getElem?_drop] at later
    rwa [Nat.add_sub_cancel' (Nat.le_of_not_lt earlier)] at later

/-! The correlation says it all. -/

variable {casing : Casing} {server : HttpServer} {log : List HttpEvent}

theorem mem_begunResponse {clientId requestId : Nat} :
    (clientId, requestId, response) ∈ log.filterMap HttpEvent.begunResponse ↔
      .began clientId requestId response ∈ log := by
  rw [List.mem_filterMap]
  constructor
  · rintro ⟨event, member, begun⟩
    cases event with
    | began => cases begun; exact member
    | _ => cases begun
  · exact fun member => ⟨_, member, rfl⟩

theorem mem_sender {clientId requestId : Nat}
    (member : (requestId, clientId) ∈ log.filterMap HttpEvent.sender) :
    (∃ request, .requested requestId clientId request ∈ log) ∨ ∃ refusal, .refused requestId clientId refusal ∈ log := by
  obtain ⟨event, there, sender⟩ := List.mem_filterMap.mp member
  cases event with
  | requested _ _ request => cases sender; exact .inl ⟨request, there⟩
  | refused _ _ refusal => cases sender; exact .inr ⟨refusal, there⟩
  | _ => cases sender

theorem Correlated.begunOnce (correlated : Correlated server log) :
    ((log.filterMap HttpEvent.begunResponse).map (·.2.1)).Nodup :=
  (List.nodup_append.mp correlated.kept.apart).2.1

/-- At every point of the log, what has gone out of a response is a piece of it. -/
theorem Correlated.formatted (correlated : Correlated server log) {clientId requestId : Nat}
    (begun : (clientId, requestId, response) ∈ log.filterMap HttpEvent.begunResponse) {front : List HttpEvent}
    (earlier : front <+: log) : ∀ (index : Nat) (byte : UInt8), (written requestId front)[index]? = some byte →
      ∃ date, (formatResponse date response)[index]? = some byte := by
  induction front using List.reverseRecOn with
  | nil => simp [written]
  | append_singleton front event ih =>
      have before := ih ((List.prefix_append ..).trans earlier)
      obtain ⟨back, split⟩ := earlier
      rw [List.append_assoc, List.singleton_append] at split
      cases event with
      | wrote client other bytes =>
          by_cases same : other = requestId
          · subst same
            obtain ⟨answer, date, theirs, onwards⟩ := correlated.due front _ back split.symm
            have there : (client, other, answer) ∈ log.filterMap HttpEvent.begunResponse := by
              rw [← split, List.filterMap_append]
              exact List.mem_append_left _ (mem_of_mem_since theirs)
            have equal := List.inj_on_of_nodup_map correlated.begunOnce there begun rfl
            cases equal
            rw [written_wrote]
            exact formatted_append before onwards
          · have apart : (HttpEvent.wrote client other bytes).writtenBytes requestId = none := if_neg same
            rw [written_apart apart]
            exact before
      | _ =>
          rw [written_apart rfl]
          exact before

theorem Correlated.answersRightClient (correlated : Correlated server log) : AnswersRightClient server log where
  answered := by
    intro index requestId packet pushed popped
    refine ⟨okResponse packet, madeOf_okResponse packet, ?_⟩
    refine (correlated.kept.answered index requestId packet pushed popped).imp_right ?_
    exact fun ⟨clientId, begun⟩ => ⟨clientId, mem_begunResponse.mp begun⟩
  answers := by
    intro clientId requestId response begun
    rcases correlated.kept.answers requestId response (.inr ⟨clientId, mem_begunResponse.mpr begun⟩) with
      ⟨index, packet, pushed, popped, rfl⟩ | error
    · exact .inl ⟨index, packet, pushed, popped, madeOf_okResponse packet⟩
    · exact .inr error
  sent := fun front clientId requestId response back split => mem_sender (correlated.due front _ back split)
  wrote := by
    intro front clientId requestId bytes back split
    obtain ⟨response, date, begun, onwards⟩ := correlated.due front _ back split
    exact ⟨response, date, mem_begunResponse.mp begun, onwards⟩
  renders := fun clientId requestId response begun =>
    .of_formatted (correlated.formatted (mem_begunResponse.mpr begun) (List.prefix_refl log))
  numberedOnce := correlated.kept.once
  pushedOnce := correlated.kept.pushedOnce
  begunOnce := correlated.begunOnce

/-- Whatever connections do, and in whatever order: each gets the answers to its own requests, as long as no
new client gets the number of one whose request is pending. -/
theorem answers_right_client {overflowChecks : Bool} {lossy : List UInt8 → String} {req : Nat}
    (run : (httpMachine overflowChecks casing lossy).Run HttpServer.KeepsApart (.new req) log server)
    (balanced : Balanced log) : AnswersRightClient server log :=
  ((run_moves run).1.correlated (.new req) balanced).answersRightClient

/-- Two clients ask for the root, and their answers arrive together.  Then the second one asks for what there is
no route to, and the first one for the root again. -/
def twoClients : List HttpAction :=
  let both := { Surroundings.calm with order := [1, 0], distinct := by decide, room := 2 }
  let root := intoBytes "GET / HTTP/1.1\r\n\r\n"
  let elsewhere := intoBytes "GET /lost HTTP/1.1\r\n\r\n"
  [.process 8 4 { both with conf := some "127.0.0.1:8080", routes := some "/", accepts := 2 },
    .process 8 4 { both with read := fun _ => .ok root },
    .deliver [.bytes (intoBytes "one"), .bytes (intoBytes "zero")],
    .process 8 4 both,
    .process 8 4 both,
    .process 8 4 { both with write := fun _ => .ok 1024 },
    .process 8 4 both,
    .process 8 4 { both with read := fun key => .ok (if key = 0 then root else elsewhere) },
    .deliver [.bytes (intoBytes "again")],
    .process 8 4 both,
    .process 8 4 { both with write := fun _ => .ok 10 },
    .process 8 4 { both with write := fun _ => .ok 1024 }]

theorem balanced_iff {log : List HttpEvent} : Balanced log ↔ ∀ earlier ∈ log.inits,
    (earlier.filterMap HttpEvent.poppedPacket).length ≤ (earlier.filterMap HttpEvent.pushedNumber).length := by
  simp only [Balanced, List.mem_inits]

theorem answers_right_client_twoClients :
    let machine := httpMachine true ⟨id, id⟩ fun _ => ""
    let log := machine.reported (.new 1) twoClients
    AnswersRightClient (machine.played (.new 1) twoClients) log ∧
      (log.filterMap HttpEvent.begunResponse).map (fun begun => (begun.1, begun.2.1, begun.2.2.statusCode, begun.2.2.body)) =
        [(1, 0, 200, intoBytes "one"), (0, 1, 200, intoBytes "zero"), (1, 2, 404, intoBytes "Route not found"),
          (0, 3, 200, intoBytes "again")] ∧
      written 2 log = formatResponse Surroundings.calm.date (notFound "Route not found") := by
  intro machine log
  have apart : machine.Permits HttpServer.KeepsApart (.new 1) twoClients := by decide +kernel
  refine ⟨answers_right_client (machine.run_played apart ?_) ?_, ?_, ?_⟩
  · decide +kernel
  · rw [balanced_iff]
    decide +kernel
  · decide +kernel
  · decide +kernel

/-! A number that is given again. -/

/-- The connections of the server and so many new ones, with the numbers from the next one on. -/
def HttpServer.crowded (server : HttpServer) (count : Nat) : HttpServer :=
  { server with
    connections := fun key =>
      if server.nextClientId ≤ key ∧ key < server.nextClientId + count then some (.readingRequest .start)
      else server.connections key
    nextClientId := (server.nextClientId + count) % 2 ^ 32 }

theorem crowded_zero (server : HttpServer) :
    server.crowded 0 = { server with nextClientId := server.nextClientId % 2 ^ 32 } := by
  have nobody : (fun key => if server.nextClientId ≤ key ∧ key < server.nextClientId + 0 then
      some (.readingRequest .start) else server.connections key) = server.connections := by
    funext key
    exact if_neg (by omega)
  rw [HttpServer.crowded, nobody, Nat.add_zero]

theorem crowded_succ (server : HttpServer) (count : Nat) :
    ({ server.setConnection server.nextClientId (.readingRequest .start) with
      nextClientId := server.nextClientId + 1 } : HttpServer).crowded count = server.crowded (count + 1) := by
  have more : server.nextClientId + 1 + count = server.nextClientId + (count + 1) := by omega
  have connections : (fun key => if server.nextClientId + 1 ≤ key ∧ key < server.nextClientId + (count + 1) then
      some (.readingRequest .start)
      else Function.update server.connections server.nextClientId (some (.readingRequest .start)) key) =
      fun key => if server.nextClientId ≤ key ∧ key < server.nextClientId + (count + 1) then
        some (.readingRequest .start) else server.connections key := by
    funext key
    by_cases first : key = server.nextClientId
    · subst first
      rw [if_neg (by omega), if_pos (by omega), Function.update_self]
    · rw [Function.update_of_ne first]
      by_cases later : server.nextClientId + 1 ≤ key ∧ key < server.nextClientId + (count + 1)
      · rw [if_pos later, if_pos (by omega)]
      · rw [if_neg later, if_neg (by omega)]
  simp only [HttpServer.crowded, HttpServer.setConnection, more, connections]

/-- As long as the budget lasts, each client gets the next number, and the last one is followed by 0. -/
theorem accept_many {count : Nat} {visit : Visit} (budget : count ≤ visit.remainingBudget)
    (known : visit.server.nextClientId < 2 ^ 32) (bound : visit.server.nextClientId + count ≤ 2 ^ 32) :
    ∃ entered, visit.accept false count = some entered ∧ entered.server = visit.server.crowded count ∧
      entered.remainingBudget = visit.remainingBudget - count := by
  induction count generalizing visit with
  | zero =>
      refine ⟨visit, rfl, ?_, rfl⟩
      rw [crowded_zero, Nat.mod_eq_of_lt known]
  | succ count ih =>
      unfold Visit.accept
      rw [if_pos (by omega)]
      simp only [Bool.false_eq_true, false_and, if_false]
      by_cases last : visit.server.nextClientId + 1 < 2 ^ 32
      · rw [Nat.mod_eq_of_lt last]
        obtain ⟨entered, done, server, left⟩ := @ih
          ({ (visit.setConnection visit.server.nextClientId (.readingRequest .start)).report
            (.accepted visit.server.nextClientId) with
            server := { visit.server.setConnection visit.server.nextClientId (.readingRequest .start) with
              nextClientId := visit.server.nextClientId + 1 } } : Visit).worked
          (show count ≤ visit.remainingBudget - 1 by omega) last
          (show visit.server.nextClientId + 1 + count ≤ 2 ^ 32 by omega)
        refine ⟨entered, done, server.trans (crowded_succ visit.server count), left.trans ?_⟩
        change visit.remainingBudget - 1 - count = visit.remainingBudget - (count + 1)
        omega
      · have nobody : count = 0 := by omega
        subst nobody
        refine ⟨_, rfl, ?_, rfl⟩
        rw [← crowded_succ, crowded_zero]
        rfl

theorem popped_accept {overflowChecks : Bool} {accepts : Nat} {visit entered : Visit}
    (done : visit.accept overflowChecks accepts = some entered) :
    entered.log.filterMap HttpEvent.poppedPacket = visit.log.filterMap HttpEvent.poppedPacket := by
  induction accepts generalizing visit with
  | zero =>
      cases done
      rfl
  | succ accepts ih =>
      unfold Visit.accept at done
      split at done
      · dsimp only at done
        split at done
        · cases done
        · rw [ih done]
          simp [Visit.worked, Visit.report, Visit.setConnection, HttpEvent.poppedPacket]
      · cases done
        rfl

/-- A call that spends its whole budget on new clients. -/
def crowd (count : Nat) : HttpAction :=
  .process count 0 { Surroundings.calm with accepts := count, order := [], distinct := List.nodup_nil }

theorem forward_spent {lossy : List UInt8 → String} {routes : List RouteConfig} {visit : Visit}
    (spent : visit.remainingBudget = 0) (requests : List (Nat × Nat × HttpRequest)) (room : Nat) :
    visit.forward lossy routes requests room = visit := by
  cases requests with
  | nil => rfl
  | cons entry rest => exact if_pos spent

theorem readResponses_spent {visit : Visit} (spent : visit.remainingBudget = 0) (packets : List FbpMessage) :
    visit.readResponses packets = visit := by
  cases packets with
  | nil => rfl
  | cons packet rest => exact if_pos spent

theorem crowd_step {casing : Casing} {lossy : List UInt8 → String} {server : HttpServer} {count : Nat}
    (addressed : server.listenAddr.isSome = true) (routed : server.routesConfig.isSome = true)
    (known : server.nextClientId < 2 ^ 32) (bound : server.nextClientId + count ≤ 2 ^ 32) :
    ∃ log, log.filterMap HttpEvent.poppedPacket = [] ∧
      (httpMachine false casing lossy).step server (crowd count) = some (server.crowded count, log) := by
  obtain ⟨listenAddr, address⟩ := Option.isSome_iff_exists.mp addressed
  obtain ⟨routes, routing⟩ := Option.isSome_iff_exists.mp routed
  obtain ⟨entered, accepts, same, spent⟩ := @accept_many count ⟨server, count, 0, []⟩ (Nat.le_refl _) known bound
  have spent : entered.remainingBudget = 0 := spent.trans (Nat.sub_self count)
  refine ⟨entered.log, popped_accept accepts, ?_⟩
  have done : ∃ result, server.process false casing lossy 0
      { Surroundings.calm with accepts := count, order := [], distinct := List.nodup_nil } count =
        some (entered, .result result) := by
    have configured : server.configure casing { Surroundings.calm with
        accepts := count, order := [], distinct := List.nodup_nil } = server := by
      simp [HttpServer.configure, Surroundings.calm]
    unfold HttpServer.process
    rw [configured]
    simp only [address, routing, Surroundings.calm, Option.isSome_none, Bool.or_self, Bool.false_eq_true, if_false,
      reduceCtorEq, accepts, Sweep.connections, Option.map_some]
    have settles : (Sweep.mk entered [] []).settle = entered := rfl
    refine ⟨_, congrArg some (Prod.ext ?_ rfl)⟩
    dsimp only
    rw [settles, forward_spent spent, readResponses_spent spent]
  obtain ⟨result, done⟩ := done
  change (HttpServer.process false casing lossy 0 _ server count).bind leaves = _
  rw [done]
  exact congrArg (fun server => some (server, entered.log)) same

theorem mem_since_accepted {clientId : Nat} {event : HttpEvent} {log later : List HttpEvent}
    (member : event ∈ since clientId (log ++ .accepted clientId :: later)) : event ∈ later := by
  induction later using List.reverseRecOn with
  | nil =>
      rw [since_accepted] at member
      cases member
  | append_singleton later last ih =>
      rw [← List.cons_append, ← List.append_assoc, since, List.rtakeWhile_concat] at member
      split at member
      · rcases List.mem_append.mp member with earlier | now
        · exact List.mem_append_left _ (ih earlier)
        · exact List.mem_append_right _ now
      · cases member

theorem Balanced.after {quiet later : List HttpEvent} (balanced : Balanced later)
    (silent : quiet.filterMap HttpEvent.poppedPacket = []) : Balanced (quiet ++ later) := by
  intro earlier before
  rcases List.prefix_or_prefix_of_prefix before (List.prefix_append quiet later) with inside | ⟨front, rfl⟩
  · have nothing : earlier.filterMap HttpEvent.poppedPacket = [] := by
      have fewer := inside.sublist.filterMap HttpEvent.poppedPacket
      rw [silent] at fewer
      exact List.sublist_nil.mp fewer
    rw [nothing]
    exact Nat.zero_le _
  · have less := balanced front ((List.prefix_append_right_inj quiet).mp before)
    rw [List.filterMap_append, List.filterMap_append, silent, List.nil_append, List.length_append]
    omega

/-- A client asks for the root, and REQ is full. -/
def asked : List HttpAction :=
  [.process 4 4 { Surroundings.calm with conf := some "127.0.0.1:8080", routes := some "/", accepts := 1 },
    .process 4 4 { Surroundings.calm with read := fun _ => .ok (intoBytes "GET / HTTP/1.1\r\n\r\n"), room := 0 }]

/-- One more client comes, and there is room on REQ. -/
def answered : List HttpAction :=
  [.process 4 4 { Surroundings.calm with accepts := 1 }, .deliver [.bytes (intoBytes "flow")],
    .process 4 4 Surroundings.calm, .process 4 4 Surroundings.calm]

/-- Two to the 32 clients after the one that has asked, its number is given again, and the answer goes to the
new client. -/
theorem answers_stranger : ¬ ∀ (casing : Casing) (lossy : List UInt8 → String) (req : Nat) (server : HttpServer)
    (log : List HttpEvent), (httpMachine false casing lossy).Run Transition.anyMove (.new req) log server →
      Balanced log → AnswersRightClient server log := by
  intro right
  let machine := httpMachine false ⟨id, id⟩ fun _ => ""
  let busy := machine.played (.new 1) asked
  let crowded := busy.crowded (2 ^ 32 - 1)
  obtain ⟨between, silent, step⟩ := @crowd_step ⟨id, id⟩ (fun _ => "") busy (2 ^ 32 - 1) (by decide +kernel)
    (by decide +kernel) (by decide +kernel) (by decide +kernel)
  have first := machine.run_played (Transition.Machine.permits_any (.new 1) asked) (by decide +kernel)
  have last := machine.run_played (Transition.Machine.permits_any crowded answered) (by decide +kernel)
  have run := (first.snoc trivial step).append last
  have balanced : Balanced (machine.reported crowded answered) := by
    rw [balanced_iff]
    decide +kernel
  have earlier : (machine.reported (.new 1) asked ++ between).filterMap HttpEvent.poppedPacket = [] := by
    rw [List.filterMap_append, silent, List.append_nil]
    exact List.isEmpty_iff.mp (by decide +kernel)
  have answers := right _ _ _ _ _ run (balanced.after earlier)
  have begun : ((machine.reported crowded answered).filterMap HttpEvent.begunResponse).map (fun begun => (begun.1, begun.2.1)) =
      [(0, 0)] := by decide +kernel
  have nothing : ((machine.reported crowded answered).filterMap HttpEvent.sender) = [] := by decide +kernel
  have arrives : (machine.reported crowded answered).head?.map (HttpEvent.accepts 0) = some true := by decide +kernel
  generalize machine.reported crowded answered = later at *
  cases later with
  | nil => cases arrives
  | cons event later =>
      cases event with
      | accepted clientId =>
          have same : clientId = 0 := by simpa [HttpEvent.accepts] using arrives
          subst same
          have member : (0, 0) ∈ ((HttpEvent.accepted 0 :: later).filterMap HttpEvent.begunResponse).map
              (fun begun => (begun.1, begun.2.1)) := by
            rw [begun]
            exact List.mem_singleton_self _
          obtain ⟨⟨clientId, requestId, response⟩, there, same⟩ := List.mem_map.mp member
          cases same
          have inside : HttpEvent.began 0 0 response ∈ later := by
            rcases List.mem_cons.mp (mem_begunResponse.mp there) with first | inside
            · cases first
            · exact inside
          obtain ⟨front, back, split⟩ := List.append_of_mem inside
          have unsent : ∀ event ∈ later, event.sender = none := List.filterMap_eq_nil_iff.mp nothing
          have whole : machine.reported (.new 1) asked ++ between ++ HttpEvent.accepted 0 :: later =
              (machine.reported (.new 1) asked ++ between ++ HttpEvent.accepted 0 :: front) ++
                HttpEvent.began 0 0 response :: back := by
            rw [split]
            simp
          have front_later : ∀ event ∈ front, event ∈ later := fun event member => split ▸ List.mem_append_left _ member
          rcases answers.sent _ 0 0 response back whole with ⟨request, member⟩ | ⟨refusal, member⟩
          · cases unsent _ (front_later _ (mem_since_accepted member))
          · cases unsent _ (front_later _ (mem_since_accepted member))
      | _ => cases arrives

end Flowd.Http
