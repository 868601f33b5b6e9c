import Flowd.Component.Responses

namespace Flowd

/-! What TCPServer and UnixSocketServer forward: for each client what has been read from it. -/

open Transition

namespace SocketServer

/-- The packets on OUT, and those that wait for room there. -/
def forwarded (component : SocketServerComponent) (call : Call ServerPort OutPort) : List FbpMessage :=
  (call.outs .out).sent ++ component.pendingOutbound

/-- What has been read from a client. -/
def streamOf (received : List (Nat × List UInt8)) (clientId : Nat) : List UInt8 :=
  received.flatMap fun entry => if entry.1 = clientId then entry.2 else []

/-- The packets bear the numbers of clients, which are all different, and their data make up what
the clients have sent. -/
structure Streamed (component : SocketServerComponent) (call : Call ServerPort OutPort) : Prop where
  framed : ∀ packet ∈ forwarded component call, ∃ clientId ∈ component.accepted, ∃ data,
    contents packet = intoBytes (toString clientId) ++ 58 :: data
  streams : ∀ clientId,
    dataOf clientId ((forwarded component call).map contents) = streamOf component.received clientId
  distinct : component.accepted.Nodup
  small : ∀ clientId ∈ component.accepted, clientId < 2 ^ 32

/-- What is read is valid UTF-8, and if it goes to OUT at once, nothing of the client waits. -/
def carefulRead (variant : Variant) (round : Round) (clientId : Nat) : Bool :=
  match round.component.sockets.read clientId with
  | .available bytes =>
      let data := bytes.take variant.readBuffer
      let pushed := round.call.push (.out, variant.message (framed clientId data))
      data.isEmpty || (fromUtf8 data).isSome &&
        (!pushed.2 || (dataOf clientId (round.component.pendingOutbound.map contents)).isEmpty)
  | _ => true

/-- All that the loop over the clients reads is. -/
def carefulReads (variant : Variant) : List Nat → Round → Bool
  | [], _ => true
  | clientId :: rest, round =>
      if 0 < round.context.remainingBudget then
        carefulRead variant round clientId && carefulReads variant rest (readClient variant round clientId)
      else true

/-- The clients have been accepted, and the numbers are those of the source. -/
structure Numbered (component : SocketServerComponent) (call : Call ServerPort OutPort) : Prop
    extends Streamed component call where
  next : component.nextClientId < 2 ^ 32
  connected : ∀ clientId, clientId ∈ component.connections → clientId ∈ component.accepted

/-- What a client has sent, and what is forwarded, are not different. -/
structure Carries (round next : Round) : Prop where
  sent : (next.call.outs .out).sent = (round.call.outs .out).sent
  pendingOutbound : next.component.pendingOutbound = round.component.pendingOutbound
  received : next.component.received = round.component.received
  accepted : next.component.accepted = round.component.accepted
  nextClientId : next.component.nextClientId = round.component.nextClientId
  connections : ∀ clientId, clientId ∈ next.component.connections → clientId ∈ round.component.connections

section
variable {component next : SocketServerComponent} {call later : Call ServerPort OutPort}
variable {round middle last : Round} {variant : Variant} {overflowChecks : Bool}

theorem Carries.refl (round : Round) : Carries round round := ⟨rfl, rfl, rfl, rfl, rfl, fun _ => id⟩

theorem Carries.trans (first : Carries round middle) (second : Carries middle last) : Carries round last where
  sent := second.sent.trans first.sent
  pendingOutbound := second.pendingOutbound.trans first.pendingOutbound
  received := second.received.trans first.received
  accepted := second.accepted.trans first.accepted
  nextClientId := second.nextClientId.trans first.nextClientId
  connections clientId member := first.connections clientId (second.connections clientId member)

theorem Numbered.congr (numbered : Numbered component call) (forwards : forwarded next later = forwarded component call)
    (received : next.received = component.received) (accepted : next.accepted = component.accepted)
    (nextClientId : next.nextClientId = component.nextClientId)
    (connections : ∀ clientId, clientId ∈ next.connections → clientId ∈ component.connections) :
    Numbered next later where
  framed := by
    rw [forwards, accepted]
    exact numbered.framed
  streams := by
    rw [forwards, received]
    exact numbered.streams
  distinct := by
    rw [accepted]
    exact numbered.distinct
  small := by
    rw [accepted]
    exact numbered.small
  next := by
    rw [nextClientId]
    exact numbered.next
  connected clientId member := by
    rw [accepted]
    exact numbered.connected clientId (connections clientId member)

theorem Numbered.carry (numbered : Numbered round.component round.call) (carries : Carries round last) :
    Numbered last.component last.call :=
  numbered.congr (by rw [forwarded, forwarded, carries.sent, carries.pendingOutbound]) carries.received carries.accepted
    carries.nextClientId carries.connections

theorem accept_numbered (numbered : Numbered round.component round.call)
    (fresh : round.component.sockets.accept = some true → round.component.nextClientId ∉ round.component.accepted) :
    Numbered (accept variant overflowChecks round).1.component (accept variant overflowChecks round).1.call := by
  unfold accept
  split
  · cases outcome : round.component.sockets.accept with
    | none => exact numbered
    | some nonblocking =>
        cases nonblocking with
        | false => exact numbered
        | true =>
            dsimp only
            split
            · exact numbered
            · have new := fresh outcome
              refine ⟨⟨fun packet member => ?_, numbered.streams, ?_, fun clientId member => ?_⟩, ?_, fun clientId member => ?_⟩
              · obtain ⟨clientId, known, data, same⟩ := numbered.framed packet member
                exact ⟨clientId, List.mem_append_left _ known, data, same⟩
              · exact numbered.distinct.append (List.nodup_singleton _) (List.disjoint_singleton.mpr new)
              · rcases List.mem_append.mp member with known | now
                · exact numbered.small clientId known
                · rw [List.mem_singleton.mp now]
                  exact numbered.next
              · exact Nat.mod_lt _ (by decide)
              · rcases (AList.mem_insert _).mp member with now | known
                · rw [now]
                  exact List.mem_append_right _ (List.mem_singleton_self _)
                · exact List.mem_append_left _ (numbered.connected clientId known)
  · exact numbered

/-- A frame of what has been read says whose it is and what has been read. -/
theorem contents_framed (variant : Variant) {data : List UInt8} (clientId : Nat)
    (valid : (fromUtf8 data).isSome = true) :
    contents (variant.message (framed clientId data)) = intoBytes (toString clientId) ++ 58 :: data := by
  rw [variant.contents_message, framed, intoBytes_eq, String.toList_append, String.toList_append, Utf8.encode_append,
    Utf8.encode_append, ← intoBytes_eq, ← intoBytes_eq (fromUtf8Lossy data), encode_fromUtf8Lossy valid, List.append_assoc]
  rfl

/-- A frame is added, behind all others of the same client. -/
theorem Numbered.forward {clientId : Nat} {data : List UInt8} {message : FbpMessage}
    (numbered : Numbered component call) (known : clientId ∈ component.accepted)
    (frame : contents message = intoBytes (toString clientId) ++ 58 :: data)
    (members : ∀ packet ∈ forwarded next later, packet ∈ forwarded component call ∨ packet = message)
    (behind : ∀ other, dataOf other ((forwarded next later).map contents) =
      dataOf other ((forwarded component call).map contents) ++ dataOf other [contents message])
    (received : next.received = component.received ++ [(clientId, data)]) (accepted : next.accepted = component.accepted)
    (nextClientId : next.nextClientId = component.nextClientId) (connections : next.connections = component.connections) :
    Numbered next later := by
  have small := numbered.small clientId known
  refine ⟨⟨fun packet member => ?_, fun other => ?_, ?_, ?_⟩, ?_, ?_⟩
  · rw [accepted]
    rcases members packet member with old | rfl
    · exact numbered.framed packet old
    · exact ⟨clientId, known, data, frame⟩
  · rw [behind, numbered.streams, dataOf_frame small frame, received, streamOf, streamOf, List.flatMap_append]
    simp
  · rw [accepted]
    exact numbered.distinct
  · rw [accepted]
    exact numbered.small
  · rw [nextClientId]
    exact numbered.next
  · rw [connections, accepted]
    exact numbered.connected

theorem readClient_numbered {clientId : Nat} (numbered : Numbered round.component round.call)
    (connected : clientId ∈ round.component.connections) (careful : carefulRead variant round clientId = true) :
    Numbered (readClient variant round clientId).component (readClient variant round clientId).call := by
  unfold carefulRead at careful
  unfold readClient
  cases outcome : round.component.sockets.read clientId with
  | wouldBlock => exact numbered
  | failed => exact numbered
  | available bytes =>
      rw [outcome] at careful
      dsimp only at careful ⊢
      generalize bytes.take variant.readBuffer = data at careful ⊢
      cases empty : data.isEmpty with
      | true => exact numbered
      | false =>
          rw [empty, Bool.false_or, Bool.and_eq_true] at careful
          obtain ⟨valid, orderly⟩ := careful
          have known := numbered.connected clientId connected
          have small := numbered.small clientId known
          have frame := contents_framed variant clientId valid
          rw [if_neg (by simp)]
          generalize variant.message (framed clientId data) = message at frame orderly ⊢
          rcases round.call.push_cases (.out, message) with ⟨outs, pushed, sent, _⟩ | ⟨outs, pushed, sent, _⟩
          · rw [pushed] at orderly ⊢
            have alone : dataOf clientId (round.component.pendingOutbound.map contents) = [] := by simpa using orderly
            have out : (outs .out).sent = (round.call.outs .out).sent ++ [message] :=
              (sent .out).trans (by rw [addressed_singleton_self])
            have total (other : Nat) : dataOf other (((outs .out).sent ++ round.component.pendingOutbound).map contents) =
                dataOf other ((forwarded round.component round.call).map contents) ++ dataOf other [contents message] := by
              rw [out, forwarded]
              simp only [List.map_append, List.map_singleton, dataOf_append, List.append_assoc]
              by_cases own : clientId = other
              · subst own
                rw [alone, List.append_nil, List.nil_append]
              · rw [dataOf_frame small frame, if_neg own, List.nil_append, List.append_nil]
            refine numbered.forward known frame (fun packet member => ?_) total rfl rfl rfl rfl
            have member : packet ∈ (outs .out).sent ++ round.component.pendingOutbound := member
            rw [out] at member
            simp only [forwarded, List.mem_append, List.mem_singleton] at member ⊢
            tauto
          · rw [pushed]
            have total : (outs .out).sent ++ (round.component.pendingOutbound ++ [message]) =
                forwarded round.component round.call ++ [message] := by
              rw [sent, forwarded, List.append_assoc]
            refine numbered.forward known frame (fun packet member => ?_) (fun other => ?_) rfl rfl rfl rfl
            · have member : packet ∈ (outs .out).sent ++ (round.component.pendingOutbound ++ [message]) := member
              rw [total] at member
              simpa using member
            · show dataOf other (((outs .out).sent ++ (round.component.pendingOutbound ++ [message])).map contents) = _
              rw [total, List.map_append, dataOf_append]
              rfl

theorem readClients_numbered (clients : List Nat) (numbered : Numbered round.component round.call)
    (connected : ∀ clientId ∈ clients, clientId ∈ round.component.connections)
    (careful : carefulReads variant clients round = true) :
    Numbered (readClients variant clients round).component (readClients variant clients round).call := by
  induction clients generalizing round with
  | nil => exact numbered
  | cons clientId rest ih =>
      unfold carefulReads at careful
      unfold readClients
      split
      · next budget =>
          rw [if_pos budget, Bool.and_eq_true] at careful
          have first := readClient_numbered numbered (connected clientId List.mem_cons_self) careful.1
          refine ih first (fun other member => ?_) careful.2
          rw [(readClient_aside round clientId).connections]
          exact connected other (List.mem_cons_of_mem _ member)
      · exact numbered

/-- A write is to a client that is connected. -/
theorem writeTo_carries {clientId : Nat} {connection : Connection} (response : List UInt8) (write : Write)
    (found : round.component.connections.lookup clientId = some connection) :
    Carries round (writeTo round clientId connection response write).1 := by
  refine ⟨rfl, rfl, rfl, rfl, rfl, fun other member => ?_⟩
  rcases (AList.mem_insert _).mp member with rfl | known
  · exact AList.lookup_isSome.mp (by rw [found]; rfl)
  · exact known

theorem route_carries (packet : FbpMessage) (round : Round) : Carries round (route variant packet round) := by
  unfold route
  split
  · exact .refl round
  · split
    · exact .refl round
    · next target response _ _ connection found =>
        have written := writeTo_carries response round.component.sockets.respond found
        dsimp only
        split
        · exact written.trans ⟨rfl, rfl, rfl, rfl, rfl, fun _ => id⟩
        · split <;> exact written.trans ⟨rfl, rfl, rfl, rfl, rfl, fun _ => id⟩
        · exact written.trans ⟨rfl, rfl, rfl, rfl, rfl, fun _ => id⟩

theorem respond_carries (round : Round) : Carries round (respond variant round) := by
  unfold respond
  split
  · rcases round.call.pop_cases .resp with ⟨_, popped⟩ | ⟨packet, _, taken, _, popped, _, _, outs, _⟩
    · rw [popped]
      exact .refl round
    · have took : Carries round { round with call := taken } :=
        ⟨by rw [outs], rfl, rfl, rfl, rfl, fun _ => id⟩
      rw [popped]
      exact took.trans (route_carries packet _)
  · exact .refl round

theorem retryClient_carries (round : Round) (clientId : Nat) : Carries round (retryClient round clientId) := by
  unfold retryClient
  dsimp only
  split
  · exact ⟨rfl, rfl, rfl, rfl, rfl, fun _ => id⟩
  · next connection found =>
      have written := writeTo_carries ((round.component.pendingResponses.lookup clientId).getD [])
        (round.component.sockets.retry clientId) found
      split
      · exact written.trans ⟨rfl, rfl, rfl, rfl, rfl, fun _ => id⟩
      · exact written
      · exact written.trans ⟨rfl, rfl, rfl, rfl, rfl, fun _ => id⟩

theorem retryClients_carries (clients : List Nat) (round : Round) : Carries round (retryClients clients round) := by
  induction clients generalizing round with
  | nil => exact .refl round
  | cons clientId rest ih =>
      unfold retryClients
      split
      · exact (retryClient_carries round clientId).trans (ih _)
      · exact .refl round

theorem cleanUp_carries (leaving : List Nat) (round : Round) : Carries round (cleanUp leaving round) := by
  induction leaving generalizing round with
  | nil => exact ⟨rfl, rfl, rfl, rfl, rfl, fun _ => id⟩
  | cons clientId rest ih =>
      unfold cleanUp
      refine Carries.trans ?_ (ih _)
      exact ⟨rfl, rfl, rfl, rfl, rfl, fun other member => (AList.mem_erase.mp member).2⟩

theorem serve_numbered (numbered : Numbered round.component round.call)
    (careful : carefulReads variant (arrange round.component.sockets.connectionOrder round.component.connections.keys)
      round = true) : Numbered (serve variant round).component (serve variant round).call := by
  have read := readClients_numbered _ numbered
    (fun clientId member => (List.mem_insertionSort _).mp member) careful
  exact ((read.carry (respond_carries _)).carry (retryClients_carries _ _)).carry (cleanUp_carries _ _)

theorem enter_numbered (variant : Variant) (overflowChecks : Bool) (numbered : Numbered round.component round.call)
    (fresh : round.component.sockets.accept = some true → round.component.nextClientId ∉ round.component.accepted) :
    Numbered (enter variant overflowChecks round).1.component (enter variant overflowChecks round).1.call := by
  refine enter_rule
    (fun round => Numbered round.component round.call ∧
      (round.component.sockets.accept = some true → round.component.nextClientId ∉ round.component.accepted))
    (fun round => Numbered round.component round.call) (fun first second listened holds => ?_)
    (fun first second drained holds => ?_) (fun _ holds => accept_numbered holds.1 holds.2) (fun _ => And.left)
    ⟨numbered, fresh⟩
  · obtain ⟨listening, same⟩ := listened.component
    rw [same]
    refine ⟨holds.1.congr ?_ rfl rfl rfl fun _ => id, holds.2⟩
    rw [forwarded, forwarded, listened.outs]
  · obtain ⟨pendingOutbound, same, forwards⟩ := drained.component
    rw [same]
    exact ⟨holds.1.congr forwards rfl rfl rfl fun _ => id, holds.2⟩

theorem conclude_numbered (clock : Clock) (numbered : Numbered round.component round.call) :
    Numbered (conclude variant round clock).component (conclude variant round clock).call := by
  obtain ⟨component, call, _⟩ := conclude_cases variant round clock
  rw [component, call]
  exact numbered

end

variable {variant : Variant} {overflowChecks : Bool}

/-- A client is given a number of its own, what is read is valid UTF-8, and nothing goes to OUT past
packets of the same client that wait. -/
structure CarefulReading (visit : Visit (component variant overflowChecks)) : Prop where
  fresh : (SocketServerComponent.sockets visit.state).accept = some true →
    SocketServerComponent.nextClientId visit.state ∉ SocketServerComponent.accepted visit.state
  reads : (entered visit).2 = none →
    carefulReads variant (arrange (entered visit).1.component.sockets.connectionOrder
      (entered visit).1.component.connections.keys) (entered visit).1 = true

theorem CarefulReading.keeps {visit : Visit (component variant overflowChecks)} (careful : CarefulReading visit)
    (numbered : Numbered visit.state visit.call) : Numbered visit.turn.component visit.turn.call := by
  have start : Numbered (begin visit.state visit.call visit.context).component
      (begin visit.state visit.call visit.context).call := numbered.congr rfl rfl rfl rfl fun _ => id
  have onwards := enter_numbered variant overflowChecks start careful.fresh
  have reads := careful.reads
  have turn : visit.turn = process variant overflowChecks visit.state visit.call visit.context visit.clock := rfl
  unfold entered at reads
  rw [turn]
  unfold process
  generalize enter variant overflowChecks (begin visit.state visit.call visit.context) = entered at *
  obtain ⟨round, returned⟩ := entered
  cases returned with
  | some returned => exact onwards
  | none => exact conclude_numbered _ (serve_numbered onwards (reads rfl))

/-- In every run of careful calls, a server forwards what its clients send. -/
theorem streams_forwarded (inCapacity : ServerPort → Nat) (outCapacity : OutPort → Nat) (now : Instant)
    {outpost : Outpost (component variant overflowChecks)} {trace : List Unit}
    (run : (outpostMachine (component variant overflowChecks)).Run anyMove
      (.start SocketServer.new inCapacity outCapacity now) trace outpost)
    (careful : ∀ visit ∈ outpost.history, CarefulReading visit) : Streamed outpost.state outpost.ports := by
  have upholds : @Upholds (component variant overflowChecks) Numbered CarefulReading fun _ => True := by
    refine ⟨fun numbered idle => ?_, fun {_ move _ _} numbered worked => ?_, fun visit numbered careful => ⟨careful.keeps numbered, trivial⟩⟩
    · exact numbered.congr (congrArg (· ++ _) (idle.sent _)) rfl rfl rfl fun _ => id
    · cases move
      rw [← Option.some_inj.mp worked]
      exact numbered.congr rfl rfl rfl rfl fun _ => id
  have begins : Numbered SocketServer.new
      (.start SocketServer.new inCapacity outCapacity now : Outpost (component variant overflowChecks)).ports := by
    refine ⟨⟨fun packet member => ?_, fun _ => rfl, List.nodup_nil, fun clientId member => ?_⟩, ?_, fun clientId member => ?_⟩
    · cases member
    · cases member
    · exact Nat.two_pow_pos 32
    · cases member
  exact (upholds.run run rfl begins careful).1.toStreamed

instance decidableCarefulReading (visit : Visit (component variant overflowChecks)) : Decidable (CarefulReading visit) :=
  decidable_of_iff
    (((SocketServerComponent.sockets visit.state).accept = some true →
        SocketServerComponent.nextClientId visit.state ∉ SocketServerComponent.accepted visit.state) ∧
      ((entered visit).2 = none →
        carefulReads variant (arrange (entered visit).1.component.sockets.connectionOrder
          (entered visit).1.component.connections.keys) (entered visit).1 = true))
    (by
      constructor
      · rintro ⟨fresh, reads⟩
        exact ⟨fresh, reads⟩
      · exact fun careful => ⟨careful.fresh, careful.reads⟩)

end SocketServer

end Flowd
