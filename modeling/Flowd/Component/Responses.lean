import Flowd.Component.Sockets

namespace Flowd

/-! What TCPServer and UnixSocketServer write to their clients: all that is addressed to each,
once and in order. -/

open Transition

namespace SocketServer

/-- A write that would block has transferred nothing. -/
def Write.isWhole : Write → Bool
  | .blocks count => count == 0
  | _ => true

/-- The data addressed to a client since it was accepted. -/
def due (call : Call ServerPort OutPort) (clientId : Nat) (connection : Connection) : List UInt8 :=
  dataOf clientId (((call.taken .resp).drop connection.since).map bytesOrEmpty)

def pendingOf (component : SocketServerComponent) (clientId : Nat) : List UInt8 :=
  (component.pendingResponses.lookup clientId).getD []

/-- What is due has been written or is pending; to the `broken` connections it has been written
in part. -/
structure Served (component : SocketServerComponent) (call : Call ServerPort OutPort) (broken : List Nat)
    (clientId : Nat) (connection : Connection) : Prop where
  since : connection.since ≤ (call.taken .resp).length
  written : connection.written ++ pendingOf component clientId = due call clientId connection ∨
    clientId ∈ broken ∧ component.pendingResponses.lookup clientId = none ∧
      connection.written <+: due call clientId connection

structure Ledger (component : SocketServerComponent) (call : Call ServerPort OutPort) (broken : List Nat) : Prop where
  served : ∀ clientId connection, component.connections.lookup clientId = some connection →
    Served component call broken clientId connection
  pending : ∀ clientId, component.connections.lookup clientId = none →
    component.pendingResponses.lookup clientId = none
  closed : ∀ entry ∈ component.closed, entry.2.since ≤ (call.taken .resp).length ∧
    entry.2.written <+: due call entry.1 entry.2

/-- The client and the response that the first packet in RESP holds. -/
def firstFrame (call : Call ServerPort OutPort) : Option (Nat × List UInt8) :=
  (call.inbox .resp).head?.bind fun packet => parseFrame (bytesOrEmpty packet)

/-- The clients with a response that is pending or may become so in this call. -/
def owed (component : SocketServerComponent) (call : Call ServerPort OutPort) : List Nat :=
  component.pendingResponses.keys ++ ((firstFrame call).map Prod.fst).toList

section
variable {component next : SocketServerComponent} {call later : Call ServerPort OutPort} {broken more : List Nat}
variable {clientId : Nat} {connection : Connection} {new : List FbpMessage} {write : Write} {buf : List UInt8}

theorem due_append (taken : later.taken .resp = call.taken .resp ++ new)
    (since : connection.since ≤ (call.taken .resp).length) (clientId : Nat) :
    due later clientId connection = due call clientId connection ++ dataOf clientId (new.map bytesOrEmpty) := by
  rw [due, due, taken, List.drop_append_of_le_length since, List.map_append, dataOf_append]

theorem writeAll_cases (whole : write.isWhole = true) (buf : List UInt8) :
    write.writeAll buf = (buf, .ok) ∨ (buf ≠ [] ∧ write.writeAll buf = ([], .wouldBlock)) ∨
      ∃ sent, buf ≠ [] ∧ sent <+: buf ∧ write.writeAll buf = (sent, .error) := by
  cases write with
  | all => exact .inl rfl
  | blocks count =>
      have none : count = 0 := by simpa [Write.isWhole] using whole
      subst none
      cases buf with
      | nil => exact .inl rfl
      | cons byte rest => exact .inr (.inl ⟨by simp, rfl⟩)
  | fails count =>
      by_cases short : buf.length ≤ count
      · exact .inl (if_pos short)
      · refine .inr (.inr ⟨buf.take count, ?_, List.take_prefix _ _, if_neg short⟩)
        rintro rfl
        exact short (Nat.zero_le _)

/-- One client is served differently; what is new on RESP is for that client. -/
theorem Ledger.change (ledger : Ledger component call broken) (clientId : Nat)
    (taken : later.taken .resp = call.taken .resp ++ new)
    (unaddressed : ∀ other, other ≠ clientId → next.connections.lookup other ≠ none →
      dataOf other (new.map bytesOrEmpty) = [])
    (connections : ∀ other, other ≠ clientId → next.connections.lookup other = component.connections.lookup other)
    (pending : ∀ other, other ≠ clientId →
      next.pendingResponses.lookup other = component.pendingResponses.lookup other)
    (stillBroken : ∀ other, other ≠ clientId → other ∈ broken → other ∈ more)
    (served : ∀ connection, next.connections.lookup clientId = some connection →
      Served next later more clientId connection)
    (orphan : next.connections.lookup clientId = none → next.pendingResponses.lookup clientId = none)
    (closed : ∀ entry ∈ next.closed, entry ∈ component.closed ∨
      entry.2.since ≤ (later.taken .resp).length ∧ entry.2.written <+: due later entry.1 entry.2) :
    Ledger next later more := by
  have longer : (call.taken .resp).length ≤ (later.taken .resp).length := by
    rw [taken, List.length_append]
    exact Nat.le_add_right _ _
  refine ⟨fun other connection found => ?_, fun other absent => ?_, fun entry member => ?_⟩
  · by_cases same : other = clientId
    · subst same
      exact served connection found
    · have nothing := unaddressed other same (by rw [found]; simp)
      rw [connections other same] at found
      obtain ⟨since, written⟩ := ledger.served other connection found
      refine ⟨Nat.le_trans since longer, ?_⟩
      rw [due_append taken since, nothing, List.append_nil, pendingOf, pending other same]
      exact written.imp id fun partly => ⟨stillBroken other same partly.1, partly.2⟩
  · by_cases same : other = clientId
    · subst same
      exact orphan absent
    · rw [pending other same]
      exact ledger.pending other (connections other same ▸ absent)
  · rcases closed entry member with already | now
    · obtain ⟨since, written⟩ := ledger.closed entry already
      refine ⟨Nat.le_trans since longer, ?_⟩
      rw [due_append taken since]
      exact written.trans (List.prefix_append _ _)
    · exact now

theorem Ledger.congr (ledger : Ledger component call broken) (connections : next.connections = component.connections)
    (pending : next.pendingResponses = component.pendingResponses) (closed : next.closed = component.closed)
    (taken : later.taken .resp = call.taken .resp) : Ledger next later broken := by
  have same (clientId : Nat) (connection : Connection) : due later clientId connection = due call clientId connection := by
    rw [due, due, taken]
  refine ⟨fun clientId connection found => ?_, fun clientId absent => ?_, fun entry member => ?_⟩
  · obtain ⟨since, written⟩ := ledger.served clientId connection (connections ▸ found)
    refine ⟨taken ▸ since, ?_⟩
    rw [same, pendingOf, pending]
    exact written
  · rw [pending]
    exact ledger.pending clientId (connections ▸ absent)
  · rw [same, taken]
    exact ledger.closed entry (closed ▸ member)

theorem Ledger.worked (ledger : Ledger component call broken) : Ledger component call.worked broken :=
  ledger.congr rfl rfl rfl rfl

/-- Nothing that has to do with responses is different. -/
structure Aside (round next : Round) : Prop where
  connections : next.component.connections = round.component.connections
  pendingResponses : next.component.pendingResponses = round.component.pendingResponses
  closed : next.component.closed = round.component.closed
  sockets : next.component.sockets = round.component.sockets
  nextClientId : next.component.nextClientId = round.component.nextClientId
  taken : next.call.taken .resp = round.call.taken .resp
  inbox : next.call.inbox .resp = round.call.inbox .resp

theorem Aside.refl (round : Round) : Aside round round := ⟨rfl, rfl, rfl, rfl, rfl, rfl, rfl⟩

variable {round middle last : Round}

theorem Aside.trans (first : Aside round middle) (second : Aside middle last) : Aside round last where
  connections := second.connections.trans first.connections
  pendingResponses := second.pendingResponses.trans first.pendingResponses
  closed := second.closed.trans first.closed
  sockets := second.sockets.trans first.sockets
  nextClientId := second.nextClientId.trans first.nextClientId
  taken := second.taken.trans first.taken
  inbox := second.inbox.trans first.inbox

theorem Ledger.aside (ledger : Ledger round.component round.call broken) (same : Aside round last) :
    Ledger last.component last.call broken :=
  ledger.congr same.connections same.pendingResponses same.closed same.taken

variable {variant : Variant} {overflowChecks : Bool}

theorem readClient_aside (round : Round) (clientId : Nat) : Aside round (readClient variant round clientId) := by
  unfold readClient
  split
  · dsimp only
    split
    · exact ⟨rfl, rfl, rfl, rfl, rfl, rfl, rfl⟩
    · next bytes _ _ =>
        rcases round.call.push_cases (.out, variant.message (framed clientId (bytes.take variant.readBuffer))) with
          ⟨outs, pushed, _⟩ | ⟨outs, pushed, _⟩ <;>
        · rw [pushed]
          exact ⟨rfl, rfl, rfl, rfl, rfl, rfl, rfl⟩
  · exact .refl round
  · exact ⟨rfl, rfl, rfl, rfl, rfl, rfl, rfl⟩

theorem readClients_aside (clients : List Nat) (round : Round) : Aside round (readClients variant clients round) := by
  induction clients generalizing round with
  | nil => exact .refl round
  | cons clientId rest ih =>
      unfold readClients
      split
      · exact (readClient_aside round clientId).trans (ih _)
      · exact .refl round

/-- A client with a new number has been sent nothing, and nothing is due to it. -/
theorem accept_ledger (ledger : Ledger round.component round.call broken)
    (fresh : round.component.sockets.accept = some true →
      round.component.connections.lookup round.component.nextClientId = none) :
    Ledger (accept variant overflowChecks round).1.component (accept variant overflowChecks round).1.call broken := by
  unfold accept
  split
  · cases outcome : round.component.sockets.accept with
    | none => exact ledger
    | some nonblocking =>
        cases nonblocking with
        | false => exact ledger
        | true =>
            have absent := fresh outcome
            dsimp only
            split
            · exact ledger
            · have noNews : round.call.taken .resp = round.call.taken .resp ++ [] := (List.append_nil _).symm
              refine ledger.change round.component.nextClientId noNews (fun _ _ _ => rfl)
                (fun other different => AList.lookup_insert_ne different) (fun _ _ => rfl) (fun _ _ => id) ?_ ?_ ?_
              · intro connection found
                have accepted : some (⟨(round.call.taken .resp).length, []⟩ : Connection) = some connection :=
                  (AList.lookup_insert _).symm.trans found
                cases accepted
                have nothing := ledger.pending _ absent
                have quiet : (round.call.taken .resp).drop (round.call.taken .resp).length = [] := List.drop_length
                refine ⟨Nat.le_refl _, .inl ?_⟩
                show [] ++ (round.component.pendingResponses.lookup _).getD [] =
                  dataOf _ (((round.call.taken .resp).drop (round.call.taken .resp).length).map bytesOrEmpty)
                rw [nothing, quiet]
                rfl
              · exact fun _ => ledger.pending _ absent
              · intro entry member
                refine .inl ?_
                simpa [Round.paid, absent] using member
  · exact ledger

/-- Packets that are for none of the clients make no difference. -/
theorem Ledger.unaddressed (ledger : Ledger component call broken)
    (taken : later.taken .resp = call.taken .resp ++ new)
    (unaddressed : ∀ clientId connection, component.connections.lookup clientId = some connection →
      dataOf clientId (new.map bytesOrEmpty) = []) : Ledger component later broken := by
  refine ledger.change 0 taken (fun clientId _ connected => ?_) (fun _ _ => rfl) (fun _ _ => rfl) (fun _ _ => id) ?_
    (ledger.pending 0) (fun _ => .inl)
  · obtain ⟨connection, found⟩ := Option.ne_none_iff_exists'.mp connected
    exact unaddressed clientId connection found
  · intro connection found
    obtain ⟨since, written⟩ := ledger.served 0 connection found
    refine ⟨by rw [taken, List.length_append]; omega, ?_⟩
    rw [due_append taken since, unaddressed 0 connection found, List.append_nil]
    exact written

/-- Something is written to one client, for which there may be something new on RESP. -/
theorem Ledger.transfer (ledger : Ledger component call broken) (found : component.connections.lookup clientId = some connection)
    (taken : later.taken .resp = call.taken .resp ++ new)
    (unaddressed : ∀ other, other ≠ clientId → dataOf other (new.map bytesOrEmpty) = [])
    {written : List UInt8} {pendingResponses : HashMap Nat (List UInt8)}
    (pending : ∀ other, other ≠ clientId → pendingResponses.lookup other = component.pendingResponses.lookup other)
    (stillBroken : broken ⊆ more)
    (even : written ++ (pendingResponses.lookup clientId).getD [] =
        due call clientId connection ++ dataOf clientId (new.map bytesOrEmpty) ∨
      clientId ∈ more ∧ pendingResponses.lookup clientId = none ∧
        written <+: due call clientId connection ++ dataOf clientId (new.map bytesOrEmpty)) :
    Ledger { component with
      connections := AList.insert clientId { connection with written } component.connections, pendingResponses }
      later more := by
  have since := (ledger.served clientId connection found).since
  refine ledger.change clientId taken (fun other different _ => unaddressed other different)
    (fun other different => AList.lookup_insert_ne different) pending (fun _ _ => @stillBroken _) ?_ ?_ (fun _ => .inl)
  · intro newer same
    rw [AList.lookup_insert] at same
    cases same
    refine ⟨by rw [taken, List.length_append]; exact Nat.le_add_right_of_le since, ?_⟩
    have total : due later clientId { connection with written } =
        due call clientId connection ++ dataOf clientId (new.map bytesOrEmpty) := due_append taken since clientId
    rw [total]
    exact even
  · intro none
    rw [AList.lookup_insert] at none
    cases none

theorem route_ledger (packet : FbpMessage) (round : Round) (ledger : Ledger round.component call [])
    (taken : round.call.taken .resp = call.taken .resp ++ [packet])
    (whole : ∀ frame ∈ parseFrame (bytesOrEmpty packet), frame.1 ∈ round.component.connections →
      round.component.sockets.respond.isWhole = true)
    (ordered : ∀ frame ∈ parseFrame (bytesOrEmpty packet),
      (round.component.pendingResponses.lookup frame.1).isSome = true → frame.2.isEmpty = true) :
    ∃ broken, (∀ clientId ∈ broken, clientId ∈ (route variant packet round).leaving) ∧
      Ledger (route variant packet round).component (route variant packet round).call broken := by
  unfold route
  cases parsed : parseFrame (bytesOrEmpty packet) with
  | none =>
      refine ⟨[], by simp, ledger.unaddressed taken fun clientId _ _ => ?_⟩
      exact dataOf_unframed parsed clientId
  | some frame =>
      obtain ⟨target, response⟩ := frame
      have others (clientId : Nat) (different : clientId ≠ target) :
          dataOf clientId ([packet].map bytesOrEmpty) = [] := by
        rw [List.map_singleton, dataOf_singleton parsed, if_neg (Ne.symm different)]
      have addressed : dataOf target ([packet].map bytesOrEmpty) = response := by
        rw [List.map_singleton, dataOf_singleton parsed, if_pos rfl]
      have empty := ordered (target, response) (by rw [parsed]; rfl)
      have made := whole (target, response) (by rw [parsed]; rfl)
      dsimp only at empty made ⊢
      cases found : round.component.connections.lookup target with
      | none =>
          refine ⟨[], by simp, ledger.unaddressed taken fun clientId connection connected => others clientId ?_⟩
          rintro rfl
          rw [found] at connected
          cases connected
      | some connection =>
          have even : connection.written ++ pendingOf round.component target = due call target connection :=
            (ledger.served target connection found).written.resolve_right fun partly => by cases partly.1
          -- a response that is not empty finds nothing pending
          have alone : response ≠ [] → round.component.pendingResponses.lookup target = none := by
            intro something
            by_contra occupied
            exact something (by simpa using empty (Option.isSome_iff_ne_none.mpr occupied))
          have settled : response ≠ [] → connection.written = due call target connection := by
            intro something
            simpa [pendingOf, alone something] using even
          have whole := made (AList.lookup_isSome.mp (Option.isSome_of_eq_some found))
          unfold writeTo
          rcases writeAll_cases whole response with written | ⟨something, written⟩ | ⟨sent, something, partly, written⟩ <;>
            rw [written] <;> dsimp only
          · have sent : Ledger { round.component with
                connections := AList.insert target { connection with written := connection.written ++ response }
                  round.component.connections } round.call [] := by
              refine ledger.transfer found taken others (fun _ _ => rfl) (List.Subset.refl _) (.inl ?_)
              rw [addressed]
              by_cases nothing : response = []
              · rw [nothing, List.append_nil, List.append_nil]
                exact even
              · rw [alone nothing, settled nothing]
                exact List.append_nil _
            exact ⟨[], by simp, sent.worked⟩
          · refine ⟨[], by simp, ?_⟩
            have kept : Ledger { round.component with
                connections := AList.insert target { connection with written := connection.written ++ [] }
                  round.component.connections
                pendingResponses := AList.insert target response round.component.pendingResponses } round.call [] := by
              refine ledger.transfer found taken others (fun other different => AList.lookup_insert_ne different)
                (List.Subset.refl _) (.inl ?_)
              rw [addressed, AList.lookup_insert, settled something, List.append_nil]
              rfl
            split
            · exact kept.worked
            · exact kept
          · refine ⟨[target], by simp, ledger.transfer found taken others (fun _ _ => rfl) (List.nil_subset _) (.inr ?_)⟩
            refine ⟨List.mem_singleton_self _, alone something, ?_⟩
            rw [addressed, settled something]
            exact (List.prefix_append_right_inj _).mpr partly

theorem retryClient_ledger (clientId : Nat) (ledger : Ledger round.component round.call broken)
    (whole : (round.component.sockets.retry clientId).isWhole = true) (leaving : broken ⊆ round.leaving) :
    ∃ more, more ⊆ (retryClient round clientId).leaving ∧
      Ledger (retryClient round clientId).component (retryClient round clientId).call more := by
  have noNews : round.call.taken .resp = round.call.taken .resp ++ [] := (List.append_nil _).symm
  unfold retryClient
  dsimp only
  cases found : round.component.connections.lookup clientId with
  | none =>
      have dropped : Ledger (settle round clientId).component round.call broken := by
        refine ledger.change clientId noNews (fun _ _ _ => rfl) (fun _ _ => rfl)
          (fun other different => AList.lookup_erase_ne different) (fun _ _ => id) ?_ (fun _ => AList.lookup_erase _ _)
          (fun _ => .inl)
        intro connection connected
        rw [show (settle round clientId).component.connections.lookup clientId = none from found] at connected
        cases connected
      exact ⟨broken, leaving, dropped⟩
  | some connection =>
      have erased (other : Nat) (different : other ≠ clientId) :
          (AList.erase clientId round.component.pendingResponses).lookup other =
            round.component.pendingResponses.lookup other := AList.lookup_erase_ne different
      have served := (ledger.served clientId connection found).written
      have nothing : dataOf clientId (List.map bytesOrEmpty []) = [] := rfl
      unfold writeTo
      rcases writeAll_cases whole ((round.component.pendingResponses.lookup clientId).getD []) with
        written | ⟨_, written⟩ | ⟨sent, something, partly, written⟩ <;>
        rw [written] <;> dsimp only
      · have sent : Ledger { round.component with
            connections := AList.insert clientId
              { connection with written := connection.written ++ (round.component.pendingResponses.lookup clientId).getD [] }
              round.component.connections
            pendingResponses := AList.erase clientId round.component.pendingResponses } round.call broken := by
          refine ledger.transfer found noNews (fun _ _ => rfl) erased (List.Subset.refl _) ?_
          rw [AList.lookup_erase, nothing, List.append_nil]
          refine served.imp (fun even => ?_) fun partly => ⟨partly.1, rfl, ?_⟩
          · rw [← even]
            exact List.append_nil _
          · rw [partly.2.1]
            simpa using partly.2.2
        exact ⟨broken, leaving, sent.worked⟩
      · have still : Ledger { round.component with
            connections := AList.insert clientId { connection with written := connection.written ++ [] }
              round.component.connections } round.call broken := by
          refine ledger.transfer found noNews (fun _ _ => rfl) (fun _ _ => rfl) (List.Subset.refl _) ?_
          rw [nothing, List.append_nil, List.append_nil]
          exact served
        exact ⟨broken, leaving, still⟩
      · have even := served.resolve_right fun partly => something (by rw [partly.2.1]; rfl)
        have torn : Ledger { round.component with
            connections := AList.insert clientId { connection with written := connection.written ++ sent }
              round.component.connections
            pendingResponses := AList.erase clientId round.component.pendingResponses } round.call
            (broken ++ [clientId]) := by
          refine ledger.transfer found noNews (fun _ _ => rfl) erased (List.subset_append_left _ _) (.inr ?_)
          refine ⟨by simp, AList.lookup_erase _ _, ?_⟩
          rw [nothing, List.append_nil, ← even]
          exact (List.prefix_append_right_inj _).mpr partly
        refine ⟨broken ++ [clientId], ?_, torn⟩
        exact List.append_subset.mpr ⟨List.subset_append_of_subset_left _ leaving, List.subset_append_right _ _⟩

theorem retryClients_ledger (clients : List Nat) (ledger : Ledger round.component round.call broken)
    (whole : ∀ clientId ∈ clients, (round.component.sockets.retry clientId).isWhole = true) (leaving : broken ⊆ round.leaving) :
    ∃ more, more ⊆ (retryClients clients round).leaving ∧
      Ledger (retryClients clients round).component (retryClients clients round).call more := by
  induction clients generalizing round broken with
  | nil => exact ⟨broken, leaving, ledger⟩
  | cons clientId rest ih =>
      unfold retryClients
      split
      · obtain ⟨more, still, onwards⟩ :=
          retryClient_ledger clientId ledger (whole clientId List.mem_cons_self) leaving
        refine ih onwards (fun other member => ?_) still
        rw [retryClient_sockets]
        exact whole other (List.mem_cons_of_mem _ member)
      · exact ⟨broken, leaving, ledger⟩

theorem cleanUp_ledger (leaving : List Nat) (ledger : Ledger round.component round.call broken)
    (gone : broken ⊆ leaving) : Ledger (cleanUp leaving round).component (cleanUp leaving round).call [] := by
  induction leaving generalizing round broken with
  | nil =>
      rw [List.subset_nil.mp gone] at ledger
      exact ledger
  | cons clientId rest ih =>
      have noNews : round.call.taken .resp = round.call.taken .resp ++ [] := (List.append_nil _).symm
      let removed : SocketServerComponent := { round.component with
        connections := AList.erase clientId round.component.connections
        pendingResponses := AList.erase clientId round.component.pendingResponses
        closed := round.component.closed ++
          ((round.component.connections.lookup clientId).map (clientId, ·)).toList }
      have onwards : Ledger removed round.call (broken.filter (· ≠ clientId)) := by
        refine ledger.change clientId noNews (fun _ _ _ => rfl) (fun other different => AList.lookup_erase_ne different)
          (fun other different => AList.lookup_erase_ne different) ?_ ?_ (fun _ => AList.lookup_erase _ _) ?_
        · intro other different member
          exact List.mem_filter.mpr ⟨member, by simpa using different⟩
        · intro connection found
          rw [show removed.connections.lookup clientId = none from AList.lookup_erase _ _] at found
          cases found
        · intro entry member
          rcases List.mem_append.mp member with already | now
          · exact .inl already
          · obtain ⟨connection, found, same⟩ := Option.map_eq_some_iff.mp (Option.mem_toList.mp now)
            cases same
            obtain ⟨since, written⟩ := ledger.served clientId connection found
            refine .inr ⟨since, ?_⟩
            rcases written with even | partly
            · rw [← even]
              exact List.prefix_append _ _
            · exact partly.2.2
      refine ih onwards.worked fun other member => ?_
      obtain ⟨inside, different⟩ := List.mem_filter.mp member
      exact (List.mem_cons.mp (gone inside)).resolve_left (by simpa using different)

/-- Only the response in the packet can become pending. -/
theorem route_pending {packet : FbpMessage} {clientId : Nat}
    (pending : clientId ∈ (route variant packet round).component.pendingResponses) :
    clientId ∈ round.component.pendingResponses ∨ ∃ response, parseFrame (bytesOrEmpty packet) = some (clientId, response) := by
  unfold route writeTo at pending
  cases parsed : parseFrame (bytesOrEmpty packet) with
  | none =>
      rw [parsed] at pending
      exact .inl pending
  | some frame =>
      obtain ⟨target, response⟩ := frame
      have kept (member : clientId ∈ AList.insert target response round.component.pendingResponses) :
          clientId ∈ round.component.pendingResponses ∨ ∃ other, some (target, response) = some (clientId, other) := by
        rcases (AList.mem_insert _).mp member with same | old
        · exact .inr ⟨response, by rw [same]⟩
        · exact .inl old
      rw [parsed] at pending
      dsimp only at pending
      split at pending
      · exact .inl pending
      · split at pending
        · exact .inl pending
        · apply kept
          split at pending <;> exact pending
        · exact .inl pending

theorem respond_owed {clientId : Nat} (pending : clientId ∈ (respond variant round).component.pendingResponses) :
    clientId ∈ owed round.component round.call := by
  unfold owed
  rw [List.mem_append]
  unfold respond at pending
  split at pending
  · rcases round.call.pop_cases .resp with ⟨_, popped⟩ | ⟨packet, rest, taken, waiting, popped, _⟩
    · rw [popped] at pending
      exact .inl pending
    · rw [popped] at pending
      rcases route_pending pending with old | ⟨response, parsed⟩
      · exact .inl old
      · have first : firstFrame round.call = some (clientId, response) := by
          unfold firstFrame
          rw [waiting]
          exact parsed
        right
        simp [first]
  · exact .inl pending

/-- Nothing but what is read from RESP is written, if no response overtakes another and no write
stops in the middle. -/
theorem serve_ledger (ledger : Ledger round.component round.call [])
    (whole : 0 < (readAll variant round).context.remainingBudget → ∀ frame ∈ firstFrame round.call,
      frame.1 ∈ round.component.connections → round.component.sockets.respond.isWhole = true)
    (retries : ∀ clientId ∈ owed round.component round.call, (round.component.sockets.retry clientId).isWhole = true)
    (ordered : 0 < (readAll variant round).context.remainingBudget → ∀ frame ∈ firstFrame round.call,
      (round.component.pendingResponses.lookup frame.1).isSome = true → frame.2.isEmpty = true) :
    Ledger (serve variant round).component (serve variant round).call [] := by
  have reads : Aside round (readAll variant round) := readClients_aside _ round
  have onwards := ledger.aside reads
  have owes : owed (readAll variant round).component (readAll variant round).call = owed round.component round.call := by
    unfold owed firstFrame
    rw [reads.pendingResponses, reads.inbox]
  obtain ⟨broken, leaving, responded, same⟩ : ∃ broken, broken ⊆ (respond variant (readAll variant round)).leaving ∧
      Ledger (respond variant (readAll variant round)).component (respond variant (readAll variant round)).call broken ∧
      (respond variant (readAll variant round)).component.sockets = round.component.sockets := by
    generalize readAll variant round = read at reads whole ordered onwards ⊢
    unfold respond
    split
    · next budget =>
        rcases read.call.pop_cases .resp with ⟨_, popped⟩ | ⟨packet, rest, taken, waiting, popped, took, _⟩
        · rw [popped]
          exact ⟨[], List.nil_subset _, onwards, reads.sockets⟩
        · have first : firstFrame round.call = parseFrame (bytesOrEmpty packet) := by
            unfold firstFrame
            rw [← reads.inbox, waiting]
            rfl
          have made := whole budget
          have alone := ordered budget
          rw [first] at made alone
          rw [← reads.connections, ← reads.sockets] at made
          rw [← reads.pendingResponses] at alone
          have middle : ({ read with call := taken } : Round).call.taken .resp = read.call.taken .resp ++ [packet] :=
            took.taken
          obtain ⟨broken, leaving, routed⟩ := route_ledger packet { read with call := taken } onwards middle made alone
          rw [popped]
          exact ⟨broken, leaving, routed, (route_sockets packet _).trans reads.sockets⟩
    · exact ⟨[], List.nil_subset _, onwards, reads.sockets⟩
  have retried : ∀ clientId ∈ arrange (respond variant (readAll variant round)).component.sockets.responseOrder
      (respond variant (readAll variant round)).component.pendingResponses.keys,
      ((respond variant (readAll variant round)).component.sockets.retry clientId).isWhole = true := by
    intro clientId member
    have pending : clientId ∈ (respond variant (readAll variant round)).component.pendingResponses :=
      (List.mem_insertionSort _).mp member
    rw [same]
    exact retries clientId (owes ▸ respond_owed pending)
  obtain ⟨more, still, settled⟩ := retryClients_ledger _ responded retried leaving
  exact cleanUp_ledger _ settled still

/-- Up to the clients nothing is written. -/
theorem enter_ledger (variant : Variant) (overflowChecks : Bool) (ledger : Ledger round.component round.call [])
    (fresh : round.component.sockets.accept = some true →
      round.component.connections.lookup round.component.nextClientId = none) :
    Ledger (enter variant overflowChecks round).1.component (enter variant overflowChecks round).1.call [] := by
  refine enter_rule
    (fun round => Ledger round.component round.call [] ∧ (round.component.sockets.accept = some true →
      round.component.connections.lookup round.component.nextClientId = none))
    (fun round => Ledger round.component round.call []) (fun first second listened holds => ?_)
    (fun first second drained holds => ?_) (fun _ holds => accept_ledger holds.1 holds.2) (fun _ => And.left) ⟨ledger, fresh⟩
  · obtain ⟨listening, same⟩ := listened.component
    rw [same]
    exact ⟨holds.1.congr rfl rfl rfl listened.taken, holds.2⟩
  · obtain ⟨pendingOutbound, same, _⟩ := drained.component
    rw [same]
    exact ⟨holds.1.congr rfl rfl rfl (by rw [Call.taken, Call.taken, drained.ins]), holds.2⟩

/-- What the call meets with when it comes to the clients. -/
structure Meets (round next : Round) : Prop where
  pendingResponses : next.component.pendingResponses = round.component.pendingResponses
  sockets : next.component.sockets = round.component.sockets
  inbox : next.call.inbox .resp = round.call.inbox .resp
  connections : ∀ clientId ∈ next.component.connections, clientId ∈ round.component.connections ∨
    round.component.sockets.accept = some true ∧ clientId = round.component.nextClientId

/-- With one client more the call meets with the same. -/
theorem accept_meets (round : Round) : Meets round (accept variant overflowChecks round).1 := by
  unfold accept
  split
  · cases accepts : round.component.sockets.accept with
    | none => exact ⟨rfl, rfl, rfl, fun _ => .inl⟩
    | some nonblocking =>
        cases nonblocking with
        | false => exact ⟨rfl, rfl, rfl, fun _ => .inl⟩
        | true =>
            dsimp only
            split
            · exact ⟨rfl, rfl, rfl, fun _ => .inl⟩
            · refine ⟨rfl, rfl, rfl, fun clientId member => ?_⟩
              rcases (AList.mem_insert _).mp member with same | old
              · exact .inr ⟨accepts, same⟩
              · exact .inl old
  · exact ⟨rfl, rfl, rfl, fun _ => .inl⟩

theorem enter_meets (variant : Variant) (overflowChecks : Bool) (round : Round) :
    Meets round (enter variant overflowChecks round).1 := by
  refine enter_rule
    (fun next => (next.component.pendingResponses = round.component.pendingResponses ∧
      next.component.sockets = round.component.sockets ∧ next.component.connections = round.component.connections ∧
      next.component.nextClientId = round.component.nextClientId) ∧ next.call.inbox .resp = round.call.inbox .resp)
    (Meets round) (fun first second listened holds => ?_) (fun first second drained holds => ?_) (fun next holds => ?_)
    (fun next holds => ?_) ⟨⟨rfl, rfl, rfl, rfl⟩, rfl⟩
  · obtain ⟨listening, same⟩ := listened.component
    rw [same]
    exact ⟨holds.1, listened.inbox.trans holds.2⟩
  · obtain ⟨pendingOutbound, same, _⟩ := drained.component
    rw [same]
    refine ⟨holds.1, ?_⟩
    rw [Call.inbox, drained.ins]
    exact holds.2
  · obtain ⟨⟨pendingResponses, sockets, connections, nextClientId⟩, inbox⟩ := holds
    have accepted := @accept_meets variant overflowChecks next
    refine ⟨accepted.pendingResponses.trans pendingResponses, accepted.sockets.trans sockets, accepted.inbox.trans inbox, ?_⟩
    rw [← connections, ← sockets, ← nextClientId]
    exact accepted.connections
  · obtain ⟨⟨pendingResponses, sockets, connections, _⟩, inbox⟩ := holds
    refine ⟨pendingResponses, sockets, inbox, fun clientId member => .inl ?_⟩
    rw [← connections]
    exact member

end

variable {variant : Variant} {overflowChecks : Bool}

/-- The state that a call comes to the clients in, or what it returns before. -/
def entered (visit : Visit (component variant overflowChecks)) : Round × Option Returned :=
  enter variant overflowChecks (begin visit.state visit.call visit.context)

/-- There is budget left when the call comes to RESP. -/
def Affords (visit : Visit (component variant overflowChecks)) : Prop :=
  (entered visit).2 = none ∧ 0 < (readAll variant (entered visit).1).context.remainingBudget

/-- A client is not given the number of another, no response overtakes another, no write that is due
stops in the middle, and the call does not finish with packets left in RESP. -/
structure CarefulVisit (visit : Visit (component variant overflowChecks)) : Prop where
  fresh : (SocketServerComponent.sockets visit.state).accept = some true →
    (SocketServerComponent.connections visit.state).lookup (SocketServerComponent.nextClientId visit.state) = none
  whole : Affords visit → ∀ frame ∈ firstFrame visit.call,
    (frame.1 ∈ SocketServerComponent.connections visit.state ∨
      (SocketServerComponent.sockets visit.state).accept = some true ∧
        frame.1 = SocketServerComponent.nextClientId visit.state) →
    (SocketServerComponent.sockets visit.state).respond.isWhole = true
  retries : ∀ clientId ∈ owed visit.state visit.call,
    ((SocketServerComponent.sockets visit.state).retry clientId).isWhole = true
  ordered : Affords visit → ∀ frame ∈ firstFrame visit.call,
    ((SocketServerComponent.pendingResponses visit.state).lookup frame.1).isSome = true → frame.2.isEmpty = true
  read : (entered visit).2 = none → variant.isDone (serve variant (entered visit).1) = true →
    ((serve variant (entered visit).1).call.inbox .resp).isEmpty = true

/-- A call that finishes without a stop leaves nothing to write. -/
def Completes (visit : Visit (component variant overflowChecks)) : Prop :=
  visit.turn.returned = .result .finished → ¬ visit.turn.call.Stopped FbpMessage.textOrUtf8 →
    ∀ clientId connection,
      (SocketServerComponent.connections visit.turn.component).lookup clientId = some connection →
        connection.written = dataOf clientId (((Call.taken visit.turn.call ServerPort.resp ++
          Call.inbox visit.turn.call ServerPort.resp).drop connection.since).map bytesOrEmpty)

/-- What is addressed to a connected client has been written or is pending, in order; of what was
addressed to others a part has been written. -/
structure Delivers (outpost : Outpost (component variant overflowChecks)) : Prop where
  connected : ∀ clientId connection,
    (SocketServerComponent.connections outpost.state).lookup clientId = some connection →
      connection.written ++ pendingOf outpost.state clientId = due outpost.ports clientId connection
  closed : ∀ entry ∈ SocketServerComponent.closed outpost.state, entry.2.written <+: due outpost.ports entry.1 entry.2
  completes : ∀ visit ∈ outpost.history, Completes visit

/-- Where nothing is pending and nothing is in RESP, all has been written. -/
theorem Ledger.completes {component : SocketServerComponent} {call : Call ServerPort OutPort}
    (ledger : Ledger component call []) (settled : component.pendingResponses.entries.isEmpty = true)
    (read : (call.inbox .resp).isEmpty = true) {clientId : Nat} {connection : Connection}
    (found : component.connections.lookup clientId = some connection) :
    connection.written =
      dataOf clientId (((call.taken .resp ++ call.inbox .resp).drop connection.since).map bytesOrEmpty) := by
  have even := (ledger.served clientId connection found).written.resolve_right fun partly => by cases partly.1
  have nothing : component.pendingResponses.lookup clientId = none := by
    rw [AList.lookup, List.isEmpty_iff.mp settled]
    rfl
  rw [pendingOf, nothing] at even
  rw [List.isEmpty_iff.mp read, List.append_nil]
  exact (List.append_nil _).symm.trans even

theorem CarefulVisit.keeps {visit : Visit (component variant overflowChecks)} (careful : CarefulVisit visit)
    (ledger : Ledger visit.state visit.call []) :
    Ledger visit.turn.component visit.turn.call [] ∧ Completes visit := by
  have start : Ledger (begin visit.state visit.call visit.context).component
      (begin visit.state visit.call visit.context).call [] := ledger.congr rfl rfl rfl rfl
  have onwards := enter_ledger variant overflowChecks start careful.fresh
  have meets := enter_meets variant overflowChecks (begin visit.state visit.call visit.context)
  have stops := @enter_stopped variant overflowChecks (begin visit.state visit.call visit.context)
  have whole := careful.whole
  have ordered := careful.ordered
  have read := careful.read
  have first : ∀ round, Meets (begin visit.state visit.call visit.context) round →
      firstFrame round.call = firstFrame visit.call := by
    intro round meets
    unfold firstFrame
    rw [meets.inbox]
    rfl
  unfold Affords entered at whole ordered
  unfold entered at read
  unfold Completes
  have turn : visit.turn = process variant overflowChecks visit.state visit.call visit.context visit.clock := rfl
  rw [turn]
  unfold process
  generalize enter variant overflowChecks (begin visit.state visit.call visit.context) = entered at *
  obtain ⟨round, returned⟩ := entered
  cases returned with
  | some returned =>
      exact ⟨onwards, fun finished unstopped => absurd (stops (congrArg some finished)) unstopped⟩
  | none =>
      have served : Ledger (serve variant round).component (serve variant round).call [] := by
        refine serve_ledger onwards (fun budget frame found connected => ?_) (fun clientId member => ?_)
          fun budget frame found pending => ?_
        · rw [meets.sockets]
          exact whole ⟨rfl, budget⟩ frame (first round meets ▸ found) (meets.connections frame.1 connected)
        · rw [meets.sockets]
          apply careful.retries
          unfold owed at member ⊢
          rw [meets.pendingResponses, first round meets] at member
          exact member
        · rw [meets.pendingResponses] at pending
          exact ordered ⟨rfl, budget⟩ frame (first round meets ▸ found) pending
      obtain ⟨component, call, done⟩ := conclude_cases variant (serve variant round) visit.clock
      dsimp only
      rw [component, call]
      refine ⟨served, fun finished _ clientId connection found => ?_⟩
      have ended := done finished
      refine served.completes ?_ (read rfl ended) found
      simp only [Variant.isDone, Bool.and_eq_true] at ended
      exact ended.1.2

/-- In every run of careful calls, responses reach the clients completely, once and in order. -/
theorem responses_delivered (variant : Variant) (overflowChecks : Bool) (inCapacity : ServerPort → Nat)
    (outCapacity : OutPort → Nat) (now : Instant) (outpost : Outpost (component variant overflowChecks))
    (trace : List Unit)
    (run : (outpostMachine (component variant overflowChecks)).Run anyMove
      (.start SocketServer.new inCapacity outCapacity now) trace outpost)
    (careful : ∀ visit ∈ outpost.history, CarefulVisit visit) : Delivers outpost := by
  have upholds : @Upholds (component variant overflowChecks) (fun state ports => Ledger state ports [])
      CarefulVisit Completes := by
    refine ⟨fun ledger idle => ?_, fun {_ move _ _} ledger worked => ?_, fun visit ledger careful => careful.keeps ledger⟩
    · exact ledger.congr rfl rfl rfl (idle.taken _)
    · cases move
      rw [← Option.some_inj.mp worked]
      exact ledger.congr rfl rfl rfl rfl
  have begins : Ledger SocketServer.new
      (.start SocketServer.new inCapacity outCapacity now : Outpost (component variant overflowChecks)).ports [] := by
    refine ⟨fun clientId connection found => ?_, fun _ _ => rfl, fun entry member => ?_⟩
    · cases found
    · cases member
  obtain ⟨ledger, completes⟩ := upholds.run run rfl begins careful
  refine ⟨fun clientId connection found => ?_, fun entry member => (ledger.closed entry member).2, completes⟩
  exact (ledger.served clientId connection found).written.resolve_right fun partly => by cases partly.1

instance decidableAffords (visit : Visit (component variant overflowChecks)) : Decidable (Affords visit) :=
  inferInstanceAs (Decidable ((entered visit).2 = none ∧ _ < _))

instance decidableCarefulVisit (visit : Visit (component variant overflowChecks)) : Decidable (CarefulVisit visit) :=
  decidable_of_iff
    (((SocketServerComponent.sockets visit.state).accept = some true →
        (SocketServerComponent.connections visit.state).lookup (SocketServerComponent.nextClientId visit.state) = none) ∧
      (Affords visit → ∀ frame ∈ firstFrame visit.call,
        (frame.1 ∈ SocketServerComponent.connections visit.state ∨
          (SocketServerComponent.sockets visit.state).accept = some true ∧
            frame.1 = SocketServerComponent.nextClientId visit.state) →
        (SocketServerComponent.sockets visit.state).respond.isWhole = true) ∧
      (∀ clientId ∈ owed visit.state visit.call,
        ((SocketServerComponent.sockets visit.state).retry clientId).isWhole = true) ∧
      (Affords visit → ∀ frame ∈ firstFrame visit.call,
        ((SocketServerComponent.pendingResponses visit.state).lookup frame.1).isSome = true → frame.2.isEmpty = true) ∧
      ((entered visit).2 = none → variant.isDone (serve variant (entered visit).1) = true →
        ((serve variant (entered visit).1).call.inbox .resp).isEmpty = true))
    (by
      constructor
      · rintro ⟨fresh, whole, retries, ordered, read⟩
        exact ⟨fresh, whole, retries, ordered, read⟩
      · exact fun careful => ⟨careful.fresh, careful.whole, careful.retries, careful.ordered, careful.read⟩)

def serverStart : Outpost (component TCPServer.variant true) := .start SocketServer.new (fun _ => 2) (fun _ => 2) 0

def dispatch : Affair (component TCPServer.variant true) :=
  .process { NodeContext.new "tcp" .normal 0 0 with remainingBudget := 10 } (fun _ => []) []

/-- A client is accepted and gets a response, at first with `write`, and then RESP is closed. -/
def replying (write : Write) : List (Affair (component TCPServer.variant true)) :=
  [.feed ServerPort.conf (.text "127.0.0.1:80"),
    .work (.sockets { Sockets.new with bind := some true, accept := some true }), dispatch,
    .feed ServerPort.resp (.bytes (intoBytes "0:ab")), .work (.sockets { Sockets.new with respond := write }), dispatch,
    .close ServerPort.resp, .work (.sockets { Sockets.new with retries := [(0, .all)] }), dispatch]

/-- Where it ends. -/
def replied (write : Write) : Outpost (component TCPServer.variant true) :=
  (outpostMachine _).played serverStart (replying write)

theorem responses_delivered_one :
    (replied (.blocks 0)).returned = some (.result .finished) ∧ Delivers (replied (.blocks 0)) := by
  have run := Machine.run_played (outpostMachine (component TCPServer.variant true))
    (Machine.permits_any serverStart (replying (.blocks 0))) (by decide +kernel)
  exact ⟨by decide +kernel, responses_delivered TCPServer.variant true _ _ _ _ _ run (by decide +kernel)⟩

/-- After one of two bytes the socket would block, and later the server writes both. -/
theorem response_garbled :
    ¬ ∀ (variant : Variant) (overflowChecks : Bool) (inCapacity : ServerPort → Nat) (outCapacity : OutPort → Nat)
      (now : Instant) (outpost : Outpost (component variant overflowChecks)) (trace : List Unit),
      (outpostMachine (component variant overflowChecks)).Run anyMove
        (.start SocketServer.new inCapacity outCapacity now) trace outpost → Delivers outpost := by
  intro delivers
  have run := Machine.run_played (outpostMachine (component TCPServer.variant true))
    (Machine.permits_any serverStart (replying (.blocks 1))) (by decide +kernel)
  have garbled : (SocketServerComponent.connections (replied (.blocks 1)).state).lookup 0 =
      some ⟨0, intoBytes "aab"⟩ := by decide +kernel
  have even := (delivers TCPServer.variant true _ _ _ _ _ run).connected 0 _ garbled
  revert even
  decide +kernel

end SocketServer

end Flowd
