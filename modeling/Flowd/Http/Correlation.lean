import Flowd.Http.Moves

namespace Flowd.Http

/-! Which response goes to whom: an account of the numbers that requests get. -/

/-- Who has sent what, in the order it came; `begun` has the client, the number and the response. -/
structure Account where
  senders : List (Nat × Nat)
  pushed : List Nat
  popped : List FbpMessage
  begun : List (Nat × Nat × HttpResponse)
  nextRequestId : Nat
  pending : List (Nat × Nat)
  available : HashMap Nat HttpResponse
  waiting : List Nat

namespace Account

variable {account : Account} {requestId clientId : Nat} {response : HttpResponse} {packet : FbpMessage}

def numbers (account : Account) : List Nat := account.senders.map Prod.fst

/-- Where a number can be until its response has been written: pending, waiting for a packet, available or begun. -/
def places (account : Account) : List Nat :=
  account.pending.map Prod.fst ++ account.waiting ++ account.available.keys ++ account.begun.map (·.2.1)

/-- The response waits to be written, or is being written or was. -/
def Gives (account : Account) (requestId : Nat) (response : HttpResponse) : Prop :=
  account.available.lookup requestId = some response ∨ ∃ clientId, (clientId, requestId, response) ∈ account.begun

/-- The response is the one for the packet that answers the request, or an error for a request that was not
pushed. -/
def Answers (account : Account) (requestId : Nat) (response : HttpResponse) : Prop :=
  (∃ (index : Nat) (packet : FbpMessage), account.pushed[index]? = some requestId ∧
    account.popped[index]? = some packet ∧ response = okResponse packet) ∨
  requestId ∉ account.pushed ∧ (response.statusCode = 400 ∨ response.statusCode = 404 ∨ response.statusCode = 505)

/-- Each number is given once, and has one place. -/
structure Kept (account : Account) : Prop where
  once : account.numbers.Nodup
  fresh : ∀ requestId ∈ account.numbers, requestId < account.nextRequestId
  apart : account.places.Nodup
  sent : ∀ requestId ∈ account.places, requestId ∈ account.numbers
  pushedOnce : account.pushed.Nodup
  waits : ∃ done, account.pushed = done ++ account.waiting ∧ done.length = account.popped.length
  answers : ∀ requestId response, account.Gives requestId response → account.Answers requestId response
  answered : ∀ (index requestId : Nat) (packet : FbpMessage), account.pushed[index]? = some requestId →
    account.popped[index]? = some packet → account.Gives requestId (okResponse packet)

/-! What the server does to the account. -/

/-- A request of the connection is pending under a new number. -/
def request (account : Account) (clientId : Nat) : Account :=
  { account with
    senders := account.senders ++ [(account.nextRequestId, clientId)]
    nextRequestId := account.nextRequestId + 1
    pending := account.pending ++ [(account.nextRequestId, clientId)] }

def refuse (account : Account) (clientId : Nat) (response : HttpResponse) : Account :=
  { account with
    senders := account.senders ++ [(account.nextRequestId, clientId)]
    nextRequestId := account.nextRequestId + 1
    available := AList.insert account.nextRequestId response account.available }

def begin (account : Account) (clientId requestId : Nat) (response : HttpResponse) : Account :=
  { account with
    begun := account.begun ++ [(clientId, requestId, response)]
    available := AList.erase requestId account.available }

def unroute (account : Account) (requestId : Nat) (response : HttpResponse) (rest : List (Nat × Nat)) : Account :=
  { account with pending := rest, available := AList.insert requestId response account.available }

def push (account : Account) (requestId : Nat) (rest : List (Nat × Nat)) : Account :=
  { account with
    pending := rest
    pushed := account.pushed ++ [requestId]
    waiting := account.waiting ++ [requestId] }

def pop (account : Account) (requestId : Nat) (rest : List Nat) (packet : FbpMessage) : Account :=
  { account with
    popped := account.popped ++ [packet]
    waiting := rest
    available := AList.insert requestId (okResponse packet) account.available }

/-! Where the numbers go. -/

theorem keys_insert_perm {available : HashMap Nat HttpResponse} (absent : requestId ∉ available) (response : HttpResponse) :
    (AList.insert requestId response available).keys.Perm (requestId :: available.keys) := by
  rw [AList.keys_insert, List.erase_of_not_mem absent]

theorem count_places (account : Account) (requestId : Nat) :
    account.places.count requestId = (account.pending.map Prod.fst).count requestId +
      account.waiting.count requestId + account.available.keys.count requestId +
      (account.begun.map (·.2.1)).count requestId := by
  simp only [places, List.count_append]

theorem places_request (account : Account) (clientId : Nat) :
    (account.request clientId).places.Perm (account.nextRequestId :: account.places) := by
  rw [List.perm_iff_count]
  intro requestId
  rw [List.count_cons, count_places, count_places]
  simp only [request, List.map_append, List.map_cons, List.map_nil, List.count_append, List.count_singleton]
  omega

theorem places_refuse (absent : account.nextRequestId ∉ account.available) (clientId : Nat) (response : HttpResponse) :
    (account.refuse clientId response).places.Perm (account.nextRequestId :: account.places) := by
  rw [List.perm_iff_count]
  intro requestId
  have moved := (keys_insert_perm absent response).count_eq requestId
  rw [List.count_cons] at moved ⊢
  rw [count_places, count_places]
  simp only [refuse]
  omega

theorem places_begin (available : requestId ∈ account.available) (clientId : Nat) (response : HttpResponse) :
    (account.begin clientId requestId response).places.Perm account.places := by
  rw [List.perm_iff_count]
  intro other
  have moved := (List.perm_cons_erase (AList.mem_keys.mp available)).count_eq other
  rw [List.count_cons, ← AList.keys_erase] at moved
  rw [count_places, count_places]
  simp only [begin, List.map_append, List.map_cons, List.map_nil, List.count_append, List.count_singleton]
  omega

theorem places_unroute {rest : List (Nat × Nat)} (pending : account.pending = (requestId, clientId) :: rest)
    (absent : requestId ∉ account.available) (response : HttpResponse) :
    (account.unroute requestId response rest).places.Perm account.places := by
  rw [List.perm_iff_count]
  intro other
  have moved := (keys_insert_perm absent response).count_eq other
  rw [List.count_cons] at moved
  rw [count_places, count_places]
  simp only [unroute, pending, List.map_cons, List.count_cons]
  omega

theorem places_push {rest : List (Nat × Nat)} (pending : account.pending = (requestId, clientId) :: rest) :
    (account.push requestId rest).places.Perm account.places := by
  rw [List.perm_iff_count]
  intro other
  rw [count_places, count_places]
  simp only [push, pending, List.map_cons, List.count_append, List.count_cons, List.count_nil]
  omega

theorem places_pop {rest : List Nat} (waiting : account.waiting = requestId :: rest)
    (absent : requestId ∉ account.available) (packet : FbpMessage) :
    (account.pop requestId rest packet).places.Perm account.places := by
  rw [List.perm_iff_count]
  intro other
  have moved := (keys_insert_perm absent (okResponse packet)).count_eq other
  rw [List.count_cons] at moved
  rw [count_places, count_places]
  simp only [pop, waiting, List.count_cons]
  omega

theorem Kept.one_place (kept : account.Kept) (requestId : Nat) :
    (account.pending.map Prod.fst).count requestId + account.waiting.count requestId +
      account.available.keys.count requestId + (account.begun.map (·.2.1)).count requestId ≤ 1 := by
  rw [← count_places]
  exact List.nodup_iff_count_le_one.mp kept.apart requestId

theorem Kept.new (kept : account.Kept) : account.nextRequestId ∉ account.places :=
  fun member => Nat.lt_irrefl _ (kept.fresh _ (kept.sent _ member))

theorem mem_places_of_gives (gives : account.Gives requestId response) :
    requestId ∈ account.available.keys ∨ requestId ∈ account.begun.map (·.2.1) := by
  rcases gives with found | ⟨clientId, begun⟩
  · exact .inl (AList.mem_keys.mp (AList.lookup_isSome.mp (by rw [found]; rfl)))
  · exact .inr (List.mem_map_of_mem begun)

/-- A pushed number waits for its packet or has its response. -/
theorem Kept.pushed_home (kept : account.Kept) (pushed : requestId ∈ account.pushed) :
    requestId ∈ account.waiting ∨ ∃ response, account.Gives requestId response := by
  obtain ⟨done, split, same⟩ := kept.waits
  rw [split, List.mem_append] at pushed
  refine pushed.symm.imp_right fun member => ?_
  obtain ⟨index, bound, at_⟩ := List.mem_iff_getElem.mp member
  have popped : index < account.popped.length := same ▸ bound
  refine ⟨_, kept.answered index requestId account.popped[index] ?_ (List.getElem?_eq_getElem popped)⟩
  rw [split, List.getElem?_append_left bound, List.getElem?_eq_getElem bound, at_]

theorem Kept.pushed_places (kept : account.Kept) (pushed : requestId ∈ account.pushed) :
    requestId ∈ account.waiting ∨ requestId ∈ account.available.keys ∨ requestId ∈ account.begun.map (·.2.1) := by
  rcases kept.pushed_home pushed with waits | ⟨response, gives⟩
  · exact .inl waits
  · exact .inr (mem_places_of_gives gives)

/-- What is pending has not been pushed. -/
theorem Kept.pending_unpushed (kept : account.Kept) (pending : requestId ∈ account.pending.map Prod.fst) :
    requestId ∉ account.pushed := by
  intro pushed
  have one := kept.one_place requestId
  have first := List.one_le_count_iff.mpr pending
  rcases kept.pushed_places pushed with waits | available | begun
  · have second := List.one_le_count_iff.mpr waits
    omega
  · have second := List.one_le_count_iff.mpr available
    omega
  · have second := List.one_le_count_iff.mpr begun
    omega

theorem Kept.new_unpushed (kept : account.Kept) : account.nextRequestId ∉ account.pushed := by
  intro pushed
  apply kept.new
  rcases kept.pushed_places pushed with waits | available | begun
  · simp [places, waits]
  · simp [places, available]
  · simp only [places, List.mem_append]
    exact .inr begun

/-! Each keeps the account. -/

theorem Kept.once_new (kept : account.Kept) (clientId : Nat) :
    ((account.senders ++ [(account.nextRequestId, clientId)]).map Prod.fst).Nodup := by
  have unused : account.nextRequestId ∉ account.senders.map Prod.fst :=
    fun member => Nat.lt_irrefl _ (kept.fresh _ member)
  rw [List.map_append]
  refine List.nodup_append.mpr ⟨kept.once, List.nodup_singleton _, ?_⟩
  rintro other first _ second rfl
  have same : other = account.nextRequestId := List.mem_singleton.mp second
  exact unused (same ▸ first)

theorem Kept.fresh_new (kept : account.Kept) (clientId : Nat) :
    ∀ requestId ∈ (account.senders ++ [(account.nextRequestId, clientId)]).map Prod.fst,
      requestId < account.nextRequestId + 1 := by
  intro requestId member
  rw [List.map_append, List.mem_append] at member
  rcases member with earlier | last
  · exact Nat.lt_succ_of_lt (kept.fresh requestId earlier)
  · cases List.mem_singleton.mp last
    exact Nat.lt_succ_self _

/-- The places of an account with a new number. -/
theorem Kept.sent_new (kept : account.Kept) {places : List Nat} (clientId : Nat)
    (perm : places.Perm (account.nextRequestId :: account.places)) :
    places.Nodup ∧ ∀ requestId ∈ places, requestId ∈ (account.senders ++ [(account.nextRequestId, clientId)]).map Prod.fst := by
  refine ⟨perm.nodup_iff.mpr (List.nodup_cons.mpr ⟨kept.new, kept.apart⟩), ?_⟩
  intro requestId member
  rw [List.map_append, List.mem_append]
  rcases List.mem_cons.mp (perm.mem_iff.mp member) with rfl | earlier
  · exact .inr (List.mem_singleton_self _)
  · exact .inl (kept.sent requestId earlier)

theorem Kept.request (kept : account.Kept) (clientId : Nat) : (account.request clientId).Kept where
  once := kept.once_new clientId
  fresh := kept.fresh_new clientId
  apart := (kept.sent_new clientId (places_request account clientId)).1
  sent := (kept.sent_new clientId (places_request account clientId)).2
  pushedOnce := kept.pushedOnce
  waits := kept.waits
  answers := kept.answers
  answered := kept.answered

theorem Kept.refuse (kept : account.Kept) (clientId : Nat) (error : response.statusCode = 400 ∨ response.statusCode = 505) :
    (account.refuse clientId response).Kept := by
  have absent : account.nextRequestId ∉ account.available := by
    intro member
    apply kept.new
    simp [places, AList.mem_keys.mp member]
  have gives : ∀ requestId other, account.Gives requestId other → (account.refuse clientId response).Gives requestId other := by
    intro requestId other
    refine Or.imp_left fun found => ?_
    have different : requestId ≠ account.nextRequestId := by
      rintro rfl
      exact absent (AList.lookup_isSome.mp (by rw [found]; rfl))
    exact (AList.lookup_insert_ne different).trans found
  exact
    { once := kept.once_new clientId
      fresh := kept.fresh_new clientId
      apart := (kept.sent_new clientId (places_refuse absent clientId response)).1
      sent := (kept.sent_new clientId (places_refuse absent clientId response)).2
      pushedOnce := kept.pushedOnce
      waits := kept.waits
      answers := by
        rintro requestId other (found | begun)
        · change (AList.insert account.nextRequestId response account.available).lookup requestId = some other at found
          rw [HashMap.lookup_insert_ite] at found
          split at found
          · next same =>
              cases found
              subst same
              exact .inr ⟨kept.new_unpushed, error.imp_right .inr⟩
          · exact kept.answers requestId other (.inl found)
        · exact kept.answers requestId other (.inr begun)
      answered := fun index requestId packet pushed popped => gives _ _ (kept.answered index requestId packet pushed popped) }

theorem gives_begin (found : account.available.lookup requestId = some response) (clientId other : Nat)
    (answer : HttpResponse) : (account.begin clientId requestId response).Gives other answer ↔ account.Gives other answer := by
  simp only [Gives, begin, HashMap.lookup_erase_ite, List.mem_append, List.mem_singleton, Prod.mk.injEq]
  by_cases same : other = requestId
  · subst same
    simp only [↓reduceIte, reduceCtorEq, false_or, found, Option.some.injEq]
    constructor
    · rintro ⟨client, begun | ⟨-, -, rfl⟩⟩
      · exact .inr ⟨client, begun⟩
      · exact .inl rfl
    · rintro (rfl | ⟨client, begun⟩)
      · exact ⟨clientId, .inr ⟨rfl, trivial, rfl⟩⟩
      · exact ⟨client, .inl begun⟩
  · simp [same]

theorem Kept.begin (kept : account.Kept) (clientId : Nat)
    (found : account.available.lookup requestId = some response) :
    (account.begin clientId requestId response).Kept where
  once := kept.once
  fresh := kept.fresh
  apart := (places_begin (AList.lookup_isSome.mp (by rw [found]; rfl)) clientId response).nodup_iff.mpr kept.apart
  sent := fun other member => kept.sent other
    ((places_begin (AList.lookup_isSome.mp (by rw [found]; rfl)) clientId response).mem_iff.mp member)
  pushedOnce := kept.pushedOnce
  waits := kept.waits
  answers := fun other answer gives => kept.answers other answer ((gives_begin found ..).mp gives)
  answered := fun index other packet pushed popped =>
    (gives_begin found ..).mpr (kept.answered index other packet pushed popped)

/-- What the head of the pending requests cannot be yet. -/
theorem Kept.pending_head (kept : account.Kept) {rest : List (Nat × Nat)}
    (pending : account.pending = (requestId, clientId) :: rest) :
    requestId ∉ account.available ∧ ∀ response, ¬ account.Gives requestId response := by
  have one := kept.one_place requestId
  simp only [pending, List.map_cons, List.count_cons_self] at one
  have absent : requestId ∉ account.available.keys := by
    intro member
    have second := List.one_le_count_iff.mpr member
    omega
  refine ⟨fun member => absent (AList.mem_keys.mp member), ?_⟩
  intro response gives
  rcases mem_places_of_gives gives with available | begun
  · exact absent available
  · have second := List.one_le_count_iff.mpr begun
    omega

theorem Kept.unroute (kept : account.Kept) {rest : List (Nat × Nat)}
    (pending : account.pending = (requestId, clientId) :: rest) (error : response.statusCode = 404) :
    (account.unroute requestId response rest).Kept := by
  obtain ⟨absent, nothing⟩ := kept.pending_head pending
  have perm := places_unroute pending absent response
  have unpushed : requestId ∉ account.pushed := kept.pending_unpushed (by simp [pending])
  exact
    { once := kept.once
      fresh := kept.fresh
      apart := perm.nodup_iff.mpr kept.apart
      sent := fun other member => kept.sent other (perm.mem_iff.mp member)
      pushedOnce := kept.pushedOnce
      waits := kept.waits
      answers := by
        rintro other answer (found | begun)
        · change (AList.insert requestId response account.available).lookup other = some answer at found
          rw [HashMap.lookup_insert_ite] at found
          split at found
          · next same =>
              cases found
              subst same
              exact .inr ⟨unpushed, .inr (.inl error)⟩
          · exact kept.answers other answer (.inl found)
        · exact kept.answers other answer (.inr begun)
      answered := fun index other packet pushed popped =>
        (kept.answered index other packet pushed popped).imp_left fun found => by
          have different : other ≠ requestId := by
            rintro rfl
            exact nothing _ (.inl found)
          exact (AList.lookup_insert_ne different).trans found }

theorem Kept.push (kept : account.Kept) {rest : List (Nat × Nat)}
    (pending : account.pending = (requestId, clientId) :: rest) : (account.push requestId rest).Kept := by
  obtain ⟨absent, nothing⟩ := kept.pending_head pending
  have perm := places_push pending
  have unpushed : requestId ∉ account.pushed := kept.pending_unpushed (by simp [pending])
  obtain ⟨done, split, same⟩ := kept.waits
  exact
    { once := kept.once
      fresh := kept.fresh
      apart := perm.nodup_iff.mpr kept.apart
      sent := fun other member => kept.sent other (perm.mem_iff.mp member)
      pushedOnce := List.nodup_append.mpr ⟨kept.pushedOnce, List.nodup_singleton _, fun left first right second equal =>
        unpushed ((equal.trans (List.mem_singleton.mp second)) ▸ first)⟩
      waits := ⟨done, by simp [Account.push, split], same⟩
      answers := by
        intro other answer gives
        have different : other ≠ requestId := by
          rintro rfl
          exact nothing answer gives
        rcases kept.answers other answer gives with ⟨index, packet, pushed, popped, rfl⟩ | ⟨unpushed, error⟩
        · refine .inl ⟨index, packet, ?_, popped, rfl⟩
          rw [Account.push, List.getElem?_append_left (List.getElem?_eq_some_iff.mp pushed).1]
          exact pushed
        · refine .inr ⟨?_, error⟩
          simp [Account.push, unpushed, different]
      answered := by
        intro index other packet pushed popped
        have bound : index < account.pushed.length := by
          have inside := (List.getElem?_eq_some_iff.mp popped).1
          rw [split, List.length_append]
          change index < account.popped.length at inside
          omega
        rw [Account.push, List.getElem?_append_left bound] at pushed
        exact kept.answered index other packet pushed popped }

theorem Kept.pop (kept : account.Kept) {rest : List Nat} (waiting : account.waiting = requestId :: rest)
    (packet : FbpMessage) : (account.pop requestId rest packet).Kept := by
  have one := kept.one_place requestId
  simp only [waiting, List.count_cons_self] at one
  have absent : requestId ∉ account.available := by
    intro member
    have second := List.one_le_count_iff.mpr (AList.mem_keys.mp member)
    omega
  have perm := places_pop waiting absent packet
  obtain ⟨done, split, same⟩ := kept.waits
  rw [waiting] at split
  have at_ : account.pushed[account.popped.length]? = some requestId := by
    rw [split, ← same]
    simp
  exact
    { once := kept.once
      fresh := kept.fresh
      apart := perm.nodup_iff.mpr kept.apart
      sent := fun other member => kept.sent other (perm.mem_iff.mp member)
      pushedOnce := kept.pushedOnce
      waits := ⟨done ++ [requestId], by simpa [Account.pop] using split, by simp [Account.pop, same]⟩
      answers := by
        have later : ∀ other answer, account.Answers other answer →
            (account.pop requestId rest packet).Answers other answer := by
          rintro other answer (⟨index, known, pushed, popped, rfl⟩ | unpushed)
          · refine .inl ⟨index, known, pushed, ?_, rfl⟩
            rw [Account.pop, List.getElem?_append_left (List.getElem?_eq_some_iff.mp popped).1]
            exact popped
          · exact .inr unpushed
        rintro other answer (found | begun)
        · change (AList.insert requestId (okResponse packet) account.available).lookup other = some answer at found
          rw [HashMap.lookup_insert_ite] at found
          split at found
          · next equal =>
              cases found
              subst equal
              exact .inl ⟨account.popped.length, packet, at_, by simp [Account.pop], rfl⟩
          · exact later other answer (kept.answers other answer (.inl found))
        · exact later other answer (kept.answers other answer (.inr begun))
      answered := by
        intro index other known pushed popped
        by_cases inside : index < account.popped.length
        · rw [Account.pop, List.getElem?_append_left inside] at popped
          refine (kept.answered index other known pushed popped).imp_left fun found => ?_
          have different : other ≠ requestId := by
            rintro rfl
            exact absent (AList.lookup_isSome.mp (by rw [found]; rfl))
          exact (AList.lookup_insert_ne different).trans found
        · have last : index = account.popped.length := by
            have bound := (List.getElem?_eq_some_iff.mp popped).1
            simp only [Account.pop, List.length_append, List.length_singleton] at bound
            omega
          subst last
          have equal : requestId = other := Option.some.inj (at_.symm.trans pushed)
          subst equal
          have known_eq : packet = known := by simpa [Account.pop] using popped
          subst known_eq
          exact .inl (AList.lookup_insert _) }

end Account

/-! The account of the server. -/

namespace HttpEvent

/-- The number that a request or a malformed request gets, and whose it is. -/
def sender : HttpEvent → Option (Nat × Nat)
  | .requested requestId clientId _ | .refused requestId clientId _ => some (requestId, clientId)
  | _ => none

def pushedNumber : HttpEvent → Option Nat
  | .pushed requestId _ _ => some requestId
  | _ => none

def poppedPacket : HttpEvent → Option FbpMessage
  | .popped packet => some packet
  | _ => none

def begunResponse : HttpEvent → Option (Nat × Nat × HttpResponse)
  | .began clientId requestId response => some (clientId, requestId, response)
  | _ => none

/-- What of a response goes out. -/
def writtenBytes (requestId : Nat) : HttpEvent → Option (List UInt8)
  | .wrote _ other bytes => if other = requestId then some bytes else none
  | _ => none

end HttpEvent

def HttpServer.account (server : HttpServer) (log : List HttpEvent) : Account where
  senders := log.filterMap HttpEvent.sender
  pushed := log.filterMap HttpEvent.pushedNumber
  popped := log.filterMap HttpEvent.poppedPacket
  begun := log.filterMap HttpEvent.begunResponse
  nextRequestId := server.nextRequestId
  pending := server.pendingRequests.map fun entry => (entry.1, entry.2.1)
  available := server.pendingResponses
  waiting := server.responseWaitQueue

/-- The bytes that have gone out of the response to the request. -/
def written (requestId : Nat) (log : List HttpEvent) : List UInt8 :=
  (log.filterMap (HttpEvent.writtenBytes requestId)).flatten

theorem written_append (requestId : Nat) (log events : List HttpEvent) :
    written requestId (log ++ events) = written requestId log ++ written requestId events := by
  rw [written, List.filterMap_append, List.flatten_append, ← written, ← written]

theorem written_wrote (requestId clientId : Nat) (bytes : List UInt8) (log : List HttpEvent) :
    written requestId (log ++ [.wrote clientId requestId bytes]) = written requestId log ++ bytes := by
  rw [written_append]
  simp [written, HttpEvent.writtenBytes]

theorem written_apart {requestId : Nat} {event : HttpEvent} (apart : event.writtenBytes requestId = none)
    (log : List HttpEvent) : written requestId (log ++ [event]) = written requestId log := by
  rw [written_append]
  simp [written, apart]

/-- A connection that waits does so for a request of its own, since it was accepted, and one that writes has
got as far with a response of its own. -/
def ConnectionState.Fits (log : List HttpEvent) (key : Nat) : ConnectionState → Prop
  | .writingResponse requestId .pending _ => (requestId, key) ∈ (since key log).filterMap HttpEvent.sender
  | .writingResponse requestId (.writing response sent) _ =>
      (key, requestId, response) ∈ (since key log).filterMap HttpEvent.begunResponse ∧
        sent = (written requestId log).length
  | .writingResponse _ .complete _ => False
  | _ => True

/-- The event was due: a response begins on the connection that has sent the request, and goes on there. -/
def HttpEvent.Due (front : List HttpEvent) : HttpEvent → Prop
  | .began clientId requestId _ => (requestId, clientId) ∈ (since clientId front).filterMap HttpEvent.sender
  | .wrote clientId requestId bytes => ∃ response date,
      (clientId, requestId, response) ∈ (since clientId front).filterMap HttpEvent.begunResponse ∧
        bytes <+: (formatResponse date response).drop (written requestId front).length
  | _ => True

/-- The account is kept, every pending request is one of its connection's, and all has been due. -/
structure Correlated (server : HttpServer) (log : List HttpEvent) : Prop where
  kept : (server.account log).Kept
  pending : ∀ entry ∈ server.pendingRequests, (entry.1, entry.2.1) ∈ (since entry.2.1 log).filterMap HttpEvent.sender
  fits : ∀ key state, server.connections key = some state → state.Fits log key
  due : ∀ front event back, log = front ++ event :: back → event.Due front

variable {casing : Casing} {server next : HttpServer} {log events : List HttpEvent} {key : Nat} {state : ConnectionState}

theorem mem_since_later {α : Type} {what : HttpEvent → Option α} {value : α} (member : value ∈ (since key log).filterMap what)
    (quiet : ∀ event ∈ events, event.accepts key = false) : value ∈ (since key (log ++ events)).filterMap what := by
  rw [since_append log quiet, List.filterMap_append]
  exact List.mem_append_left _ member

theorem mem_of_mem_since {α : Type} {what : HttpEvent → Option α} {value : α}
    (member : value ∈ (since key log).filterMap what) : value ∈ log.filterMap what :=
  ((List.rtakeWhile_suffix ..).sublist.filterMap what).subset member

theorem ConnectionState.Fits.later (fits : state.Fits log key) (quiet : ∀ event ∈ events, event.accepts key = false)
    (unwritten : ∀ requestId response sent clientId, state = .writingResponse requestId (.writing response sent) clientId →
      written requestId events = []) : state.Fits (log ++ events) key := by
  cases state with
  | writingResponse requestId responseState clientId =>
      cases responseState with
      | pending => exact mem_since_later fits quiet
      | writing response sent =>
          refine ⟨mem_since_later fits.1 quiet, ?_⟩
          rw [written_append, unwritten _ _ _ _ rfl, List.append_nil]
          exact fits.2
      | complete => exact fits
  | _ => trivial

/-- The connections of `next` are those of `server`, or fit what has happened. -/
def Follows (server next : HttpServer) (log : List HttpEvent) : Prop :=
  ∀ key state, next.connections key = some state → server.connections key = some state ∨ state.Fits log key

theorem follows_set (server : HttpServer) {after : ConnectionState} (fits : after.Fits log key) :
    Follows server (server.setConnection key after) log := by
  intro other state there
  rw [connections_setConnection] at there
  by_cases same : other = key
  · subst same
    rw [Function.update_self, Option.some.injEq] at there
    subst there
    exact .inr fits
  · rw [Function.update_of_ne same] at there
    exact .inl there

theorem follows_change {after : ConnectionState} (fits : after.Fits log key) :
    Follows server (Sweep.applyChange server (key, after)) log := by
  unfold Sweep.applyChange
  split
  · exact follows_set server fits
  · exact fun _ _ found => .inl found

/-- Events that accept nobody and write nothing. -/
structure Still (events : List HttpEvent) : Prop where
  quiet : ∀ clientId, ∀ event ∈ events, event.accepts clientId = false
  unwritten : ∀ requestId, written requestId events = []

theorem due_append (due : ∀ front event back, log = front ++ event :: back → event.Due front)
    (now : ∀ front event back, events = front ++ event :: back → event.Due (log ++ front)) :
    ∀ front event back, log ++ events = front ++ event :: back → event.Due front := by
  intro front event back split
  rcases Transition.append_eq_append_cons split with ⟨middle, earlier, -⟩ | ⟨middle, later, rfl⟩
  · exact due front event middle earlier
  · exact now middle event back later

theorem due_single {event : HttpEvent} (due : event.Due log) :
    ∀ front other back, [event] = front ++ other :: back → other.Due (log ++ front) := by
  intro front other back split
  cases front with
  | nil =>
      cases split
      simpa using due
  | cons head tail => simp at split

theorem due_pair {event second : HttpEvent} (first : event.Due log) (due : second.Due (log ++ [event])) :
    ∀ front other back, [event, second] = front ++ other :: back → other.Due (log ++ front) := by
  intro front other back split
  cases front with
  | nil =>
      cases split
      simpa using first
  | cons head tail =>
      cases tail with
      | nil =>
          cases split
          exact due
      | cons _ rest => simp at split

/-- Nothing goes out of a response that has not begun. -/
theorem Correlated.unwritten {requestId : Nat} (correlated : Correlated server log)
    (absent : requestId ∉ (log.filterMap HttpEvent.begunResponse).map (·.2.1)) : written requestId log = [] := by
  have nothing : log.filterMap (HttpEvent.writtenBytes requestId) = [] := by
    rw [List.filterMap_eq_nil_iff]
    intro event member
    obtain ⟨front, back, split⟩ := List.append_of_mem member
    cases event with
    | wrote clientId other bytes =>
        obtain ⟨response, date, begun, -⟩ := correlated.due front _ back split
        refine if_neg ?_
        rintro rfl
        apply absent
        rw [split, List.filterMap_append, List.map_append]
        exact List.mem_append_left _ (List.mem_map_of_mem (mem_of_mem_since begun))
    | _ => rfl
  rw [written, nothing, List.flatten_nil]

/-- A move that accepts nobody and writes nothing. -/
theorem Correlated.step (correlated : Correlated server log) (kept : (next.account (log ++ events)).Kept)
    (still : Still events) (follows : Follows server next (log ++ events))
    (pending : ∀ entry ∈ next.pendingRequests, entry ∈ server.pendingRequests ∨
      (entry.1, entry.2.1) ∈ (since entry.2.1 (log ++ events)).filterMap HttpEvent.sender)
    (due : ∀ front event back, events = front ++ event :: back → event.Due (log ++ front)) :
    Correlated next (log ++ events) := by
  refine ⟨kept, ?_, ?_, due_append correlated.due due⟩
  · intro entry member
    rcases pending entry member with earlier | new
    · exact mem_since_later (correlated.pending entry earlier) (still.quiet _)
    · exact new
  · intro key state found
    rcases follows key state found with earlier | fits
    · exact (correlated.fits key state earlier).later (still.quiet key) fun requestId _ _ _ _ => still.unwritten requestId
    · exact fits

/-- Events that the account does not count. -/
structure Uncounted (events : List HttpEvent) : Prop where
  sender : events.filterMap HttpEvent.sender = []
  pushed : events.filterMap HttpEvent.pushedNumber = []
  popped : events.filterMap HttpEvent.poppedPacket = []
  begun : events.filterMap HttpEvent.begunResponse = []

theorem kept_uncounted (kept : (server.account log).Kept) (uncounted : Uncounted events)
    (pending : next.pendingRequests = server.pendingRequests) (count : next.nextRequestId = server.nextRequestId)
    (responses : next.pendingResponses = server.pendingResponses)
    (waiting : next.responseWaitQueue = server.responseWaitQueue) : (next.account (log ++ events)).Kept := by
  have same : next.account (log ++ events) = server.account log := by
    simp only [HttpServer.account, pending, count, responses, waiting, List.filterMap_append, uncounted.sender,
      uncounted.pushed, uncounted.popped, uncounted.begun, List.append_nil]
  exact same ▸ kept

/-- A move of one connection that leaves the account alone and writes nothing. -/
theorem Correlated.set (correlated : Correlated server log) (key : Nat) (after : ConnectionState)
    (uncounted : Uncounted events) (still : Still events) (fits : after.Fits (log ++ events) key)
    (due : ∀ front event back, events = front ++ event :: back → event.Due (log ++ front)) :
    Correlated (server.setConnection key after) (log ++ events) := by
  refine correlated.step ?_ still (follows_set server fits) (fun _ member => .inl member) due
  exact kept_uncounted correlated.kept uncounted rfl rfl rfl rfl

/-- A new client has sent nothing yet, and nobody waits under its number. -/
theorem Correlated.accepts (correlated : Correlated server log) (free : server.nextClientId ∉ server.clients) :
    Correlated { server.setConnection server.nextClientId (.readingRequest .start) with
      nextClientId := (server.nextClientId + 1) % 2 ^ 32 } (log ++ [.accepted server.nextClientId]) := by
  have quiet : ∀ key, key ≠ server.nextClientId → ∀ event ∈ [HttpEvent.accepted server.nextClientId],
      event.accepts key = false := by
    intro key different event member
    cases List.mem_singleton.mp member
    simp [HttpEvent.accepts, different.symm]
  refine ⟨?_, ?_, ?_, due_append correlated.due (due_single trivial)⟩
  · exact kept_uncounted correlated.kept ⟨rfl, rfl, rfl, rfl⟩ rfl rfl rfl rfl
  · intro entry member
    apply mem_since_later (correlated.pending entry member)
    apply quiet
    intro same
    exact free (same ▸ List.mem_map_of_mem member)
  · intro key state found
    change Function.update server.connections server.nextClientId _ key = some state at found
    by_cases same : key = server.nextClientId
    · subst same
      rw [Function.update_self, Option.some.injEq] at found
      subst found
      trivial
    · rw [Function.update_of_ne same] at found
      exact (correlated.fits key state found).later (quiet key same) fun _ _ _ _ _ => rfl

/-- A piece of a response that goes out follows what has gone out of it before. -/
theorem Correlated.writes {requestId clientId sent : Nat} {response : HttpResponse} {date : HttpDate} {bytes : List UInt8}
    {after : ConnectionState} (correlated : Correlated server log)
    (found : server.connections key = some (.writingResponse requestId (.writing response sent) clientId))
    (onwards : bytes <+: (formatResponse date response).drop sent)
    (fits : (key, requestId, response) ∈ (since key log).filterMap HttpEvent.begunResponse →
      sent = (written requestId log).length → after.Fits (log ++ [.wrote key requestId bytes]) key) :
    Correlated (server.setConnection key after) (log ++ [.wrote key requestId bytes]) := by
  obtain ⟨begun, same⟩ := correlated.fits key _ found
  have quiet : ∀ other, ∀ event ∈ [HttpEvent.wrote key requestId bytes], event.accepts other = false := by
    simp [HttpEvent.accepts]
  refine ⟨?_, ?_, ?_, due_append correlated.due (due_single ⟨response, date, begun, same ▸ onwards⟩)⟩
  · exact kept_uncounted correlated.kept ⟨rfl, rfl, rfl, rfl⟩ rfl rfl rfl rfl
  · exact fun entry member => mem_since_later (correlated.pending entry member) (quiet _)
  · intro other state there
    rw [connections_setConnection] at there
    by_cases own : other = key
    · subst own
      rw [Function.update_self, Option.some.injEq] at there
      exact there ▸ fits begun same
    · rw [Function.update_of_ne own] at there
      refine (correlated.fits other state there).later (quiet other) ?_
      rintro number answer length client rfl
      obtain ⟨theirs, -⟩ := correlated.fits other _ there
      have different : requestId ≠ number := by
        rintro rfl
        have once : ((server.account log).begun.map (·.2.1)).Nodup := (List.nodup_append.mp correlated.kept.apart).2.1
        have equal := List.inj_on_of_nodup_map once (mem_of_mem_since theirs) (mem_of_mem_since begun) rfl
        exact own (congrArg Prod.fst equal)
      simp [written, HttpEvent.writtenBytes, different]

/-- A connection that is removed takes nothing with it: the response it was writing is in no queue any more. -/
theorem account_removeConnection (kept : (server.account log).Kept) (found : server.connections key = some state)
    (removable : state.Removable) (fits : state.Fits log key) :
    (Sweep.removeConnection server key).account log = server.account log := by
  unfold Sweep.removeConnection
  rw [found]
  cases state with
  | writingResponse requestId responseState clientId =>
      cases responseState with
      | pending => exact removable.elim
      | complete => exact fits.elim
      | writing response sent =>
          have begun : requestId ∈ (server.account log).begun.map (·.2.1) :=
            List.mem_map_of_mem (mem_of_mem_since fits.1)
          have one := kept.one_place requestId
          have first := List.one_le_count_iff.mpr begun
          have waits : requestId ∉ server.responseWaitQueue := by
            intro member
            have second := List.one_le_count_iff.mpr member
            change 1 ≤ (server.account log).waiting.count requestId at second
            omega
          have available : requestId ∉ server.pendingResponses.keys := by
            intro member
            have second := List.one_le_count_iff.mpr member
            change 1 ≤ (server.account log).available.keys.count requestId at second
            omega
          have queue : server.responseWaitQueue.filter (· ≠ requestId) = server.responseWaitQueue :=
            List.filter_eq_self.mpr fun other member => by
              simpa using fun same : other = requestId => waits (same ▸ member)
          have responses : AList.erase requestId server.pendingResponses = server.pendingResponses :=
            HashMap.erase_absent available
          simp only [HttpServer.account, queue, responses]
  | _ => rfl

theorem Correlated.awaits (correlated : Correlated server log) {requestId clientId : Nat} {request : HttpRequest}
    {rest : List (Nat × Nat × HttpRequest)} (first : server.pendingRequests = (requestId, clientId, request) :: rest)
    (still : Still events) : (ConnectionState.writingResponse requestId .pending clientId).Fits (log ++ events) clientId := by
  have waits := correlated.pending (requestId, clientId, request) (by rw [first]; exact List.mem_cons_self)
  exact mem_since_later waits (still.quiet clientId)

theorem Correlated.moved (correlated : Correlated server log) (moved : Moved casing server events next)
    (balanced : ((log ++ events).filterMap HttpEvent.poppedPacket).length ≤
      ((log ++ events).filterMap HttpEvent.pushedNumber).length) : Correlated next (log ++ events) := by
  cases moved with
  | configures listenAddr routesConfig =>
      rw [List.append_nil]
      exact { correlated with }
  | delivers resp =>
      rw [List.append_nil]
      exact { correlated with }
  | accepts free => exact correlated.accepts free
  | @waits key reading left bytes state =>
      exact correlated.set key (.readingRequest left) ⟨rfl, rfl, rfl, rfl⟩ ⟨by simp [HttpEvent.accepts], fun _ => rfl⟩
        trivial (due_single trivial)
  | @misses key reading left bytes state =>
      exact correlated.set key (.readingRequest left) ⟨rfl, rfl, rfl, rfl⟩ ⟨by simp [HttpEvent.accepts], fun _ => rfl⟩
        trivial (due_single trivial)
  | @refuses key reading bytes response state parses =>
      have still : Still [.read key bytes, .refused server.nextRequestId key response] :=
        ⟨by simp [HttpEvent.accepts], fun _ => rfl⟩
      refine correlated.step ?_ still (follows_set server ?_) (fun _ member => .inl member) ?_
      · have kept := correlated.kept.refuse key (parses_failed parses)
        simpa [HttpServer.account, Account.refuse, HttpServer.setConnection, List.filterMap_cons, HttpEvent.sender,
          HttpEvent.pushedNumber, HttpEvent.poppedPacket, HttpEvent.begunResponse] using kept
      · change _ ∈ List.filterMap _ _
        rw [since_append log (still.quiet key)]
        simp [List.filterMap_cons, HttpEvent.sender]
      · exact due_pair trivial trivial
  | @requests key reading left bytes request state parses found =>
      have still : Still [.read key bytes, .requested server.nextRequestId key request] :=
        ⟨by simp [HttpEvent.accepts], fun _ => rfl⟩
      refine correlated.step ?_ still (follows_set server trivial) ?_ (due_pair trivial trivial)
      · have kept := correlated.kept.request key
        simpa [HttpServer.account, Account.request, HttpServer.setConnection, List.filterMap_cons, HttpEvent.sender,
          HttpEvent.pushedNumber, HttpEvent.poppedPacket, HttpEvent.begunResponse] using kept
      · intro entry member
        rcases List.mem_append.mp member with earlier | new
        · exact .inl earlier
        · cases List.mem_singleton.mp new
          rw [since_append log (still.quiet key)]
          exact .inr (by simp [List.filterMap_cons, HttpEvent.sender])
  | @begins key requestId clientId response state available =>
      have still : Still [.began key requestId response] := ⟨by simp [HttpEvent.accepts], fun _ => rfl⟩
      refine correlated.step ?_ still (follows_set server ?_) (fun _ member => .inl member)
        (due_single (correlated.fits key _ state))
      · have kept := correlated.kept.begin key available
        simpa [HttpServer.account, Account.begin, HttpServer.setConnection, List.filterMap_cons, HttpEvent.sender,
          HttpEvent.pushedNumber, HttpEvent.poppedPacket, HttpEvent.begunResponse] using kept
      · refine ⟨?_, ?_⟩
        · rw [since_append log (still.quiet key)]
          simp [HttpEvent.begunResponse]
        · have one := correlated.kept.one_place requestId
          have place := AList.mem_keys.mp (AList.lookup_isSome.mp (by rw [available]; rfl))
          have first := List.one_le_count_iff.mpr place
          have unbegun : requestId ∉ (server.account log).begun.map (·.2.1) := by
            intro member
            have second := List.one_le_count_iff.mpr member
            change 1 ≤ (server.account log).available.keys.count requestId at first
            omega
          rw [written_append, correlated.unwritten unbegun]
          rfl
  | writes state onwards =>
      refine correlated.writes state onwards fun begun same => ⟨mem_since_later begun (by simp [HttpEvent.accepts]), ?_⟩
      rw [written_wrote, List.length_append, same]
  | finishes state onwards whole => exact correlated.writes state onwards fun _ _ => trivial
  | reuses state =>
      exact correlated.set _ (.readingRequest .start) ⟨rfl, rfl, rfl, rfl⟩ ⟨by simp, fun _ => rfl⟩ trivial (by simp)
  | expires state => exact correlated.set _ .closed ⟨rfl, rfl, rfl, rfl⟩ ⟨by simp, fun _ => rfl⟩ trivial (by simp)
  | @removes key state found removable =>
      have same : (Sweep.removeConnection server key).account (log ++ []) = server.account log := by
        rw [List.append_nil]
        exact account_removeConnection correlated.kept found removable (correlated.fits key state found)
      refine correlated.step ?_ ⟨by simp, fun _ => rfl⟩ ?_ ?_ (by simp)
      · rw [same]
        exact correlated.kept
      · intro other before there
        rw [connections_removeConnection] at there
        by_cases equal : other = key
        · simp [equal] at there
        · rw [Function.update_of_ne equal] at there
          exact .inl there
      · rw [pendingRequests_removeConnection]
        exact fun _ member => .inl member
  | @unroutes requestId clientId request rest body first =>
      have pending : (server.account log).pending =
          (requestId, clientId) :: rest.map fun entry => (entry.1, entry.2.1) := by simp [HttpServer.account, first]
      have still : Still [.unrouted requestId] := ⟨by simp [HttpEvent.accepts], fun _ => rfl⟩
      refine correlated.step ?_ still (follows_change (correlated.awaits first still)) ?_ (due_single trivial)
      · have error : (notFound body).statusCode = 404 := rfl
        have kept := correlated.kept.unroute pending error
        simpa [applyChange_eq, HttpServer.account, Account.unroute, List.filterMap_cons, HttpEvent.sender,
          HttpEvent.pushedNumber, HttpEvent.poppedPacket, HttpEvent.begunResponse] using kept
      · rw [applyChange_pendingRequests, first]
        exact fun _ member => .inl (List.mem_cons_of_mem _ member)
  | @pushes requestId clientId request rest index packet first =>
      have pending : (server.account log).pending =
          (requestId, clientId) :: rest.map fun entry => (entry.1, entry.2.1) := by simp [HttpServer.account, first]
      have still : Still [.pushed requestId index packet] := ⟨by simp [HttpEvent.accepts], fun _ => rfl⟩
      refine correlated.step ?_ still (follows_change (correlated.awaits first still)) ?_ (due_single trivial)
      · have kept := correlated.kept.push pending
        simpa [applyChange_eq, HttpServer.account, Account.push, List.filterMap_cons, HttpEvent.sender,
          HttpEvent.pushedNumber, HttpEvent.poppedPacket, HttpEvent.begunResponse] using kept
      · rw [applyChange_pendingRequests, first]
        exact fun _ member => .inl (List.mem_cons_of_mem _ member)
  | @loses packet rest first nobody =>
      exfalso
      obtain ⟨done, split, same⟩ := correlated.kept.waits
      have pushed : log.filterMap HttpEvent.pushedNumber = done ++ [] := nobody ▸ split
      change done.length = (log.filterMap HttpEvent.poppedPacket).length at same
      simp only [List.filterMap_append, List.filterMap_cons, HttpEvent.poppedPacket, HttpEvent.pushedNumber,
        List.filterMap_nil, List.length_append, List.length_singleton, pushed, List.length_nil] at balanced
      omega
  | @pops packet rest requestId waiting first next =>
      refine correlated.step ?_ ⟨by simp [HttpEvent.accepts], fun _ => rfl⟩ (fun _ _ found => .inl found)
        (fun _ member => .inl member) (due_single trivial)
      have waits : (server.account log).waiting = requestId :: waiting := next
      have kept := correlated.kept.pop waits packet
      simpa [HttpServer.account, Account.pop, List.filterMap_cons, HttpEvent.sender,
        HttpEvent.pushedNumber, HttpEvent.poppedPacket, HttpEvent.begunResponse] using kept

theorem Correlated.new (req : Nat) : Correlated (.new req) [] := by
  have kept : ((HttpServer.new req).account []).Kept :=
    { once := List.nodup_nil
      fresh := by simp [Account.numbers, HttpServer.account]
      apart := List.nodup_nil
      sent := by simp [Account.places, HttpServer.account, HttpServer.new]
      pushedOnce := List.nodup_nil
      waits := ⟨[], rfl, rfl⟩
      answers := by simp [Account.Gives, HttpServer.account, HttpServer.new]
      answered := by simp [HttpServer.account] }
  exact ⟨kept, by simp [HttpServer.new], by simp [HttpServer.new], by simp⟩

/-- Up to every point of the log no more packets were popped than requests pushed. -/
def Balanced (log : List HttpEvent) : Prop :=
  ∀ earlier, earlier <+: log →
    (earlier.filterMap HttpEvent.poppedPacket).length ≤ (earlier.filterMap HttpEvent.pushedNumber).length

theorem Moves.correlated {first : HttpServer} (moves : Moves casing first log server) (start : Correlated first [])
    (balanced : Balanced log) : Correlated server log := by
  induction moves with
  | nil => exact start
  | snoc _ moved ih =>
      have earlier := ih fun front prefixed => balanced front (prefixed.trans (List.prefix_append ..))
      exact earlier.moved moved (balanced _ (List.prefix_refl _))

end Flowd.Http
