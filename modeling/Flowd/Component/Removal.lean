import Flowd.Component.Fetching

namespace Flowd

/-! What IMAPFetchIdle removes from the mailbox, it has delivered. -/

open Transition

namespace IMAPFetchIdle

def FetchResult.fetched : FetchResult → List Fetched
  | .messages received => received
  | _ => []

/-- What has been fetched and not been pushed. -/
def undelivered (component : IMAPFetchIdleComponent) : List Fetched :=
  component.pendingMessages ++ component.results.flatMap FetchResult.fetched

/-- One of the messages has been made of the mail. -/
def Made (messages : List Fetched) (mail : Mail) : Prop :=
  ∃ fetched ∈ messages, fetched.uid = mail.uid ∧ fetched.body = mail.body

/-- What has been pushed are the messages delivered, and every mail removed is among them. -/
structure Safe {engine : Engine} (outpost : Outpost (component engine)) : Prop where
  pushed : (outpost.ports.outs OutPort.out).sent =
    (IMAPFetchIdleComponent.delivered outpost.state).map fun fetched => .bytes fetched.output
  removed : ∀ mail ∈ IMAPFetchIdleComponent.removed outpost.state,
    Made (IMAPFetchIdleComponent.delivered outpost.state) mail

/-- A fetch flags no mail whose body it does not return. -/
def flagsFetched (server : Server) (mailbox : Mailbox) : Bool :=
  match server.searched, server.fetched, server.stored with
  | .ok _, .ok _, .ok _ => mailbox.unseen.all server.answered.contains
  | .ok _, .ok _, .error (_, flagged) => mailbox.unseen.all fun uid => !flagged.contains uid
  | _, _, _ => true

/-- A command that fetches with `delete` flags what it returns, and one that closes the session
finds everything delivered. -/
def carefulCommand (engine : Engine) (server : Server) (component : IMAPFetchIdleComponent) : FetchCommand → Bool
  | .connect config =>
      match loginAndConnect engine config.url server with
      | .ok () => !config.delete || flagsFetched server component.mailbox
      | .error _ => true
  | .poll =>
      match component.session, server.wait with
      | true, .ok .mailboxChanged => !component.fetchConfig.delete || flagsFetched server component.mailbox
      | _, _ => true
  | .shutdown => !component.session || (undelivered component).isEmpty

/-- No mail arrives flagged, and the commands are careful. -/
def carefulMove (engine : Engine) (component : IMAPFetchIdleComponent) : Move → Bool
  | .arrive _ _ deleted => !deleted
  | .fetchWorkerLoop server => component.commands.head?.all (carefulCommand engine server component)
  | .drop => true

def carefulAffair {engine : Engine} (state : IMAPFetchIdleComponent) : Affair (component engine) → Bool
  | .work move => carefulMove engine state move
  | _ => true

def Careful {engine : Engine} (outpost : Outpost (component engine)) (affair : Affair (component engine)) : Prop :=
  carefulAffair outpost.state affair = true

/-- Every mail that is flagged has been fetched, and every mail removed has been delivered. -/
structure Accounted (component : IMAPFetchIdleComponent) (call : Call ConfPort OutPort) : Prop where
  pushed : (call.outs .out).sent = component.delivered.map fun fetched => .bytes fetched.output
  removed : ∀ mail ∈ component.removed, Made component.delivered mail
  flagged : ∀ mail ∈ component.mailbox.mails, mail.deleted = true →
    Made (component.delivered ++ undelivered component) mail

/-- Messages move on towards OUT, and none gets lost. -/
structure Passes (component : IMAPFetchIdleComponent) (call : Call ConfPort OutPort) (next : IMAPFetchIdleComponent)
    (later : Call ConfPort OutPort) : Prop where
  mailbox : next.mailbox = component.mailbox
  removed : next.removed = component.removed
  delivered : component.delivered ⊆ next.delivered
  total : next.delivered ++ undelivered next = component.delivered ++ undelivered component
  pushed : (call.outs .out).sent = component.delivered.map (fun fetched => .bytes fetched.output) →
    (later.outs .out).sent = next.delivered.map fun fetched => .bytes fetched.output

section
variable {component next last : IMAPFetchIdleComponent} {call later final : Call ConfPort OutPort}
variable {mail : Mail} {messages more : List Fetched}

theorem Made.mono (made : Made messages mail) (subset : messages ⊆ more) : Made more mail := by
  obtain ⟨fetched, member, same⟩ := made
  exact ⟨fetched, subset member, same⟩

theorem Passes.of_same (mailbox : next.mailbox = component.mailbox) (removed : next.removed = component.removed)
    (delivered : next.delivered = component.delivered) (undelivered_eq : undelivered next = undelivered component)
    (outs : later.outs = call.outs) : Passes component call next later :=
  ⟨mailbox, removed, by rw [delivered]; exact List.Subset.refl _, by rw [delivered, undelivered_eq],
    fun pushed => by rw [outs, delivered, pushed]⟩

theorem Passes.trans (first : Passes component call next later) (second : Passes next later last final) :
    Passes component call last final where
  mailbox := second.mailbox.trans first.mailbox
  removed := second.removed.trans first.removed
  delivered := List.Subset.trans first.delivered second.delivered
  total := second.total.trans first.total
  pushed pushed := second.pushed (first.pushed pushed)

theorem Accounted.pass (accounted : Accounted component call) (passes : Passes component call next later) :
    Accounted next later where
  pushed := passes.pushed accounted.pushed
  removed mail member := (accounted.removed mail (passes.removed ▸ member)).mono passes.delivered
  flagged mail member deleted := by
    rw [passes.total]
    exact accounted.flagged mail (passes.mailbox ▸ member) deleted

theorem receive_passes (results : List FetchResult) (component : IMAPFetchIdleComponent) (call : Call ConfPort OutPort) :
    Passes { component with results } call (receive results component call).1 (receive results component call).2.1 := by
  induction results generalizing component call with
  | nil => exact .of_same rfl rfl rfl rfl rfl
  | cons result rest ih =>
      cases result with
      | connected =>
          have onwards : Passes { component with results := .connected :: rest } call
              { component with results := rest, state := .active, pollInflight := false } call.worked :=
            .of_same rfl rfl rfl rfl rfl
          exact onwards.trans (ih { component with state := .active, pollInflight := false } _)
      | messages received =>
          have queued : Passes { component with results := .messages received :: rest } call
              { component with
                results := rest, pendingMessages := component.pendingMessages ++ received, pollInflight := false }
              call.worked :=
            .of_same rfl rfl rfl (by simp [undelivered, FetchResult.fetched]) rfl
          exact queued.trans
            (ih { component with pendingMessages := component.pendingMessages ++ received, pollInflight := false } _)
      | idleTimeout =>
          have onwards : Passes { component with results := .idleTimeout :: rest } call
              { component with results := rest, pollInflight := false } call.worked := .of_same rfl rfl rfl rfl rfl
          exact onwards.trans (ih { component with pollInflight := false } _)
      | error err => exact .of_same rfl rfl rfl rfl rfl
      | stopped => exact .of_same rfl rfl rfl rfl rfl

theorem deliver_passes (budget : Nat) (pending : List Fetched) (component : IMAPFetchIdleComponent)
    (call : Call ConfPort OutPort) (waiting : component.pendingMessages = pending) :
    Passes component call (deliver budget pending component call).2.1 (deliver budget pending component call).2.2 := by
  have still : Passes component call component call := .of_same rfl rfl rfl rfl rfl
  induction pending generalizing budget component call with
  | nil => cases budget <;> exact .of_same rfl rfl rfl rfl rfl
  | cons msg rest ih =>
      cases budget with
      | zero => exact .of_same rfl rfl rfl rfl rfl
      | succ budget =>
          unfold deliver
          rcases call.push_cases (.out, .bytes msg.output) with ⟨outs, pushed, sent, _⟩ | ⟨outs, refused, sent, _⟩
          · rw [pushed]
            let onwards : IMAPFetchIdleComponent :=
              { component with pendingMessages := rest, delivered := component.delivered ++ [msg] }
            have step : Passes component call onwards (Call.worked { call with outs }) := by
              refine ⟨rfl, rfl, List.subset_append_left _ _, ?_, fun pushed => ?_⟩
              · simp [onwards, undelivered, waiting]
              · show (outs .out).sent = _
                rw [sent, pushed, addressed_singleton_self, List.map_append]
                rfl
            exact step.trans (ih budget onwards _ rfl (.of_same rfl rfl rfl rfl rfl))
          · rw [refused]
            exact ⟨rfl, rfl, List.Subset.refl _, rfl, fun pushed => (sent .out).trans pushed⟩

theorem send_passes (component : IMAPFetchIdleComponent) (call : Call ConfPort OutPort) (command : FetchCommand) :
    Passes component call (component.send command).1 call := by
  unfold IMAPFetchIdleComponent.send
  split <;> exact .of_same rfl rfl rfl rfl rfl

variable {engine : Engine} {context : NodeContext} {clock : Clock}

theorem configure_passes : Passes component call (configure engine component call context clock).component
    (configure engine component call context clock).call := by
  unfold configure
  rcases call.pop_cases .conf with ⟨_, popped⟩ | ⟨urlVec, _, taken, _, popped, _, _, outs, _⟩
  · rw [popped]
    exact .of_same rfl rfl rfl rfl rfl
  · rw [popped]
    have took : Passes component call component taken := .of_same rfl rfl rfl rfl outs
    dsimp only
    cases urlVec.asText with
    | none => exact took
    | some url =>
        dsimp only
        cases parseFetchConfig engine url with
        | error err => exact took.trans (.of_same rfl rfl rfl rfl rfl)
        | ok fetchConf =>
            have sends := send_passes component taken (.connect fetchConf)
            dsimp only
            generalize component.send (.connect fetchConf) = sent at sends ⊢
            obtain ⟨next, success⟩ := sent
            cases success <;> exact (took.trans sends).trans (.of_same rfl rfl rfl rfl rfl)

theorem poll_passes : Passes component call (poll component call context clock).component
    (poll component call context clock).call := by
  have sends := send_passes component call .poll
  unfold poll
  split
  · exact .of_same rfl rfl rfl rfl rfl
  · generalize component.send .poll = sent at sends ⊢
    obtain ⟨next, success⟩ := sent
    cases success <;> exact sends.trans (.of_same rfl rfl rfl rfl rfl)

theorem proceed_passes : Passes component call (proceed engine component call context clock).component
    (proceed engine component call context clock).call := by
  unfold proceed
  cases component.state with
  | waitingForConfig => exact configure_passes
  | connecting => exact .of_same rfl rfl rfl rfl rfl
  | active => exact poll_passes
  | finished => exact .of_same rfl rfl rfl rfl rfl

theorem attend_passes : Passes component call (attend engine component call context clock).component
    (attend engine component call context clock).call := by
  have receives := receive_passes component.results component call
  unfold attend
  generalize receive component.results component call = received at receives ⊢
  obtain ⟨next, later, goesOn⟩ := received
  cases goesOn with
  | false => exact receives.trans (.of_same rfl rfl rfl rfl rfl)
  | true =>
      have delivers := deliver_passes context.remainingBudget next.pendingMessages next later rfl
      dsimp only
      rw [if_pos rfl]
      exact (receives.trans delivers).trans proceed_passes

theorem process_passes : Passes component call (process engine component call context clock).component
    (process engine component call context clock).call := by
  have heard := Call.Heard.of_poll call.begin
  unfold process
  generalize call.begin.poll FbpMessage.textOrUtf8 = polled at heard ⊢
  obtain ⟨listened, stop⟩ := polled
  have listening : Passes component call component listened := .of_same rfl rfl rfl rfl heard.outs
  cases stop with
  | true => exact listening.trans ((send_passes component listened .shutdown).trans (.of_same rfl rfl rfl rfl rfl))
  | false => exact listening.trans attend_passes

/-- A fetch flags nothing, or what it returns. -/
theorem fetch_flags {server : Server} {mailbox : Mailbox} {delete : Bool}
    (careful : (!delete || flagsFetched server mailbox) = true) :
    ∃ uids, Mailbox.Descends mailbox (fetchUnseenMessagesConfigurable server mailbox delete).1 uids ∧
      (uids = [] ∨ ∃ messages, (fetchUnseenMessagesConfigurable server mailbox delete).2 = .ok messages ∧
        ∀ mail ∈ mailbox.mails, mail.uid ∈ uids → mail ∈ messages) := by
  unfold fetchUnseenMessagesConfigurable
  cases searched : server.searched with
  | error err => exact ⟨[], .refl _, .inl rfl⟩
  | ok searches =>
      dsimp only
      split
      · exact ⟨[], .refl _, .inl rfl⟩
      · have seen := Mailbox.Descends.see mailbox (mailbox.unseen.filter server.answered.contains)
        cases fetched : server.fetched with
        | error err => exact ⟨[], seen, .inl rfl⟩
        | ok fetches =>
            cases delete with
            | false => exact ⟨[], seen, .inl rfl⟩
            | true =>
                simp only [Bool.not_true, Bool.false_or, flagsFetched, searched, fetched] at careful
                cases stored : server.stored with
                | ok stores =>
                    simp only [stored, List.all_eq_true] at careful
                    refine ⟨_, seen.flag _, .inr ⟨_, rfl, fun mail member unseen => ?_⟩⟩
                    exact List.mem_filter.mpr ⟨member, by simpa using ⟨unseen, by simpa using careful _ unseen⟩⟩
                | error failure =>
                    obtain ⟨err, flagged⟩ := failure
                    simp only [stored, List.all_eq_true] at careful
                    have none : mailbox.unseen.filter flagged.contains = [] := by
                      rw [List.filter_eq_nil_iff]
                      exact fun uid unseen => by simpa using careful uid unseen
                    exact ⟨_, seen.flag _, .inl none⟩

/-- What the worker fetches and flags is under way. -/
theorem Accounted.fetch {uids : List Nat} (accounted : Accounted component call) (delivered : next.delivered = component.delivered)
    (removed : next.removed = component.removed) (descends : Mailbox.Descends component.mailbox next.mailbox uids)
    (kept : undelivered component ⊆ undelivered next)
    (new : ∀ mail ∈ component.mailbox.mails, mail.uid ∈ uids → Made (undelivered next) mail) : Accounted next call where
  pushed := by rw [delivered, accounted.pushed]
  removed := by
    rw [delivered, removed]
    exact accounted.removed
  flagged mail member deleted := by
    obtain ⟨old, inside, uid, body, before⟩ := descends mail member
    have made : Made (next.delivered ++ undelivered next) old := by
      rcases before deleted with already | now
      · refine (accounted.flagged old inside already).mono ?_
        rw [delivered]
        exact List.append_subset.mpr
          ⟨List.subset_append_left _ _, List.Subset.trans kept (List.subset_append_right _ _)⟩
      · exact (new old inside (uid ▸ now)).mono (List.subset_append_right _ _)
    obtain ⟨fetched, found, sameUid, sameBody⟩ := made
    exact ⟨fetched, found, sameUid.trans uid, sameBody.trans body⟩

theorem undelivered_report (component : IMAPFetchIdleComponent) (result : FetchResult) :
    undelivered (component.report result) = undelivered component ++ result.fetched := by
  simp [undelivered, IMAPFetchIdleComponent.report]

theorem Accounted.report (accounted : Accounted component call) (result : FetchResult) :
    Accounted (component.report result) call :=
  accounted.fetch rfl rfl (.refl _) (by rw [undelivered_report]; exact List.subset_append_left _ _)
    fun _ _ none => by cases none

theorem made_of_mem (config : FetchConfig) {mails : List Mail} (member : mail ∈ mails) :
    Made (mails.map (fetchedOf config)) mail := ⟨_, List.mem_map_of_mem member, rfl, rfl⟩

variable {server : Server} {config : FetchConfig}

theorem Accounted.workerConnect (accounted : Accounted component call)
    (careful : carefulCommand engine server component (.connect config) = true) :
    Accounted (component.workerConnect engine server config) call := by
  unfold carefulCommand at careful
  unfold IMAPFetchIdleComponent.workerConnect
  cases login : loginAndConnect engine config.url server with
  | error err => exact accounted.report _
  | ok connects =>
      dsimp only at careful
      rw [login] at careful
      obtain ⟨uids, descends, flags⟩ := fetch_flags careful
      dsimp only
      generalize fetchUnseenMessagesConfigurable server component.mailbox config.delete = fetch at descends flags ⊢
      obtain ⟨mailbox, result⟩ := fetch
      let connected : IMAPFetchIdleComponent := { component with fetchConfig := config, session := true, mailbox }
      have descends : Mailbox.Descends component.mailbox connected.mailbox uids := descends
      have none : uids = [] → Accounted connected call := by
        rintro rfl
        exact accounted.fetch rfl rfl descends (List.Subset.refl _) fun _ _ none => by cases none
      cases result with
      | error err =>
          rcases flags with unflagged | ⟨_, failed, _⟩
          · exact (none unflagged).report _
          · cases failed
      | ok messages =>
          cases messages with
          | nil =>
              rcases flags with unflagged | ⟨_, same, returned⟩
              · exact (none unflagged).report _
              · cases same
                have nothing : Accounted connected call :=
                  accounted.fetch rfl rfl descends (List.Subset.refl _)
                    fun mail member flagged => by cases returned mail member flagged
                exact nothing.report _
          | cons mail mails =>
              let received : FetchResult := .messages ((mail :: mails).map (fetchedOf config))
              have reported : Accounted (connected.report received) call := by
                refine accounted.fetch rfl rfl descends ?_ fun other member flagged => ?_
                · rw [undelivered_report]
                  exact List.subset_append_left _ _
                · rcases flags with rfl | ⟨_, same, returned⟩
                  · cases flagged
                  · cases same
                    rw [undelivered_report]
                    exact (made_of_mem config (returned other member flagged)).mono (List.subset_append_right _ _)
              exact reported.report _

theorem Accounted.workerPoll (engine : Engine) (accounted : Accounted component call)
    (careful : carefulCommand engine server component .poll = true) : Accounted (component.workerPoll server) call := by
  unfold carefulCommand at careful
  unfold IMAPFetchIdleComponent.workerPoll
  cases session : component.session with
  | false => exact accounted.report _
  | true =>
      rw [if_pos rfl]
      cases wait : server.wait with
      | error err => exact accounted.report _
      | ok outcome =>
          cases outcome with
          | timedOut => exact accounted.report _
          | mailboxChanged =>
              dsimp only at careful
              rw [session, wait] at careful
              obtain ⟨uids, descends, flags⟩ := fetch_flags careful
              dsimp only
              generalize fetchUnseenMessagesConfigurable server component.mailbox component.fetchConfig.delete =
                fetch at descends flags ⊢
              obtain ⟨mailbox, result⟩ := fetch
              cases result with
              | error err =>
                  rcases flags with rfl | ⟨_, failed, _⟩
                  · have polled : Accounted { component with mailbox } call :=
                      accounted.fetch rfl rfl descends (List.Subset.refl _) fun _ _ none => by cases none
                    rw [session] at polled
                    exact polled.report _
                  · cases failed
              | ok messages =>
                  refine accounted.fetch rfl rfl descends ?_ fun mail member flagged => ?_
                  · rw [undelivered_report]
                    exact List.subset_append_left _ _
                  · rcases flags with rfl | ⟨_, same, returned⟩
                    · cases flagged
                    · cases same
                      rw [undelivered_report]
                      exact (made_of_mem _ (returned mail member flagged)).mono (List.subset_append_right _ _)

/-- What is expunged when nothing is under way has been delivered. -/
theorem Accounted.close (accounted : Accounted component call) (all : undelivered component = []) :
    Accounted (component.close server) call where
  pushed := accounted.pushed
  removed mail member := by
    rcases List.mem_append.mp member with before | now
    · exact accounted.removed mail before
    · obtain ⟨inside, deleted⟩ := Mailbox.mem_removed now
      have made := accounted.flagged mail inside deleted
      rwa [all, List.append_nil] at made
  flagged mail member := accounted.flagged mail (List.mem_of_mem_filter member)

theorem Accounted.workerShutdown (engine : Engine) (accounted : Accounted component call)
    (careful : carefulCommand engine server component .shutdown = true) :
    Accounted (component.workerShutdown server) call := by
  have closed : Accounted (if component.session then component.close server else component) call := by
    unfold carefulCommand at careful
    cases session : component.session with
    | false => exact accounted
    | true =>
        dsimp only at careful
        rw [session, Bool.not_true, Bool.false_or, List.isEmpty_iff] at careful
        exact accounted.close careful
  have reported := closed.report .stopped
  exact ⟨reported.pushed, reported.removed, reported.flagged⟩

theorem Accounted.work {move : Move} (accounted : Accounted component call) (careful : carefulMove engine component move = true)
    (worked : work engine component move = some next) : Accounted next call := by
  cases move with
  | arrive body seen deleted =>
      cases worked
      refine ⟨accounted.pushed, accounted.removed, fun mail member flagged => ?_⟩
      have unflagged : deleted = false := by simpa [carefulMove] using careful
      rcases Mailbox.mem_arrive member with old | new
      · exact accounted.flagged mail old flagged
      · rw [new, unflagged] at flagged
        cases flagged
  | drop =>
      cases worked
      exact accounted.pass ((send_passes component call .shutdown).trans (.of_same rfl rfl rfl rfl rfl))
  | fetchWorkerLoop server =>
      have worked : component.fetchWorkerLoop engine server = some next := worked
      unfold IMAPFetchIdleComponent.fetchWorkerLoop at worked
      unfold carefulMove at careful
      cases alive : component.alive with
      | false =>
          rw [alive] at worked
          cases worked
      | true =>
          cases commands : component.commands with
          | nil =>
              rw [alive, commands] at worked
              cases worked
          | cons command rest =>
              rw [alive, commands] at worked
              rw [commands] at careful
              have taken : Accounted { component with commands := rest } call :=
                ⟨accounted.pushed, accounted.removed, accounted.flagged⟩
              cases command with
              | connect config =>
                  cases worked
                  rw [alive] at taken
                  exact taken.workerConnect careful
              | poll =>
                  cases worked
                  rw [alive] at taken
                  exact taken.workerPoll engine careful
              | shutdown =>
                  cases worked
                  rw [alive] at taken
                  exact taken.workerShutdown engine careful

end

/-- In every run in which the worker is careful, the session removes only what has been delivered. -/
theorem removes_delivered (engine : Engine) (mailbox : Mailbox) (inCapacity : ConfPort → Nat)
    (outCapacity : OutPort → Nat) (now : Instant) (outpost : Outpost (component engine)) (trace : List Unit)
    (unflagged : ∀ mail ∈ mailbox.mails, mail.deleted = false)
    (run : (outpostMachine (component engine)).Run Careful (.start (new mailbox) inCapacity outCapacity now) trace outpost) :
    Safe outpost := by
  have accounted : Accounted outpost.state outpost.ports := by
    refine Machine.Run.invariant (fun outpost : Outpost (component engine) => Accounted outpost.state outpost.ports) run ?_ ?_
    · refine ⟨rfl, fun mail member => (by cases member), fun mail member deleted => ?_⟩
      have clean := unflagged mail member
      rw [deleted] at clean
      cases clean
    · intro outpost affair next events careful accounted step
      rcases Outpost.step_cases step with ⟨between, _⟩ | ⟨context, schedule, later, _, rfl, _⟩
      · have beside : Accounted outpost.state next.ports :=
          ⟨(between.ports.sent _).trans accounted.pushed, accounted.removed, accounted.flagged⟩
        rcases between.worked with same | ⟨move, rfl, worked⟩
        · rw [same]
          exact beside
        · exact beside.work careful worked
      · have scheduled : Accounted outpost.state (outpost.ports.scheduled schedule) :=
          ⟨accounted.pushed, accounted.removed, accounted.flagged⟩
        exact scheduled.pass process_passes
  exact ⟨accounted.pushed, accounted.removed⟩

/-- Any URL asks for a mailbox whose mails are to be deleted. -/
def deleting : Engine where
  parse _ := .ok
    { hostStr := some "example.com"
      port := none
      path := "/INBOX"
      queryPairs := [("delete", "true")]
      scheme := "imaps"
      password := some "secret" }

/-- All commands succeed, and the first mail is fetched. -/
def answering : Server := ⟨.ok (), .ok .timedOut, .ok (), [1], .ok (), .ok (), none⟩

def oneMail : Mailbox := Mailbox.empty.arrive [65] false false

def fetchStart : Outpost (component deleting) := .start (new oneMail) (fun _ => 1) (fun _ => 1) 0

def dispatched : Affair (component deleting) :=
  .process { NodeContext.new "imap" .normal 0 0 with remainingBudget := 10 } (fun _ => []) []

def looped : Affair (component deleting) := .work (.fetchWorkerLoop answering)

/-- The mail is fetched after the connect; some calls later the component is stopped. -/
def stopped (calls : List (Affair (component deleting))) : List (Affair (component deleting)) :=
  [.feed ConfPort.conf (.text "imaps://example.com/INBOX"), dispatched, looped] ++ calls ++
    [.signal (.text "stop"), dispatched, looped]

/-- Where it ends. -/
def shut (calls : List (Affair (component deleting))) : Outpost (component deleting) :=
  (outpostMachine _).played fetchStart (stopped calls)

instance decidableCareful {engine : Engine} (outpost : Outpost (component engine)) : DecidablePred (Careful outpost) :=
  fun affair => inferInstanceAs (Decidable (carefulAffair outpost.state affair = true))

theorem removes_delivered_one :
    (IMAPFetchIdleComponent.removed (shut [dispatched, looped]).state).length = 1 ∧ Safe (shut [dispatched, looped]) := by
  have run := Machine.run_played (outpostMachine (component deleting))
    (by decide +kernel : (outpostMachine (component deleting)).Permits Careful fetchStart (stopped [dispatched, looped]))
    (by decide +kernel)
  exact ⟨by decide +kernel, removes_delivered deleting oneMail _ _ _ _ _ (by decide +kernel) run⟩

/-- The stop comes before the call that would have received the mail. -/
theorem removed_undelivered :
    ¬ ∀ (engine : Engine) (mailbox : Mailbox) (inCapacity : ConfPort → Nat) (outCapacity : OutPort → Nat) (now : Instant)
      (outpost : Outpost (component engine)) (trace : List Unit), (∀ mail ∈ mailbox.mails, mail.deleted = false) →
      (outpostMachine (component engine)).Run anyMove (.start (new mailbox) inCapacity outCapacity now) trace outpost →
      Safe outpost := by
  intro safe
  have run := Machine.run_played (outpostMachine (component deleting)) (Machine.permits_any fetchStart (stopped []))
    (by decide +kernel)
  have lost : ∃ mail ∈ IMAPFetchIdleComponent.removed (shut []).state,
      IMAPFetchIdleComponent.delivered (shut []).state = [] := by decide +kernel
  obtain ⟨mail, gone, none⟩ := lost
  have made : Made (IMAPFetchIdleComponent.delivered (shut []).state) mail :=
    (safe deleting oneMail _ _ _ _ _ (by decide +kernel) run).removed mail gone
  obtain ⟨fetched, member, _⟩ := made
  rw [none] at member
  cases member

end IMAPFetchIdle

end Flowd
