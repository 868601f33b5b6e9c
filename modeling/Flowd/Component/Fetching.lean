import Flowd.Component.Clients
import Flowd.Component.Droppers
import Flowd.Lib.Mailbox

namespace Flowd

/-! IMAPFetchIdle: its worker fetches the mails of a mailbox and may flag them, and removes what
is flagged when it shuts down. -/

open Transition

namespace IMAPFetchIdle

inductive ConfPort where
  | conf
deriving DecidableEq, Repr

structure ImapUrl extends Url where
  scheme : String
  password : Option String

/-- `Url::parse` -/
structure Engine where
  parse : String → Except String ImapUrl

inductive FetchState where
  | waitingForConfig
  | connecting
  | active
  | finished
deriving DecidableEq, Repr

structure FetchConfig where
  url : String
  delete : Bool
  includeFull : Bool
  includeUid : Bool
deriving DecidableEq, Repr

inductive FetchCommand where
  | connect (config : FetchConfig)
  | poll
  | shutdown
deriving DecidableEq, Repr

/-- What is made of a mail.  The mail itself is for the history only. -/
structure Fetched where
  uid : Nat
  body : List UInt8
  output : List UInt8
deriving DecidableEq, Repr

inductive FetchResult where
  | connected
  | messages (messages : List Fetched)
  | idleTimeout
  | error (err : String)
  | stopped
deriving DecidableEq, Repr

inductive WaitOutcome where
  | mailboxChanged
  | timedOut
deriving DecidableEq, Repr

/-- How the IMAP commands of the worker end.  FETCH returns the bodies of some UIDs; a STORE or
an EXPUNGE that fails may have been carried out for some UIDs. -/
structure Server where
  login : Except String Unit
  wait : Except String WaitOutcome
  searched : Except String Unit
  answered : List Nat
  fetched : Except String Unit
  stored : Except (String × List Nat) Unit
  expunged : Option (List Nat)

/-- The last five fields are the worker's and the mailbox; `delivered` are the messages that
have been pushed, and `removed` the mails that the session has removed. -/
structure IMAPFetchIdleComponent where
  state : FetchState
  pendingMessages : List Fetched
  pollInflight : Bool
  commands : List FetchCommand
  results : List FetchResult
  delivered : List Fetched
  alive : Bool
  session : Bool
  fetchConfig : FetchConfig
  mailbox : Mailbox
  removed : List Mail

def new (mailbox : Mailbox) : IMAPFetchIdleComponent where
  state := .waitingForConfig
  pendingMessages := []
  pollInflight := false
  commands := []
  results := []
  delivered := []
  alive := true
  session := false
  fetchConfig := ⟨"", false, true, false⟩
  mailbox
  removed := []

/-- A token of `retrieve`, with what is included so far. -/
def readToken (included : Bool × Bool) (token : String) : Except String (Bool × Bool) :=
  if token = "full" then .ok (true, included.2)
  else if token = "uid" then .ok (included.1, true)
  else if token = "" then .ok included
  else .error ("invalid retrieve token '" ++ token ++ "', expected full and/or uid")

/-- A query parameter. -/
def readParam (config : FetchConfig) (pair : String × String) : Except String FetchConfig := do
  if eqIgnoreAsciiCase pair.1 "delete" then
    match pair.2 with
    | "true" => return { config with delete := true }
    | "false" => return { config with delete := false }
    | value => .error ("invalid delete value '" ++ value ++ "', expected true or false")
  else if eqIgnoreAsciiCase pair.1 "retrieve" then
    let tokens := (split pair.2 ',').map fun token => toAsciiLowercase (trim token)
    let (includeFull, includeUid) ← tokens.foldlM readToken (false, false)
    if includeFull || includeUid then return { config with includeFull, includeUid }
    else .error "retrieve must include at least one of full or uid"
  else return config

def parseFetchConfig (engine : Engine) (confUrl : String) : Except String FetchConfig := do
  let parsed ← engine.parse confUrl
  parsed.queryPairs.foldlM readParam ⟨confUrl, false, true, false⟩

def encodeFetchOutput (uid : String) (body : List UInt8) (includeFull includeUid : Bool) : List UInt8 :=
  match includeFull, includeUid with
  | true, false => body
  | false, true => intoBytes uid
  | true, true =>
      intoBytes ("\x7b\"body\":[" ++ ",".intercalate (body.map fun byte => toString byte.toNat) ++ "],\"uid\":\"" ++ uid ++
        "\"\x7d")
  | false, false => []

/-- `login_and_connect` up to the connection, which the server decides on. -/
def loginAndConnect (engine : Engine) (url : String) (server : Server) : Except String Unit := do
  let urlParsed ← engine.parse url
  if urlParsed.scheme ≠ "imaps" then .error "only imaps:// protocol is supported"
  else if urlParsed.password.isNone then .error "no password given in connection URL"
  else if urlParsed.hostStr.isNone then .error "no host given in connection URL"
  else if urlParsed.path = "" ∨ urlParsed.path = "/" then .error "no mailbox given in connection URL path"
  else server.login

/-- The mailbox after the fetch, and what is returned. -/
def fetchUnseenMessagesConfigurable (server : Server) (mailbox : Mailbox) (delete : Bool) :
    Mailbox × Except String (List Mail) :=
  match server.searched with
  | .error err => (mailbox, .error err)
  | .ok () =>
      if mailbox.unseen.isEmpty then (mailbox, .ok [])
      else
        let answered := mailbox.unseen.filter server.answered.contains
        let seen := mailbox.see answered
        match server.fetched with
        | .error err => (seen, .error err)
        | .ok () =>
            let out := mailbox.fetch answered
            if delete then
              match server.stored with
              | .ok () => (seen.flag mailbox.unseen, .ok out)
              | .error (err, flagged) => (seen.flag (mailbox.unseen.filter flagged.contains), .error err)
            else (seen, .ok out)

def fetchedOf (config : FetchConfig) (mail : Mail) : Fetched :=
  ⟨mail.uid, mail.body, encodeFetchOutput (toString mail.uid) mail.body config.includeFull config.includeUid⟩

namespace IMAPFetchIdleComponent

variable (engine : Engine) (component : IMAPFetchIdleComponent) (server : Server)

/-- `result_tx.send`, which succeeds as long as the component is there. -/
def report (result : FetchResult) : IMAPFetchIdleComponent :=
  { component with results := component.results ++ [result] }

def workerConnect (config : FetchConfig) : IMAPFetchIdleComponent :=
  match loginAndConnect engine config.url server with
  | .error err => component.report (.error err)
  | .ok () =>
      let fetch := fetchUnseenMessagesConfigurable server component.mailbox config.delete
      let connected := { component with fetchConfig := config, session := true, mailbox := fetch.1 }
      match fetch.2 with
      | .ok (mail :: mails) =>
          (connected.report (.messages ((mail :: mails).map (fetchedOf config)))).report .connected
      -- an error of the first fetch is as good as no message
      | .ok [] | .error _ => connected.report .connected

def workerPoll : IMAPFetchIdleComponent :=
  if component.session then
    match server.wait with
    | .ok .mailboxChanged =>
        let fetch := fetchUnseenMessagesConfigurable server component.mailbox component.fetchConfig.delete
        let polled := { component with mailbox := fetch.1 }
        match fetch.2 with
        | .ok messages => polled.report (.messages (messages.map (fetchedOf component.fetchConfig)))
        | .error err => polled.report (.error err)
    | .ok .timedOut => component.report .idleTimeout
    | .error err => component.report (.error err)
  else component.report (.error "poll requested before connection")

/-- `close` expunges whatever is flagged. -/
def close : IMAPFetchIdleComponent :=
  { component with
    session := false
    mailbox := component.mailbox.expunge server.expunged
    removed := component.removed ++ component.mailbox.removed server.expunged }

def workerShutdown : IMAPFetchIdleComponent :=
  let closed := if component.session then component.close server else component
  { closed.report .stopped with alive := false }

/-- A round of `fetch_worker_loop`. -/
def fetchWorkerLoop : Option IMAPFetchIdleComponent :=
  match component.alive, component.commands with
  | true, cmd :: rest =>
      let component := { component with commands := rest }
      match cmd with
      | .connect config => some (component.workerConnect engine server config)
      | .poll => some (component.workerPoll server)
      | .shutdown => some (component.workerShutdown server)
  | _, _ => none

/-- `cmd_tx.send`, with whether it succeeds. -/
def send (command : FetchCommand) : IMAPFetchIdleComponent × Bool :=
  if component.alive then ({ component with commands := component.commands ++ [command] }, true) else (component, false)

end IMAPFetchIdleComponent

/-- A mail arrives, the worker carries out its next command, or the component is dropped: then
there are no calls any more. -/
inductive Move where
  | arrive (body : List UInt8) (seen deleted : Bool)
  | fetchWorkerLoop (server : Server)
  | drop

def work (engine : Engine) (component : IMAPFetchIdleComponent) : Move → Option IMAPFetchIdleComponent
  | .arrive body seen deleted => some { component with mailbox := component.mailbox.arrive body seen deleted }
  | .fetchWorkerLoop server => component.fetchWorkerLoop engine server
  | .drop => some { (component.send .shutdown).1 with state := .finished }

abbrev FetchTurn := Turn IMAPFetchIdleComponent ConfPort OutPort Unit

/-- The loop over the results; whether the component goes on. -/
def receive : List FetchResult → IMAPFetchIdleComponent → Call ConfPort OutPort →
    IMAPFetchIdleComponent × Call ConfPort OutPort × Bool
  | [], component, call => ({ component with results := [] }, call, true)
  | .connected :: rest, component, call =>
      receive rest { component with state := .active, pollInflight := false } call.worked
  | .messages messages :: rest, component, call =>
      receive rest
        { component with pendingMessages := component.pendingMessages ++ messages, pollInflight := false } call.worked
  | .idleTimeout :: rest, component, call => receive rest { component with pollInflight := false } call.worked
  | .stopped :: rest, component, call => ({ component with results := rest, state := .finished }, call, false)
  | .error _ :: rest, component, call => ({ component with results := rest, state := .finished }, call, false)

/-- `while context.remaining_budget > 0` -/
def deliver : Nat → List Fetched → IMAPFetchIdleComponent → Call ConfPort OutPort →
    Nat × IMAPFetchIdleComponent × Call ConfPort OutPort
  | budget + 1, msg :: rest, component, call =>
      match call.push (.out, .bytes msg.output) with
      | (call, true) =>
          deliver budget rest
            { component with pendingMessages := rest, delivered := component.delivered ++ [msg] } call.worked
      | (call, false) => (budget + 1, component, call)
  | budget, _, component, call => (budget, component, call)

section
variable (engine : Engine) (component : IMAPFetchIdleComponent) (call : Call ConfPort OutPort)
variable (context : NodeContext) (clock : Clock)

def finish : FetchTurn :=
  ⟨{ component with state := .finished }, call, context, clock, [], .result .finished⟩

def configure : FetchTurn :=
  match call.pop .conf with
  | none => ⟨component, call, context, clock, [], call.didWork⟩
  | some (urlVec, call) =>
      match urlVec.asText with
      | none => ⟨component, call, context, clock, [], .panicked⟩
      | some url =>
          match parseFetchConfig engine url with
          | .error _ => finish component call context clock
          | .ok fetchConf =>
              match component.send (.connect fetchConf) with
              | (component, false) => finish component call context clock
              | (component, true) =>
                  ⟨{ component with state := .connecting, pollInflight := true }, call.worked, context, clock, [],
                    call.worked.didWork⟩

def poll : FetchTurn :=
  if component.pollInflight then ⟨component, call, context, clock, [], call.didWork⟩
  else
    match component.send .poll with
    | (component, false) => finish component call context clock
    | (component, true) =>
        ⟨{ component with pollInflight := true }, call.worked, context, clock, [], call.worked.didWork⟩

/-- `match self.state` -/
def proceed : FetchTurn :=
  match component.state with
  | .waitingForConfig => configure engine component call context clock
  | .connecting => ⟨component, call, context, clock, [], call.didWork⟩
  | .active => poll component call context clock
  | .finished => finish component call context clock

/-- What follows the look at the signals. -/
def attend : FetchTurn :=
  let (component, call, goesOn) := receive component.results component call
  if goesOn then
    let (budget, component, call) := deliver context.remainingBudget component.pendingMessages component call
    proceed engine component call { context with remainingBudget := budget } clock
  else finish component call context clock

def process : FetchTurn :=
  let (call, stop) := call.begin.poll FbpMessage.textOrUtf8
  if stop then finish (component.send .shutdown).1 call context clock
  else attend engine component call context clock

end

def component (engine : Engine) : IoComponent where
  In := ConfPort
  Out := OutPort
  State := IMAPFetchIdleComponent
  Event := Unit
  new := IMAPFetchIdle.new .empty
  process := IMAPFetchIdle.process engine
  Move := IMAPFetchIdle.Move
  work := IMAPFetchIdle.work engine

end IMAPFetchIdle

end Flowd
