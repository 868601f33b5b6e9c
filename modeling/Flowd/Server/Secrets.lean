import Flowd.Server.Answering
import Flowd.Server.Registry

namespace Flowd.Server

open Stored (Cleared clear_same_iff)

/-! Which graphs a secret opens. -/

/-- The secret that a request carries. -/
def Request.secret : Request → Option String
  | .getruntime secret | .list secret _ | .getstatus secret _ | .persist secret | .getsource secret _
  | .graph secret _ | .traceStart secret _ _ | .traceStop secret _ | .traceClear secret _ | .traceDump secret _
  | .edges secret _ _ | .start secret _ | .stop secret _ | .debug secret _ _ => secret
  | .packet payload => payload.secret
  | .packetsent => none

namespace FlowdServer

variable (server : FlowdServer) (instantiate : String → ProcPorts → Except StartFailure Unit)

/-- The secret is the token of the graph, for more than to read. -/
def Opens (secret name : String) : Prop := server.runtime.secrets.lookup name = some (secret, .readWrite)

/-- The network of the graph runs. -/
def Runs (name : String) : Prop := server.runtime.status.running = true ∧ server.started = some name

def contents (name : String) : Option Stored.Graph := (server.getGraphByName name).map server.objects

/-- What a request does to a graph. -/
inductive Touched (before after : FlowdServer) (name : String) : Prop where
  | contents : after.contents name ≠ before.contents name → Touched before after name
  | registration : after.runtime.graphs.getGraph name ≠ before.runtime.graphs.getGraph name → Touched before after name
  | running : ¬ (after.Runs name ↔ before.Runs name) → Touched before after name
  | packet : before.Runs name → after.inports ≠ before.inports → Touched before after name

/-- There is something in the graph for the edit to change. -/
def Edits (target : GraphRef) (request : Stored.GraphRequest) : Prop :=
  request.Changes (server.objects target) server.runtime.status.running

/-- No network runs, and that of the graph comes to its threads. -/
def ComesUp (target : GraphRef) : Prop :=
  server.runtime.refusesStart = false ∧ (server.objects target).network.ComesToThreads server.components instantiate

/-- There is an inport for the packet, with room. -/
def Delivers (payload : RuntimePacketRequestPayload) : Prop :=
  ∃ text inports ring, payload.payload = some text ∧ server.inports = some inports ∧
    inports.lookup payload.port = some ring ∧ ring.buffer.length < ring.capacity

/-- The graphs that the sections of the handlers get at.  Of a graph:clear, those under other
names than the requested one. -/
def Reaches (name : String) : Section → Prop
  | .edit target request => server.getGraphByName name = some target ∧ server.Edits target request
  | .clear id _ _ _ icon description =>
      server.runtime.status.running = false ∧ name ≠ id ∧
        ((name = server.runtime.graph ∧ server.getGraphByName name ≠ none) ∨
          (server.runtime.graphs.getGraph name = some server.graph ∧
            ¬ Cleared (server.objects server.graph) id description icon) ∨
          (server.runtime.graphs.getGraph name = none ∧ (server.objects server.graph).properties.name = name))
  | .packet payload => server.Runs name ∧ server.forbids payload.secret payload.graph .readWrite = false ∧ server.Delivers payload
  | .start _ target => server.ComesUp instantiate target ∧ (server.objects target).properties.name = name
  | .acknowledge _ _ => server.Runs name
  | _ => False

variable {server instantiate} {next : FlowdServer} {responses : List Response} {name : String}

theorem getGraphByName_registered {graph : GraphRef} (registered : server.runtime.graphs.getGraph name = some graph) :
    server.getGraphByName name = some graph := by
  unfold getGraphByName
  rw [registered]

theorem getGraphByName_missing (missing : server.runtime.graphs.getGraph name = none) :
    server.getGraphByName name =
      if (server.objects server.graph).properties.name = name then some server.graph else none := by
  unfold getGraphByName
  rw [missing]

theorem SameGraphs.contents (same : SameGraphs server next) (name : String) :
    next.contents name = server.contents name := by
  unfold FlowdServer.contents getGraphByName
  rw [same.objects, same.graph, same.graphs]

/-- With the same graphs, what is left is the network. -/
theorem SameGraphs.touched_iff (same : SameGraphs server next) :
    Touched server next name ↔
      ¬ (next.Runs name ↔ server.Runs name) ∨ (server.Runs name ∧ next.inports ≠ server.inports) := by
  constructor
  · intro touched
    cases touched with
    | contents changed => exact absurd (same.contents name) changed
    | registration changed => exact absurd (by rw [same.graphs]) changed
    | running changed => exact .inl changed
    | packet runs changed => exact .inr ⟨runs, changed⟩
  · intro changed
    rcases changed with changed | ⟨runs, changed⟩
    · exact .running changed
    · exact .packet runs changed

theorem SameNetwork.not_touched (same : SameNetwork server next) : ¬ Touched server next name := by
  rw [same.toSameGraphs.touched_iff]
  unfold Runs
  simp [same.running, same.started, same.inports]

theorem passes_idle (passes : server.runtime.refusesStart = false) : ¬ server.Runs name := by
  intro runs
  unfold Runtime.refusesStart at passes
  rw [runs.1] at passes
  cases passes

/-- Once a start has returned, it has succeeded just if the graph comes to its threads. -/
theorem start_starts_iff {target : GraphRef} {failure : Option (ErrorKind × String)}
    (done : server.start instantiate (server.objects target) = .ok (next, failure)) :
    server.Starts instantiate target ↔ server.ComesUp instantiate target := by
  have returns := (start_ok_iff (server.objects target)).mp ⟨_, done⟩
  apply and_congr_right
  intro passes
  rw [Graph.comesToThreads_iff]
  constructor
  · rintro ⟨ports, starts⟩
    rw [Graph.start_eq_wire] at starts
    obtain ⟨⟨bound, rest⟩, wired, starts⟩ := Except.bind_ok starts
    obtain ⟨_, boundary, _⟩ := Except.bind_ok starts
    rcases Graph.setUpBoundary_cases wired with ⟨several, kind, text, failed⟩ | ⟨single, _⟩
    · cases boundary.symm.trans failed
    · exact ⟨bound, rest, wired, single⟩
  · rintro ⟨bound, rest, wired, single⟩
    rcases returns with refused | ⟨_, _, named⟩
    · cases refused.symm.trans passes
    · have clean := named (Graph.comesToThreads_iff.mpr ⟨bound, rest, wired, single⟩)
      rcases Graph.setUpBoundary_cases wired with ⟨several, _⟩ | ⟨_, ⟨nul, _⟩ | boundary⟩
      · exact absurd single several
      · cases nul.symm.trans clean
      · refine ⟨bound, ?_⟩
        rw [Graph.start_eq_wire, wired]
        change ((server.objects target).network.setUpBoundary rest >>= fun _ => Except.ok bound) = .ok bound
        rw [boundary]
        rfl

theorem start_touched_iff {graph : String} {target : GraphRef}
    (done : server.perform instantiate (.start graph target) = .ok (next, responses)) :
    Touched server next name ↔ server.Reaches instantiate name (.start graph target) := by
  have same : SameGraphs server next :=
    perform_graphs done (fun _ _ same => nomatch same) (fun _ _ _ _ _ _ same => nomatch same)
  obtain ⟨⟨_, failure⟩, returned, _⟩ := Except.bind_ok done
  have comesUp : server.Starts instantiate target ↔ server.ComesUp instantiate target :=
    @start_starts_iff (server.pointed graph) instantiate _ target failure returned
  rw [same.touched_iff, Reaches, ← comesUp]
  rcases perform_start_cases done with ⟨refused, same, _⟩ | ⟨passes, fails, _, inports, same⟩ |
    ⟨passes, starts, _, inports, same⟩
  · subst same
    apply iff_of_false
    · simp [Runs, pointed]
    · intro starts
      cases refused.symm.trans starts.1.1
  · subst same
    have idle : ¬ server.Runs name := passes_idle passes
    apply iff_of_false
    · intro changed
      rcases changed with changed | ⟨runs, _⟩
      · exact changed Iff.rfl
      · exact idle runs
    · intro starts
      exact fails starts.1
  · subst same
    have idle : ¬ server.Runs name := passes_idle passes
    simp only [starts, true_and, idle, false_and, or_false, iff_false, not_not]
    constructor
    · intro runs
      exact Option.some.inj runs.2
    · intro same
      subst same
      exact ⟨rfl, rfl⟩

theorem packet_inports_iff {payload : RuntimePacketRequestPayload} {failure : Option (ErrorKind × String)}
    (done : server.packet payload = .ok (next, failure)) :
    next.inports ≠ server.inports ↔ server.forbids payload.secret payload.graph .readWrite = false ∧ server.Delivers payload := by
  unfold packet Runtime.validateSecret at done
  unfold forbids Delivers
  cases validated : server.runtime.validateSecretWithAccess payload.secret payload.graph .readWrite with
  | error failure =>
      rw [validated] at done
      cases done
      exact iff_of_false (fun changed => changed rfl) fun delivered => (nomatch delivered.1)
  | ok _ =>
      rw [validated] at done
      simp only [true_and]
      cases given : payload.payload with
      | none =>
          rw [given] at done
          cases done
      | some text =>
          simp only [given] at done
          cases found : server.inports with
          | none =>
              simp only [found] at done
              cases done
              simp [found]
          | some inports =>
              simp only [found] at done
              cases looked : inports.lookup payload.port with
              | none =>
                  simp only [looked] at done
                  cases done
                  simp [found, looked]
              | some ring =>
                  simp only [looked] at done
                  cases pushed : ring.push (.text text) with
                  | none =>
                      simp only [pushed] at done
                      cases done
                      simp [found, looked, Ring.push_eq_none.mp pushed]
                  | some after =>
                      simp only [pushed] at done
                      cases done
                      obtain ⟨room, longer, _⟩ := Ring.push_some pushed
                      refine iff_of_true ?_ ⟨text, inports, ring, rfl, rfl, looked, room⟩
                      intro same
                      have looked' : inports.lookup payload.port = some after := by
                        rw [← Option.some.inj same]
                        exact AList.lookup_insert _
                      cases looked.symm.trans looked'
                      simp at longer

theorem packet_touched_iff {payload : RuntimePacketRequestPayload}
    (done : server.perform instantiate (.packet payload) = .ok (next, responses)) :
    Touched server next name ↔ server.Reaches instantiate name (.packet payload) := by
  have same : SameGraphs server next :=
    perform_graphs done (fun _ _ same => nomatch same) (fun _ _ _ _ _ _ same => nomatch same)
  obtain ⟨failure, pushed⟩ := perform_packet done
  have runs : next.Runs name ↔ server.Runs name := by
    rw [packet_same pushed]
    exact Iff.rfl
  rw [same.touched_iff, Reaches, packet_inports_iff pushed]
  simp [runs]

theorem acknowledge_touched_iff {graph : String} {teardown : Bool}
    (done : server.perform instantiate (.acknowledge graph teardown) = .ok (next, responses)) :
    Touched server next name ↔ server.Reaches instantiate name (.acknowledge graph teardown) := by
  have same : SameGraphs server next :=
    perform_graphs done (fun _ _ same => nomatch same) (fun _ _ _ _ _ _ same => nomatch same)
  rw [same.touched_iff, Reaches]
  cases done
  simp [Runs]

theorem edit_touched_iff {target : GraphRef} {request : Stored.GraphRequest}
    (edits : ∀ id label library main icon description, request ≠ .clear id label library main icon description)
    (done : server.perform instantiate (.edit target request) = .ok (next, responses)) :
    Touched server next name ↔ server.Reaches instantiate name (.edit target request) := by
  have kept := (edit_keeps edits done).2
  simp only [perform] at done
  split at done
  · next changed answers handled =>
      cases done
      have found : (server.setObject target changed).getGraphByName name = server.getGraphByName name := by
        have own : ((server.setObject target changed).objects (server.setObject target changed).graph).properties.name =
            (server.objects server.graph).properties.name := (kept server.graph).1
        unfold getGraphByName
        rw [own]
        rfl
      constructor
      · intro touched
        cases touched with
        | contents different =>
            unfold contents at different
            rw [found] at different
            cases graph : server.getGraphByName name with
            | none =>
                rw [graph] at different
                exact absurd rfl different
            | some graph' =>
                rw [graph] at different
                have same : graph' = target := by
                  by_contra other
                  exact different (congrArg some ((kept graph').2 other))
                subst same
                refine ⟨graph, (Stored.Graph.handle_changes_iff _ _).mp ⟨changed, answers, handled, ?_⟩⟩
                intro same
                apply different
                change some (Function.update server.objects graph' changed graph') = _
                rw [Function.update_self, same]
                rfl
        | registration different => exact absurd rfl different
        | running different => exact absurd Iff.rfl different
        | packet _ different => exact absurd rfl different
      · intro reaches
        obtain ⟨graph, edits⟩ := reaches
        obtain ⟨result, _, same, different⟩ := (Stored.Graph.handle_changes_iff _ _).mpr edits
        cases handled.symm.trans same
        apply Touched.contents
        unfold contents
        rw [found, graph]
        change some (Function.update server.objects target changed target) ≠ some (server.objects target)
        rw [Function.update_self]
        intro same
        exact different (Option.some.inj same)
  · cases done

theorem clear_network (server : FlowdServer) (id : String) (label library : Option String) (main : Bool)
    (icon description : Option String) :
    (server.clear id label library main icon description).1.graph = server.graph ∧
      (server.clear id label library main icon description).1.runtime.status = server.runtime.status ∧
      (server.clear id label library main icon description).1.started = server.started ∧
      (server.clear id label library main icon description).1.inports = server.inports := by
  unfold FlowdServer.clear
  split
  · exact ⟨rfl, rfl, rfl, rfl⟩
  · exact ⟨rfl, rfl, rfl, rfl⟩
  · exact ⟨rfl, rfl, rfl, rfl⟩

/-- A graph:clear touches graphs by their contents and their registration only. -/
theorem clear_touched_cases {id : String} {label library icon description : Option String} {main : Bool} :
    Touched server (server.clear id label library main icon description).1 name ↔
      (server.clear id label library main icon description).1.contents name ≠ server.contents name ∨
      (server.clear id label library main icon description).1.runtime.graphs.getGraph name ≠
        server.runtime.graphs.getGraph name := by
  obtain ⟨_, status, started, inports⟩ := server.clear_network id label library main icon description
  constructor
  · intro touched
    cases touched with
    | contents changed => exact .inl changed
    | registration changed => exact .inr changed
    | running changed =>
        unfold Runs at changed
        rw [status, started] at changed
        exact absurd Iff.rfl changed
    | packet _ changed => exact absurd inports changed
  · intro changed
    rcases changed with changed | changed
    · exact .contents changed
    · exact .registration changed

theorem clear_touched_iff {id : String} {label library icon description : Option String} {main : Bool}
    (other : name ≠ id) :
    Touched server (server.clear id label library main icon description).1 name ↔
      server.Reaches instantiate name (.clear id label library main icon description) := by
  rw [clear_touched_cases, Reaches]
  rcases server.clear_cases id label library main icon description with ⟨runs, same⟩ | ⟨stopped, cleared, done, objects, graphs⟩
  · rw [same]
    simp [runs]
  · have named : cleared.properties.name = id := by
      cases done
      rfl
    have after : (server.clear id label library main icon description).1.contents name =
        (if name = server.runtime.graph then none else server.runtime.graphs.getGraph name).map
          (Function.update server.objects server.graph cleared) := by
      unfold contents getGraphByName
      rw [objects, (server.clear_network id label library main icon description).1, graphs, if_neg other,
        Function.update_self, named, if_neg (Ne.symm other)]
      cases (if name = server.runtime.graph then none else server.runtime.graphs.getGraph name) <;> rfl
    rw [after, graphs, if_neg other]
    simp only [stopped, true_and, ne_eq, other, not_false_eq_true]
    unfold contents
    cases registered : server.runtime.graphs.getGraph name with
    | none =>
        rw [getGraphByName_missing registered]
        by_cases own : (server.objects server.graph).properties.name = name
        · simp [own]
        · simp [own]
    | some graph =>
        rw [getGraphByName_registered registered]
        by_cases current : name = server.runtime.graph
        · rw [if_pos current]
          refine iff_of_true (.inr (Option.some_ne_none graph).symm) (.inl ⟨current, Option.some_ne_none graph⟩)
        · rw [if_neg current]
          simp only [current, false_and, false_or, not_true_eq_false, or_false, Option.map_some, Option.some.injEq,
            reduceCtorEq]
          by_cases same : graph = server.graph
          · subst same
            rw [Function.update_self, clear_same_iff done]
            simp
          · rw [Function.update_of_ne same]
            simp [same]

/-- What the checks of a handler say of its section. -/
def Checked (server : FlowdServer) (secret : Option String) : Section → Prop
  | .edit _ (.clear ..) => False
  | .clear id _ _ _ _ _ => server.forbids secret id .readWrite = false
  | _ => True

theorem guarded_proceeds {secret : Option String} {graph : String} {required : AccessLevel} {refusal : Response} {plan : Plan}
    {work : Section} (planned : server.guarded secret graph required refusal plan = .proceed work) :
    server.forbids secret graph required = false ∧ plan = .proceed work := by
  unfold guarded at planned
  split at planned
  · cases planned
  · next allowed => exact ⟨Bool.not_eq_true _ ▸ allowed, planned⟩

theorem addressed_proceeds {secret : Option String} {graph : String} {required : AccessLevel} {refusal missing : Response}
    {plan : GraphRef → Plan} {work : Section}
    (planned : server.addressed secret graph required refusal missing plan = .proceed work) :
    ∃ target, plan target = .proceed work := by
  obtain ⟨_, planned⟩ := guarded_proceeds planned
  split at planned
  · cases planned
  · next target _ => exact ⟨target, planned⟩

theorem plan_checked {request : Request} {work : Section} (planned : server.plan request = .proceed work) :
    server.Checked request.secret work := by
  cases request with
  | graph secret request =>
      cases request with
      | clear id label library main icon description =>
          obtain ⟨allowed, same⟩ := guarded_proceeds planned
          cases same
          exact allowed
      | addnode id component metadata name icon =>
          cases name with
          | none => cases planned
          | some name =>
              obtain ⟨target, same⟩ := addressed_proceeds planned
              cases same
              trivial
      | _ =>
          obtain ⟨target, same⟩ := addressed_proceeds planned
          cases same
          trivial
  | packetsent => cases planned
  | getstatus secret graph =>
      obtain ⟨target, same⟩ := addressed_proceeds planned
      cases same
  | edges secret graph edges =>
      obtain ⟨target, same⟩ := addressed_proceeds planned
      cases same
      trivial
  | start secret graph =>
      obtain ⟨target, same⟩ := addressed_proceeds planned
      cases same
      trivial
  | stop secret graph =>
      obtain ⟨target, same⟩ := addressed_proceeds planned
      split at same
      · cases same
      · cases same
        trivial
  | debug secret graph enable =>
      obtain ⟨target, same⟩ := addressed_proceeds planned
      cases same
      trivial
  | _ =>
      obtain ⟨_, same⟩ := guarded_proceeds planned
      cases same
      try trivial

theorem opens_of_allowed {secret : String} (given : secret ≠ "") (allowed : server.forbids (some secret) name .readWrite = false) :
    server.Opens secret name := by
  unfold forbids Runtime.validateSecretWithAccess at allowed
  unfold Opens
  have present : secret.isEmpty = false := by simpa using given
  simp only [present, Bool.false_eq_true, if_false] at allowed
  cases found : server.runtime.secrets.lookup name with
  | none => simp [found] at allowed
  | some entry =>
      obtain ⟨expected, access⟩ := entry
      simp only [found] at allowed
      by_cases same : secret = expected
      · subst same
        cases access with
        | readOnly => simp at allowed
        | readWrite => rfl
      · simp [same] at allowed

/-- What a section touches, it reaches, but for the graph that a graph:clear is asked for. -/
theorem section_opens_iff {work : Section} {secret : String} (checked : server.Checked (some secret) work) (given : secret ≠ "")
    (done : server.perform instantiate work = .ok (next, responses)) (name : String) :
    (Touched server next name → server.Opens secret name) ↔
      (server.Reaches instantiate name work → server.Opens secret name) := by
  cases work with
  | edit target request =>
      rw [edit_touched_iff _ done]
      intro id label library main icon description same
      subst same
      exact checked
  | clear id label library main icon description =>
      have same : next = (server.clear id label library main icon description).1 :=
        congrArg Prod.fst (Except.ok.inj done).symm
      rw [same]
      by_cases own : name = id
      · subst own
        have opens : server.Opens secret name := opens_of_allowed given checked
        simp only [opens, implies_true]
      · rw [clear_touched_iff own]
  | packet payload => rw [packet_touched_iff done]
  | start graph target => rw [start_touched_iff done]
  | acknowledge graph teardown => rw [acknowledge_touched_iff done]
  | _ =>
      refine iff_of_true ?_ fun reaches => reaches.elim
      intro touched
      exact absurd touched (watches_same done rfl).not_touched

/-- A secret opens only graphs that it is the token of, just if this holds of the graphs that the
sections of the handlers get at. -/
theorem secret_opens_iff {request : Request} {secret : String} (carried : request.secret = some secret) (given : secret ≠ "")
    (done : server.handle instantiate request = .ok (next, responses)) :
    (∀ name, Touched server next name → server.Opens secret name) ↔
      ∀ work, server.plan request = .proceed work →
        ∀ name, server.Reaches instantiate name work → server.Opens secret name := by
  unfold handle at done
  cases planned : server.plan request with
  | answer answers =>
      rw [planned] at done
      cases done
      have same : SameNetwork server server := ⟨⟨rfl, rfl, rfl⟩, rfl, rfl, rfl⟩
      apply iff_of_true
      · intro name touched
        exact absurd touched same.not_touched
      · intro work impossible
        cases impossible
  | proceed work =>
      rw [planned] at done
      have checked : server.Checked (some secret) work := carried ▸ plan_checked planned
      rw [forall_congr' (section_opens_iff checked given done)]
      constructor
      · intro opens work same
        cases same
        exact opens
      · intro opens
        exact opens work rfl

/-- Two graphs, each with a token of its own. -/
def twoTokens : FlowdServer :=
  { Life.twoGraphs with
    runtime := { Life.twoGraphs.runtime with
      secrets := AList.insert "main" ("first", .readWrite) (AList.singleton "other" ("second", .readWrite)) } }

theorem secret_opens_iff_start : ∃ next responses,
    twoTokens.handle Life.constructAny (.start (some "first") "main") = .ok (next, responses) ∧
      ((∀ name, Touched twoTokens next name → twoTokens.Opens "first" name) ↔
        ∀ work, twoTokens.plan (.start (some "first") "main") = .proceed work →
          ∀ name, twoTokens.Reaches Life.constructAny name work → twoTokens.Opens "first" name) :=
  ⟨_, _, rfl, secret_opens_iff rfl (by decide) rfl⟩

/-- The token of "other" lets a client take "main" out of the registry. -/
theorem secret_opens_another : ∃ next responses,
    twoTokens.handle Life.constructAny (.graph (some "second") (.clear "other" none none true none none)) =
        .ok (next, responses) ∧
      Touched twoTokens next "main" ∧ ¬ twoTokens.Opens "second" "main" :=
  ⟨_, _, rfl, .registration (by decide), by unfold Opens; decide⟩

end FlowdServer

end Flowd.Server
