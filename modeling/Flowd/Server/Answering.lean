import Flowd.Server.Handlers

namespace Flowd

open Stored (GraphRequest GraphResponse)

/-! Which requests are answered, and which bring the thread of their handler down. -/

theorem Stored.Graph.perform_responses {graph next : Stored.Graph} {running : Bool} {request : GraphRequest}
    {responses : List GraphResponse} (performed : graph.perform running request = .ok (next, responses)) :
    responses ≠ [] := by
  have one : ∀ {α : Type} {result : Except Failure α} {change : α → Stored.Graph} {response : α → GraphResponse},
      (result >>= fun value => Except.ok (change value, [response value])) = .ok (next, responses) → responses ≠ [] := by
    intro α result change response done
    obtain ⟨value, _, same⟩ := Except.bind_ok done
    cases same
    exact List.cons_ne_nil _ _
  cases request with
  | addnode id component metadata graph icon =>
      cases graph with
      | none => cases performed
      | some name => exact one performed
  | removenode id name =>
      obtain ⟨⟨changed, removed⟩, _, same⟩ := Except.bind_ok performed
      cases same
      exact List.append_ne_nil_of_right_ne_nil _ (List.cons_ne_nil _ _)
  | addinitial name metadata data tgt =>
      cases performed
      exact List.cons_ne_nil _ _
  | _ => exact one performed

theorem Stored.Graph.handle_responses {graph next : Stored.Graph} {running : Bool} {request : GraphRequest}
    {responses : List GraphResponse} (handled : graph.handle running request = .ok (next, responses)) :
    responses ≠ [] := by
  unfold Stored.Graph.handle at handled
  split at handled
  · next result performed =>
      cases handled
      exact perform_responses performed
  · cases handled
    exact List.cons_ne_nil _ _
  · cases handled

namespace Server

/-- The handler ends, and it has sent something. -/
def Answered (result : Except Halt (FlowdServer × List Response)) : Prop :=
  ∃ next responses, result = .ok (next, responses) ∧ responses ≠ []

theorem Answered.ok {next : FlowdServer} {response : Response} {rest : List Response} :
    Answered (.ok (next, response :: rest)) := ⟨next, _, rfl, List.cons_ne_nil _ _⟩

namespace FlowdServer

variable (server : FlowdServer) (instantiate : String → ProcPorts → Except StartFailure Unit)

/-- `Runtime::start` returns for the graph. -/
def Returns (graph : Graph) : Prop :=
  server.runtime.refusesStart = true ∨
    (graph.Startable server.components instantiate ∧
      (server.runtime.tracing = true → graph.ReachesEdges server.components → ¬ graph.FirstConnects) ∧
      (graph.ComesToThreads server.components instantiate → hasNul graph.name = false))

/-- The requests that are answered. -/
def Answerable : Request → Prop
  | .start secret graph =>
      server.forbids secret graph .readWrite = true ∨
        ∀ target, server.getGraphByName graph = some target → server.Returns instantiate (server.objects target).network
  | .packet payload =>
      server.forbids payload.secret server.runtime.graph .readWrite = true ∨
        server.forbids payload.secret payload.graph .readWrite = true ∨ payload.payload ≠ none
  | _ => True

variable {server instantiate}

theorem start_ok_iff (graph : Stored.Graph) :
    (∃ result, server.start instantiate graph = .ok result) ↔ server.Returns instantiate graph.network := by
  unfold start Returns
  dsimp only
  cases refused : server.runtime.refusesStart with
  | true => simp
  | false =>
      have answers : Answers (graph.network.wire server.components instantiate) ↔
          graph.network.Startable server.components instantiate := Graph.wire_answers_iff
      have comes : graph.network.ComesToThreads server.components instantiate ↔ ∃ bound rest,
          graph.network.wire server.components instantiate = .ok (bound, rest) ∧ graph.network.SingleSinks :=
        Graph.comesToThreads_iff
      cases locked : Guards.relocks [] (graph.network.startSteps server.components instantiate server.runtime.tracing false
          (fun _ => false) fun _ => false) with
      | true =>
          obtain ⟨_, tracing, reaches, connects⟩ := (Graph.start_relocks_iff _ _ _ _).mp locked
          simp [tracing, reaches, connects]
      | false =>
          have free := mt (Graph.start_relocks_iff _ _ _ _).mpr (Bool.not_eq_true _ |>.mpr locked)
          have returns : server.runtime.tracing = true → graph.network.ReachesEdges server.components →
              ¬ graph.network.FirstConnects := fun tracing reaches connects => free ⟨rfl, tracing, reaches, connects⟩
          simp only [Bool.false_eq_true, if_false, false_or, ← answers, and_iff_right returns, comes]
          cases wired : graph.network.wire server.components instantiate with
          | error failure =>
              cases failure with
              | error kind text =>
                  refine iff_of_true ⟨_, rfl⟩ ⟨.error kind text, ?_⟩
                  simp
              | panicked text =>
                  refine iff_of_false ?_ fun both => both.1 text rfl
                  simp
          | ok result =>
              obtain ⟨bound, rest⟩ := result
              have unnamed : (∃ found left, (Except.ok (bound, rest) : Except StartFailure _) = .ok (found, left) ∧
                  graph.network.SingleSinks) ↔ graph.network.SingleSinks := by simp
              rw [and_iff_right (.ok _), unnamed]
              dsimp only
              rcases Graph.setUpBoundary_cases wired with ⟨several, kind, text, failed⟩ |
                ⟨single, ⟨nul, text, failed⟩ | done⟩
              · rw [failed]
                exact iff_of_true ⟨_, rfl⟩ fun single => absurd single several
              · rw [failed]
                refine iff_of_false ?_ fun clean => Bool.false_ne_true ((clean single).symm.trans nul)
                simp
              · rw [done, spawn, Graph.hasNul_append]
                have scheduler : hasNul "scheduler-" = false := by decide
                cases nul : hasNul graph.network.name with
                | true => simp [single]
                | false => simp [scheduler]

theorem packet_ok_iff (payload : RuntimePacketRequestPayload) :
    (∃ result, server.packet payload = .ok result) ↔
      server.forbids payload.secret payload.graph .readWrite = true ∨ payload.payload ≠ none := by
  unfold packet forbids Runtime.validateSecret
  cases server.runtime.validateSecretWithAccess payload.secret payload.graph .readWrite with
  | error failure => simp
  | ok _ =>
      cases payload.payload with
      | none => simp
      | some text =>
          refine iff_of_true ?_ (.inr (Option.some_ne_none _))
          dsimp only
          repeat' split
          all_goals exact ⟨_, rfl⟩

theorem withRuntime_answered (protocol : String) (result : Except (ErrorKind × String) Runtime) (response : Response) :
    Answered (.ok (server.withRuntime protocol result response)) := by
  cases result with
  | ok runtime => exact .ok
  | error failure => exact .ok

theorem clear_answered (id : String) (label library : Option String) (main : Bool) (icon description : Option String) :
    Answered (.ok (server.clear id label library main icon description)) := by
  unfold clear
  split
  · exact .ok
  · exact .ok
  · exact .ok

end FlowdServer

/-- A plan is answered as far as its section is. -/
def Plan.Answers (instantiate : String → ProcPorts → Except StartFailure Unit) (server : FlowdServer) : Plan → Prop
  | .answer responses => responses ≠ []
  | .proceed work => Answered (server.perform instantiate work)

namespace FlowdServer

variable {server : FlowdServer} {instantiate : String → ProcPorts → Except StartFailure Unit}

theorem handle_answered_iff (request : Request) :
    Answered (server.handle instantiate request) ↔ (server.plan request).Answers instantiate server := by
  unfold handle
  cases server.plan request with
  | answer responses =>
      constructor
      · intro found
        obtain ⟨_, _, same, some⟩ := found
        cases same
        exact some
      · intro some
        exact ⟨server, responses, rfl, some⟩
  | proceed work => rfl

theorem guarded_answers_iff (secret : Option String) (graph : String) (required : AccessLevel) (refusal : Response)
    (plan : Plan) : (server.guarded secret graph required refusal plan).Answers instantiate server ↔
      server.forbids secret graph required = true ∨ plan.Answers instantiate server := by
  unfold guarded
  split
  · next forbidden => exact iff_of_true (List.cons_ne_nil _ _) (.inl forbidden)
  · next allowed => simp [allowed]

theorem addressed_answers_iff (secret : Option String) (graph : String) (required : AccessLevel)
    (refusal missing : Response) (plan : GraphRef → Plan) :
    (server.addressed secret graph required refusal missing plan).Answers instantiate server ↔
      server.forbids secret graph required = true ∨
        ∀ target, server.getGraphByName graph = some target → (plan target).Answers instantiate server := by
  unfold addressed
  rw [guarded_answers_iff]
  cases server.getGraphByName graph with
  | none => simp [Plan.Answers]
  | some target => simp

theorem edit_answered (target : GraphRef) (request : GraphRequest) :
    Answered (server.perform instantiate (.edit target request)) := by
  obtain ⟨⟨next, responses⟩, handled⟩ := (server.objects target).handle_ok server.runtime.status.running request
  simp only [perform, handled]
  exact ⟨_, _, rfl, by simpa using Stored.Graph.handle_responses handled⟩

theorem planGraph_answers (secret : Option String) (request : GraphRequest) :
    (server.planGraph secret request).Answers instantiate server := by
  unfold planGraph
  split
  · rw [guarded_answers_iff]
    exact .inr (clear_answered _ _ _ _ _ _)
  · split
    · exact List.cons_ne_nil _ _
    · rw [addressed_answers_iff]
      exact .inr fun target _ => edit_answered target _

/-- A section that consists of an operation and its answer. -/
theorem answered_bind_iff {α : Type} {result : Except Halt α} {next : α → Except Halt (FlowdServer × List Response)}
    (answers : ∀ done, Answered (next done)) : Answered (result >>= next) ↔ ∃ done, result = .ok done := by
  cases result with
  | error halt =>
      refine iff_of_false ?_ ?_
      · intro found
        obtain ⟨_, _, same, _⟩ := found
        cases same
      · simp
  | ok done => exact iff_of_true (answers done) ⟨done, rfl⟩

/-- A request is answered just if it is none of those that are known to fail. -/
theorem handle_answers_iff (request : Request) :
    Answered (server.handle instantiate request) ↔ server.Answerable instantiate request := by
  rw [handle_answered_iff]
  have runtime : ∀ protocol result response,
      Answered (.ok (server.withRuntime protocol result response)) := withRuntime_answered
  cases request with
  | getruntime secret => exact iff_of_true ((guarded_answers_iff ..).mpr (.inr (List.cons_ne_nil _ _))) trivial
  | list secret client =>
      refine iff_of_true ((guarded_answers_iff ..).mpr (.inr ?_)) trivial
      exact List.append_ne_nil_of_right_ne_nil _ (List.cons_ne_nil _ _)
  | getstatus secret graph =>
      exact iff_of_true ((addressed_answers_iff ..).mpr (.inr fun _ _ => List.cons_ne_nil _ _)) trivial
  | persist secret => exact iff_of_true ((guarded_answers_iff ..).mpr (.inr (List.cons_ne_nil _ _))) trivial
  | getsource secret name => exact iff_of_true ((guarded_answers_iff ..).mpr (.inr (List.cons_ne_nil _ _))) trivial
  | graph secret request => exact iff_of_true (planGraph_answers secret request) trivial
  | traceStart secret graph bufferSize =>
      exact iff_of_true ((guarded_answers_iff ..).mpr (.inr (runtime _ _ _))) trivial
  | traceStop secret graph => exact iff_of_true ((guarded_answers_iff ..).mpr (.inr (runtime _ _ _))) trivial
  | traceClear secret graph => exact iff_of_true ((guarded_answers_iff ..).mpr (.inr (runtime _ _ _))) trivial
  | traceDump secret graph => exact iff_of_true ((guarded_answers_iff ..).mpr (.inr (runtime _ _ _))) trivial
  | packet payload =>
      rw [plan, guarded_answers_iff]
      apply or_congr_right
      apply (answered_bind_iff _).trans (packet_ok_iff payload)
      intro done
      obtain ⟨next, failure⟩ := done
      cases failure with
      | none => exact .ok
      | some failure => exact .ok
  | packetsent => exact iff_of_true (List.cons_ne_nil _ _) trivial
  | edges secret graph edges =>
      exact iff_of_true ((addressed_answers_iff ..).mpr (.inr fun _ _ => runtime _ _ _)) trivial
  | start secret graph =>
      rw [plan, addressed_answers_iff]
      apply or_congr_right
      apply forall₂_congr
      intro target _
      apply (answered_bind_iff _).trans (start_ok_iff _)
      intro done
      obtain ⟨next, failure⟩ := done
      cases failure with
      | none => exact .ok
      | some failure => exact .ok
  | stop secret graph =>
      refine iff_of_true ((addressed_answers_iff ..).mpr (.inr fun _ _ => ?_)) trivial
      split
      · exact List.cons_ne_nil _ _
      · exact .ok
  | debug secret graph enable =>
      exact iff_of_true ((addressed_answers_iff ..).mpr (.inr fun _ _ => runtime _ _ _)) trivial

/-- A server with one empty graph. -/
def mainServer : FlowdServer := load [] ∅ (AList.singleton "main" (Stored.Graph.new "main" "" "")) "main"

/-- An edge between nodes that do not exist is accepted, and then the graph cannot be started. -/
theorem start_panics : ∃ next responses,
    mainServer.handle (fun _ _ => .ok ()) (.graph none (.addedge ⟨"A", "OUT", none⟩ ⟨"B", "IN", none⟩ ⟨none, none, none⟩
        "main")) = .ok (next, responses) ∧
      ¬ Answered (next.handle (fun _ _ => .ok ()) (.start none "main")) := by
  refine ⟨_, _, rfl, ?_⟩
  intro answered
  obtain ⟨_, _, same, _⟩ := answered
  cases same

end FlowdServer

end Server

end Flowd
