import Flowd.Server.Registry

namespace Flowd.Server

open Transition

/-! What a network:start that fails leaves behind. -/

/-- The requests that are to behave as if nothing had been asked. -/
def Request.Follows : Request → Prop
  | .start .. | .stop .. | .graph _ (.clear ..) => True
  | _ => False

namespace FlowdServer

/-- Nothing has changed that later requests depend on. -/
structure Unchanged (instantiate : String → ProcPorts → Except StartFailure Unit) (before after : FlowdServer) : Prop where
  graph : after.runtime.graph = before.runtime.graph
  status : after.runtime.status = before.runtime.status
  schedulers : after.runtime.schedulers = before.runtime.schedulers
  schedulerThreads : after.runtime.schedulerThreads = before.runtime.schedulerThreads
  traceSender : after.runtime.traceSender = before.runtime.traceSender
  boundaryThreads : after.runtime.boundaryThreads = before.runtime.boundaryThreads
  watchdogThread : after.runtime.watchdogThread = before.runtime.watchdogThread
  watchdogChannel : after.runtime.watchdogChannel = before.runtime.watchdogChannel
  inports : after.inports = before.inports
  follows : ∀ request, request.Follows → after.handle instantiate request = before.handle instantiate request

variable (server : FlowdServer)

/-- A network:start is turned down before anything is set. -/
def TurnsDown (secret : Option String) (graph : String) : Prop :=
  server.forbids secret graph .readWrite = true ∨ server.getGraphByName graph = none ∨
    (server.runtime.refusesStart = true ∧ server.runtime.graph = graph)

/-- The schedulers are those of earlier attempts. -/
def Numbered : Prop := ∀ name attempt, server.runtime.schedulers.lookup name = some attempt → attempt < server.attempts

variable {server} {next : FlowdServer} {instantiate : String → ProcPorts → Except StartFailure Unit}
  {responses : List Response} {secret : Option String} {graph : String}

theorem Unchanged.refl (server : FlowdServer) : Unchanged instantiate server server :=
  ⟨rfl, rfl, rfl, rfl, rfl, rfl, rfl, rfl, rfl, fun _ _ => rfl⟩

/-- A scheduler that has just been made is a new one. -/
theorem Numbered.begin_ne (numbered : server.Numbered) (name : String) :
    (server.begin name).runtime.schedulers ≠ server.runtime.schedulers := by
  intro same
  have made : (server.begin name).runtime.schedulers.lookup name = some server.attempts := AList.lookup_insert _
  rw [same] at made
  exact Nat.lt_irrefl _ (numbered name server.attempts made)

theorem Numbered.begin (numbered : server.Numbered) (name : String) : (server.begin name).Numbered := by
  intro other attempt found
  change (AList.insert name server.attempts server.runtime.schedulers).lookup other = some attempt at found
  rw [HashMap.lookup_insert_ite] at found
  split at found
  · cases found
    exact Nat.lt_succ_self _
  · exact Nat.lt_succ_of_lt (numbered other attempt found)

theorem perform_numbered {work : Section} (numbered : server.Numbered)
    (done : server.perform instantiate work = .ok (next, responses)) : next.Numbered := by
  by_cases start : ∃ graph target, work = .start graph target
  · obtain ⟨graph, target, same⟩ := start
    subst same
    have pointed : (server.pointed graph).Numbered := numbered
    rcases perform_start_cases done with ⟨_, same, _⟩ | ⟨_, _, _, inports, same⟩ | ⟨_, _, _, inports, same⟩
    · rw [same]
      exact pointed
    · rw [same]
      exact pointed.begin _
    · rw [same]
      exact pointed.begin _
  · obtain ⟨threads, _⟩ := perform_keeps done fun graph target same => start ⟨graph, target, same⟩
    unfold Numbered
    rw [threads.schedulers, threads.attempts]
    exact numbered

/-- Of a network:start that fails, nothing is left just if it is turned down first. -/
theorem start_unchanged_iff {text : String} (numbered : server.Numbered)
    (failed : server.handle instantiate (.start secret graph) = .ok (next, [.error "network" text])) :
    Unchanged instantiate server next ↔ server.TurnsDown secret graph := by
  unfold handle plan addressed guarded at failed
  dsimp only at failed
  unfold TurnsDown
  cases forbidden : server.forbids secret graph .readWrite with
  | true =>
      rw [forbidden, if_pos rfl] at failed
      cases failed
      exact iff_of_true (.refl server) (.inl rfl)
  | false =>
      rw [forbidden, if_neg Bool.false_ne_true] at failed
      cases found : server.getGraphByName graph with
      | none =>
          rw [found] at failed
          cases failed
          exact iff_of_true (.refl server) (.inr (.inl rfl))
      | some target =>
          rw [found] at failed
          rcases perform_start_cases failed with ⟨refused, same, _⟩ | ⟨passes, _, _, inports, same⟩ | ⟨_, _, started, _⟩
          · rw [same]
            constructor
            · intro unchanged
              exact .inr (.inr ⟨refused, unchanged.graph.symm⟩)
            · intro turnsDown
              rcases turnsDown with impossible | impossible | ⟨_, current⟩
              · cases impossible
              · cases impossible
              · subst current
                exact .refl server
          · have pointed : (server.pointed graph).Numbered := numbered
            rw [same]
            apply iff_of_false
            · intro unchanged
              exact pointed.begin_ne _ unchanged.schedulers
            · intro turnsDown
              rcases turnsDown with impossible | impossible | ⟨refused, _⟩
              · cases impossible
              · cases impossible
              · cases passes.symm.trans refused
          · cases started

end FlowdServer

namespace Life

variable {instantiate : String → ProcPorts → Except StartFailure Unit} {life after : Life} {events trace : List Event}

theorem step_numbered {move : Move} (numbered : life.server.Numbered)
    (done : life.step instantiate move = some (after, events)) : after.server.Numbered := by
  rcases step_cases done with ⟨_, _, same, _⟩ | ⟨work, _, worked⟩ | ⟨number, late, _, _, stopped⟩ |
    ⟨late, _, stopped⟩ | ⟨attempt, _, same, _⟩
  · rw [same]
    exact numbered
  · rcases work_server worked with same | ⟨responses, performed⟩
    · rw [same]
      exact numbered
    · exact FlowdServer.perform_numbered numbered performed
  · obtain ⟨_, same, _⟩ := stop_cases stopped
    rw [same]
    unfold FlowdServer.Numbered
    rw [Runtime.stop_schedulers]
    exact numbered
  · obtain ⟨_, same, _⟩ := stop_cases stopped
    rw [same]
    unfold FlowdServer.Numbered
    rw [Runtime.stop_schedulers]
    exact numbered
  · rw [same]
    exact numbered

/-- In every state of a run, a network:start that fails changes nothing just if it is turned
down before anything is set. -/
theorem failed_start_unchanged_iff {components : List ComponentInfo} {secrets : HashMap String (String × AccessLevel)}
    {loaded : HashMap String Stored.Graph} {active : String} {secret : Option String} {graph text : String}
    {next : FlowdServer}
    (run : (machine instantiate).Run anyMove (fresh (load components secrets loaded active)) trace life)
    (failed : life.server.handle instantiate (.start secret graph) = .ok (next, [.error "network" text])) :
    FlowdServer.Unchanged instantiate life.server next ↔ life.server.TurnsDown secret graph := by
  have numbered : life.server.Numbered := by
    apply run.invariant fun life => life.server.Numbered
    · intro name attempt found
      cases found
    · intro life move after events _ numbered step
      exact step_numbered numbered step
  exact FlowdServer.start_unchanged_iff numbered failed

theorem failed_start_unchanged_iff_running :
    let life := (machine constructAny).played (fresh twoGraphs) [.request (.start none "main")]
    FlowdServer.Unchanged constructAny life.server life.server ↔ life.server.TurnsDown none "main" := by
  have run := (machine constructAny).run_played (Machine.permits_any (fresh twoGraphs)
    [.request (.start none "main")]) rfl
  exact failed_start_unchanged_iff run (by rfl)

/-- While "main" runs, a network:start of "other" fails, and "other" is the current graph. -/
theorem failed_start_points : ∃ trace life, (machine constructAny).Run anyMove (fresh twoGraphs) trace life ∧
    ∃ next text, life.server.handle constructAny (.start none "other") = .ok (next, [.error "network" text]) ∧
      ¬ FlowdServer.Unchanged constructAny life.server next := by
  have run := (machine constructAny).run_played (Machine.permits_any (fresh twoGraphs)
    [.request (.start none "main")]) rfl
  refine ⟨_, _, run, _, _, rfl, ?_⟩
  intro unchanged
  exact absurd unchanged.graph (by decide)

end Life

end Flowd.Server
