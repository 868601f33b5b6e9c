import Flowd.Graph.Frames
import Flowd.Graph.Requests

namespace Flowd.Stored

/-! The metadata of a node, as it was sent and as it is persisted. -/

/-- The requests that write the metadata of nodes or move it. -/
inductive NodeRequest where
  | addnode (id component : String) (metadata : JsonMap) (graph icon : Option String)
  | changenode (id : String) (metadata : JsonMap) (graph : String)
  | renamenode (old new graph : String)

def NodeRequest.request : NodeRequest → GraphRequest
  | addnode id component metadata graph icon => .addnode id component metadata graph icon
  | changenode id metadata graph => .changenode id metadata graph
  | renamenode old new graph => .renamenode old new graph

/-- An integer in the metadata that is sent to a client. -/
def integerOf (name : String) (metadata : JsonMap) : Option Int :=
  match SortedMap.get name metadata with
  | some (.number (.integer value)) => some value
  | _ => none

def GraphNode.Agrees (node : GraphNode) : Prop := node.metadata = graphNodeMetadataFromPayload node.protocolMetadata

/-- The integers that are reported are the persisted ones. -/
structure GraphNodeMetadata.Reported (persisted : GraphNodeMetadata) (metadata : JsonMap) : Prop where
  x : ∀ value, integerOf "x" metadata = some value → persisted.x.toInt = value
  y : ∀ value, integerOf "y" metadata = some value → persisted.y.toInt = value
  width : ∀ value, integerOf "width" metadata = some value → persisted.width.map (fun size => (size.toNat : Int)) = some value
  height : ∀ value, integerOf "height" metadata = some value → persisted.height.map (fun size => (size.toNat : Int)) = some value

namespace Graph

def Agrees (graph : Graph) : Prop := ∀ name node, graph.nodes.lookup name = some node → node.Agrees

/-- A request that is answered. -/
def serve (graph : Graph) (request : NodeRequest) : Graph × List GraphResponse :=
  match graph.handle false request.request with
  | .ok result => result
  | .error _ => (graph, [])

/-- Every response reports what is persisted. -/
def Reports (result : Graph × List GraphResponse) : Prop :=
  ∀ id metadata name, .changenode id metadata name ∈ result.2 →
    ∃ node, result.1.nodes.lookup id = some node ∧ node.metadata.Reported metadata

/-- The two copies agree throughout the requests, and so do the responses. -/
def Consistent (graph : Graph) : List NodeRequest → Prop
  | [] => graph.Agrees
  | request :: rest => graph.Agrees ∧ Reports (graph.serve request) ∧ Consistent (graph.serve request).1 rest

end Graph

/-- The last value the metadata has for the key. -/
def lastValue (key : String) (changes : JsonMap) : Option JsonValue := SortedMap.get key changes.reverse

/-- The value a key is to have: the one that is sent, none if that is `null`, or the one it has. -/
def GraphNode.wanted (node : GraphNode) (changes : JsonMap) (key : String) : Option JsonValue :=
  match lastValue key changes with
  | some value => if value.isNull then none else some value
  | none => SortedMap.get key node.protocolMetadata

/-- A coordinate is wanted that fits, or none and the persisted one is the default. -/
def CoordinateKept (persisted : Int32) : Option JsonValue → Prop
  | some (.number (.integer value)) => -2 ^ 31 ≤ value ∧ value < 2 ^ 31
  | _ => persisted = 0

/-- The persisted size is the one that is wanted. -/
def SizeKept (persisted otherwise : Option UInt32) : Option JsonValue → Prop
  | some (.number (.integer value)) => persisted.map (fun size => (size.toNat : Int)) = some value
  | some (.number (.float _)) => persisted = none
  | _ => persisted = otherwise

/-- The persisted text is the one that is wanted. -/
def TextKept (persisted : Option String) : Option JsonValue → Prop
  | some (.string value) => persisted = some value
  | _ => persisted = none

/-- Changes after which the persisted metadata is still what the other copy says. -/
structure GraphNode.Keeps (node : GraphNode) (changes : JsonMap) : Prop where
  x : CoordinateKept node.metadata.x (node.wanted changes "x")
  y : CoordinateKept node.metadata.y (node.wanted changes "y")
  width : SizeKept node.metadata.width (some NODE_WIDTH_DEFAULT) (node.wanted changes "width")
  height : SizeKept node.metadata.height (some NODE_HEIGHT_DEFAULT) (node.wanted changes "height")
  label : TextKept node.metadata.label (node.wanted changes "label")
  icon : TextKept node.metadata.icon (node.wanted changes "icon")

def NodeRequest.Keeps (graph : Graph) : NodeRequest → Prop
  | .changenode id metadata name => name = graph.properties.name →
      ∀ node, graph.nodes.lookup id = some node → node.Keeps metadata
  | _ => True

/-! Merging. -/

theorem lastValue_append (key : String) (changes : JsonMap) (change : String × JsonValue) :
    lastValue key (changes ++ [change]) = if change.1 = key then some change.2 else lastValue key changes := by
  simp [lastValue, SortedMap.get_cons]

theorem get_mergeMetadata (node : GraphNode) (changes : JsonMap) (key : String) :
    SortedMap.get key (Graph.mergeMetadata node.protocolMetadata changes) = node.wanted changes key := by
  unfold GraphNode.wanted
  induction changes using List.reverseRecOn with
  | nil => rfl
  | append_singleton changes change ih =>
      rw [lastValue_append]
      simp only [Graph.mergeMetadata, List.foldl_append, List.foldl_cons, List.foldl_nil] at ih ⊢
      by_cases null : change.2.isNull = true
      · rw [if_pos null, SortedMap.get_remove]
        by_cases same : change.1 = key
        · simp [same, null]
        · simp [same, ih]
      · rw [if_neg null, SortedMap.get_insert]
        by_cases same : change.1 = key
        · simp [same, null]
        · simp [same, ih]

variable {name : String} {metadata : JsonMap}

theorem coordinate_iff (name : String) (metadata : JsonMap) (persisted : Int32) :
    (i32Of name metadata persisted = i32Of name metadata 0 ∧
      ∀ value, integerOf name metadata = some value → (i32Of name metadata persisted).toInt = value) ↔
      CoordinateKept persisted (SortedMap.get name metadata) := by
  unfold i32Of integerOf
  cases found : SortedMap.get name metadata with
  | none => simp [CoordinateKept]
  | some wanted =>
      cases wanted with
      | number number =>
          cases number with
          | integer value =>
              have lower := persisted.le_toInt
              have upper := persisted.toInt_lt
              by_cases range : -2 ^ 63 ≤ value ∧ value < 2 ^ 63
              · simp only [JsonNumber.asI64, if_pos range, Option.map_some, Option.getD_some, CoordinateKept,
                  true_and, Option.some.injEq, forall_eq']
                constructor
                · intro same
                  have low := (Int32.ofInt value).le_toInt
                  have high := (Int32.ofInt value).toInt_lt
                  rw [same] at low high
                  exact ⟨low, high⟩
                · intro fits
                  exact Int32.toInt_ofInt_of_le fits.1 fits.2
              · simp only [JsonNumber.asI64, if_neg range, Option.map_none, Option.getD_none, CoordinateKept,
                  Option.some.injEq, forall_eq']
                constructor
                · intro same
                  have equal := same.2
                  omega
                · intro fits
                  omega
          | float bits => simp [JsonNumber.asI64, CoordinateKept]
      | _ => simp [CoordinateKept]

theorem size_iff (name : String) (metadata : JsonMap) (persisted otherwise : Option UInt32) :
    (persisted = u32Of name metadata otherwise ∧
      ∀ value, integerOf name metadata = some value → persisted.map (fun size => (size.toNat : Int)) = some value) ↔
      SizeKept persisted otherwise (SortedMap.get name metadata) := by
  unfold u32Of integerOf
  cases found : SortedMap.get name metadata with
  | none => simp [SizeKept]
  | some wanted =>
      cases wanted with
      | number number =>
          cases number with
          | integer value =>
              simp only [SizeKept, Option.some.injEq, forall_eq', and_iff_right_iff_imp]
              intro kept
              obtain ⟨size, rfl, same⟩ := Option.map_eq_some_iff.mp kept
              have upper := size.toNat_lt
              have range : 0 ≤ value ∧ value < 2 ^ 64 := by omega
              have back : value.toNat = size.toNat := by omega
              simp only [JsonNumber.asU64, if_pos range, Option.map_some, back, UInt32.ofNat_toNat]
          | float bits => simp [JsonNumber.asU64, SizeKept]
      | _ => simp [SizeKept]

theorem text_iff (name : String) (metadata : JsonMap) (persisted : Option String) :
    persisted = textOf name metadata none ↔ TextKept persisted (SortedMap.get name metadata) := by
  unfold textOf
  cases found : SortedMap.get name metadata with
  | none => rfl
  | some wanted => cases wanted <;> rfl

/-- A node that is changed agrees and is reported exactly if the changes keep what is persisted. -/
theorem GraphNode.changed_iff (node : GraphNode) (changes : JsonMap) :
    ((Graph.changedNode node changes).Agrees ∧
      (Graph.changedNode node changes).metadata.Reported (Graph.changedNode node changes).protocolMetadata) ↔
      node.Keeps changes := by
  have wanted := get_mergeMetadata node changes
  have x := coordinate_iff "x" (Graph.mergeMetadata node.protocolMetadata changes) node.metadata.x
  have y := coordinate_iff "y" (Graph.mergeMetadata node.protocolMetadata changes) node.metadata.y
  have width := size_iff "width" (Graph.mergeMetadata node.protocolMetadata changes) node.metadata.width
    (some NODE_WIDTH_DEFAULT)
  have height := size_iff "height" (Graph.mergeMetadata node.protocolMetadata changes) node.metadata.height
    (some NODE_HEIGHT_DEFAULT)
  have label := text_iff "label" (Graph.mergeMetadata node.protocolMetadata changes) node.metadata.label
  have icon := text_iff "icon" (Graph.mergeMetadata node.protocolMetadata changes) node.metadata.icon
  rw [wanted] at x y width height label icon
  constructor
  · rintro ⟨agrees, reported⟩
    have fields := GraphNodeMetadata.mk.inj agrees
    exact {
      x := x.mp ⟨fields.1, reported.x⟩
      y := y.mp ⟨fields.2.1, reported.y⟩
      width := width.mp ⟨fields.2.2.1, reported.width⟩
      height := height.mp ⟨fields.2.2.2.1, reported.height⟩
      label := label.mp fields.2.2.2.2.1
      icon := icon.mp fields.2.2.2.2.2 }
  · intro keeps
    constructor
    · simp only [Agrees, Graph.changedNode, graphNodeMetadataFromPayload, GraphNodeMetadata.mk.injEq]
      exact ⟨(x.mpr keeps.x).1, (y.mpr keeps.y).1, (width.mpr keeps.width).1, (height.mpr keeps.height).1,
        label.mpr keeps.label, icon.mpr keeps.icon⟩
    · exact {
        x := (x.mpr keeps.x).2
        y := (y.mpr keeps.y).2
        width := (width.mpr keeps.width).2
        height := (height.mpr keeps.height).2 }

namespace Graph

variable {graph next : Graph}

theorem serve_of_ok {result : Graph × List GraphResponse} {request : NodeRequest}
    (done : graph.perform false request.request = .ok result) : graph.serve request = result := by
  simp only [serve, handle, done]

/-- A request that fails is answered by an error, or not at all, and leaves the graph as it is. -/
theorem serve_of_error {failure : Failure} {request : NodeRequest}
    (failed : graph.perform false request.request = .error failure) :
    (graph.serve request).1 = graph ∧ Reports (graph.serve request) := by
  cases failure with
  | error kind text =>
      simp only [serve, handle, failed, true_and]
      intro id metadata name member
      simp at member
  | panicked text =>
      simp only [serve, handle, failed, true_and]
      intro id metadata name member
      cases member

/-- A graph agrees if what is not new in it agreed before. -/
theorem Agrees.of_lookup (agrees : graph.Agrees) (each : ∀ name node, next.nodes.lookup name = some node →
    node.Agrees ∨ ∃ before, graph.nodes.lookup before = some node) : next.Agrees := by
  intro name node found
  rcases each name node found with fresh | ⟨before, old⟩
  · exact fresh
  · exact agrees before node old

theorem addNodeFromPayload_lookup {name component id : String} {metadata : JsonMap}
    (done : graph.addNodeFromPayload name component id metadata = .ok next) (other : String) :
    next.nodes.lookup other = if other = id then
      some ⟨afterSlash component, graphNodeMetadataFromPayload metadata, metadata⟩ else graph.nodes.lookup other := by
  unfold addNodeFromPayload at done
  cases added : graph.addNode name (afterSlash component) id (graphNodeMetadataFromPayload metadata) with
  | error failure =>
      rw [added] at done
      cases done
  | ok middle =>
      rw [added] at done
      cases done
      have inserted := of_addressed added
      unfold HashMap.tryInsert at inserted
      split at inserted
      · next nodes taken =>
          split at taken
          · cases taken
          · cases taken
            cases inserted
            rw [HashMap.lookup_adjust]
            by_cases same : other = id
            · simp [same]
            · simp [same, AList.lookup_insert_ne same]
      · cases inserted

theorem agrees_addnode (agrees : graph.Agrees) (id component : String) (metadata : JsonMap)
    (name icon : Option String) : (graph.serve (.addnode id component metadata name icon)).1.Agrees ∧
      Reports (graph.serve (.addnode id component metadata name icon)) := by
  cases done : graph.perform false (NodeRequest.addnode id component metadata name icon).request with
  | error failure =>
      have failed := serve_of_error done
      rw [failed.1]
      exact ⟨agrees, failed.2⟩
  | ok result =>
      cases name with
      | none => cases done
      | some name =>
          rw [serve_of_ok done]
          simp only [NodeRequest.request, perform] at done
          cases added : graph.addNodeFromPayload name component id (withIcon metadata icon) with
          | error failure =>
              rw [added] at done
              cases done
          | ok next =>
              rw [added] at done
              cases done
              constructor
              · apply agrees.of_lookup
                intro other node found
                rw [addNodeFromPayload_lookup added] at found
                split at found
                · cases found
                  exact .inl rfl
                · exact .inr ⟨other, found⟩
              · intro id metadata name member
                simp at member

theorem agrees_renamenode (agrees : graph.Agrees) (old new name : String) :
    (graph.serve (.renamenode old new name)).1.Agrees ∧ Reports (graph.serve (.renamenode old new name)) := by
  cases done : graph.perform false (NodeRequest.renamenode old new name).request with
  | error failure =>
      have failed := serve_of_error done
      rw [failed.1]
      exact ⟨agrees, failed.2⟩
  | ok result =>
      rw [serve_of_ok done]
      simp only [NodeRequest.request, perform] at done
      cases renamed : graph.renameNode name old new with
      | error failure =>
          rw [renamed] at done
          cases done
      | ok next =>
          rw [renamed] at done
          cases done
          obtain ⟨_, _, value, present, rfl⟩ := renameNode_ok renamed
          constructor
          · apply agrees.of_lookup
            intro other node found
            rw [afterRename, HashMap.lookup_insert_ite, HashMap.lookup_erase_ite] at found
            split at found
            · cases found
              exact .inr ⟨old, present⟩
            · split at found
              · cases found
              · exact .inr ⟨other, found⟩
          · intro id metadata name member
            simp at member

theorem changenode_iff (agrees : graph.Agrees) (id : String) (changes : JsonMap) (name : String) :
    ((graph.serve (.changenode id changes name)).1.Agrees ∧ Reports (graph.serve (.changenode id changes name))) ↔
      (NodeRequest.changenode id changes name).Keeps graph := by
  by_cases same : name = graph.properties.name
  · cases found : graph.nodes.lookup id with
    | none =>
        have failed : graph.perform false (NodeRequest.changenode id changes name).request =
            .error (.error .notFound "node by that name not found") := by
          simp [NodeRequest.request, perform, changeNode, addressed, same, found, bind, Except.bind]
        have kept := serve_of_error failed
        rw [kept.1]
        refine iff_of_true ⟨agrees, kept.2⟩ fun _ node present => ?_
        rw [found] at present
        cases present
    | some node =>
        let next := { graph with nodes := graph.nodes.adjust id fun node => changedNode node changes }
        have done : graph.perform false (NodeRequest.changenode id changes name).request =
            .ok (next, [.changenode id (changedNode node changes).protocolMetadata name]) := by
          simp [NodeRequest.request, perform, changeNode, addressed, same, found, bind, Except.bind, next, pure,
            Except.pure]
        have changed : next.nodes.lookup id = some (changedNode node changes) := by
          simp [next, HashMap.lookup_adjust, found]
        have others : ∀ other, other ≠ id → next.nodes.lookup other = graph.nodes.lookup other := by
          intro other different
          simp [next, HashMap.lookup_adjust, different]
        rw [serve_of_ok done]
        have keeps : (NodeRequest.changenode id changes name).Keeps graph ↔ node.Keeps changes := by
          constructor
          · intro all
            exact all same node found
          · intro keeps _ other present
            rw [found] at present
            cases present
            exact keeps
        rw [keeps, ← GraphNode.changed_iff]
        constructor
        · rintro ⟨agree, reports⟩
          obtain ⟨reported, present, holds⟩ := reports id _ name List.mem_cons_self
          rw [changed] at present
          cases present
          exact ⟨agree id _ changed, holds⟩
        · rintro ⟨agree, reported⟩
          constructor
          · apply agrees.of_lookup
            intro other value present
            by_cases here : other = id
            · rw [here, changed] at present
              cases present
              exact .inl agree
            · exact .inr ⟨other, others other here ▸ present⟩
          · intro other metadata answered member
            cases List.mem_singleton.mp member
            exact ⟨_, changed, reported⟩
  · have failed : graph.perform false (NodeRequest.changenode id changes name).request =
        .error (.error .notFound "wrong graph addressed") := by
      simp [NodeRequest.request, perform, changeNode, addressed, same, bind, Except.bind]
    have kept := serve_of_error failed
    rw [kept.1]
    exact iff_of_true ⟨agrees, kept.2⟩ fun equal => absurd equal same

theorem serve_iff (agrees : graph.Agrees) (request : NodeRequest) :
    ((graph.serve request).1.Agrees ∧ Reports (graph.serve request)) ↔ request.Keeps graph := by
  cases request with
  | addnode id component metadata name icon => exact iff_of_true (agrees_addnode agrees id component metadata name icon) trivial
  | changenode id changes name => exact changenode_iff agrees id changes name
  | renamenode old new name => exact iff_of_true (agrees_renamenode agrees old new name) trivial

/-- Each of the requests keeps what is persisted in the graph it is served on. -/
def EachKept (graph : Graph) : List NodeRequest → Prop
  | [] => True
  | request :: rest => request.Keeps graph ∧ EachKept (graph.serve request).1 rest

theorem Consistent.head {requests : List NodeRequest} (consistent : graph.Consistent requests) : graph.Agrees := by
  cases requests with
  | nil => exact consistent
  | cons request rest => exact consistent.1

theorem consistent_of_agrees (agrees : graph.Agrees) (requests : List NodeRequest) :
    graph.Consistent requests ↔ graph.EachKept requests := by
  induction requests generalizing graph with
  | nil => exact iff_of_true agrees trivial
  | cons request rest ih =>
      constructor
      · intro consistent
        have after := consistent.2.2.head
        exact ⟨(serve_iff agrees request).mp ⟨after, consistent.2.1⟩, (ih after).mp consistent.2.2⟩
      · intro kept
        have after := (serve_iff agrees request).mpr kept.1
        exact ⟨agrees, after.2, (ih after.1).mpr kept.2⟩

/-- The copies agree and are reported truly exactly as long as the changes keep what is persisted. -/
theorem metadata_consistent_iff (graph : Graph) (requests : List NodeRequest) :
    graph.Consistent requests ↔ graph.Agrees ∧ graph.EachKept requests := by
  constructor
  · intro consistent
    exact ⟨consistent.head, (consistent_of_agrees consistent.head requests).mp consistent⟩
  · rintro ⟨agrees, kept⟩
    exact (consistent_of_agrees agrees requests).mpr kept

/-- The width of a node is changed in what is reported, but not in what is persisted. -/
theorem changed_width_not_persisted :
    let requests : List NodeRequest := [.addnode "a" "Repeat" [] (some "main") none,
      .changenode "a" [("width", .number (.integer 100))] "main"]
    ¬ (Graph.new "main" "" "").Consistent requests ∧
      (let added := ((Graph.new "main" "" "").serve (.addnode "a" "Repeat" [] (some "main") none)).1
       let changed := added.serve (.changenode "a" [("width", .number (.integer 100))] "main")
       (changed.1.nodes.lookup "a").map (·.metadata.width) = some (some 72) ∧
         changed.2 = [.changenode "a" [("width", .number (.integer 100))] "main"]) := by
  constructor
  · intro consistent
    have kept := (consistent_of_agrees consistent.head _).mp consistent
    have width := (kept.2.1 rfl ⟨"Repeat", .default, []⟩ rfl).width
    cases width
  · exact ⟨rfl, rfl⟩

end Graph

end Flowd.Stored
