import RealmSetup.Proofs.Flow.Finding

/-!
# Which trees can be built

A tree can be built in a realm where its names are free and apart, and no two leaves of one flow have the
same authenticator (`FlowTree.Buildable`).  The one direction goes along the construction, with the flow
that is being extended showing the nodes it has so far (`exists_plants`); the other finds in every
repeated name the step that is refused (`Plants.leaves_differ`).  `run_build_iff_buildable` puts both
together with what is found in the realm afterwards.
-/

namespace RealmSetup

open Builder

namespace Node

/-! ## Names that differ -/

/-- The authenticators of the leaves among some nodes. -/
def providers : List Node → List String
  | [] => []
  | .leaf provider _ _ :: ns => provider :: providers ns
  | .subflow _ _ _ _ :: ns => providers ns

mutual

/-- In every flow of a node, the leaves have authenticators that differ. -/
def LeavesDiffer : Node → Prop
  | .leaf _ _ _ => True
  | .subflow _ _ _ nodes => (providers nodes).Nodup ∧ LeavesDifferAll nodes

/-- In every flow of some nodes, the leaves have authenticators that differ. -/
def LeavesDifferAll : List Node → Prop
  | [] => True
  | n :: ns => n.LeavesDiffer ∧ LeavesDifferAll ns

end

theorem leavesDifferAll_leaf {provider : String} {requirement : Requirement}
    {config : Option ConfigSpec} {ns : List Node} :
    LeavesDifferAll (.leaf provider requirement config :: ns) ↔ LeavesDifferAll ns := by
  rw [LeavesDifferAll, LeavesDiffer, true_and]

theorem leavesDifferAll_subflow {aliasName : String} {kind : FlowKind} {requirement : Requirement}
    {below ns : List Node} :
    LeavesDifferAll (.subflow aliasName kind requirement below :: ns) ↔
      ((providers below).Nodup ∧ LeavesDifferAll below) ∧ LeavesDifferAll ns := by
  rw [LeavesDifferAll, LeavesDiffer]

theorem provider_mem_keys {provider : String} {ns : List Node} :
    MatchKey.provider provider ∈ ns.map key ↔ provider ∈ providers ns := by
  induction ns with
  | nil => simp [providers]
  | cons n ns ih => cases n <;> simp [providers, key, ih]

theorem mem_aliasesAll_of_key {aliasName : String} {ns : List Node}
    (h : MatchKey.displayName aliasName ∈ ns.map key) : aliasName ∈ aliasesAll ns := by
  induction ns with
  | nil => exact absurd h List.not_mem_nil
  | cons n ns ih =>
    rw [aliasesAll_cons, List.mem_append]
    rcases List.mem_cons.1 h with same | later
    · cases n with
      | leaf => exact nomatch same
      | subflow a kind requirement below =>
        cases same
        rw [aliases_subflow]
        exact .inl List.mem_cons_self
    · exact .inr (ih later)

theorem providers_append (ns ms : List Node) :
    providers (ns ++ ms) = providers ns ++ providers ms := by
  induction ns with
  | nil => rfl
  | cons n ns ih => cases n <;> simp [providers, ih]

theorem not_mem_aliasesAll_left {a : String} {ns ms : List Node}
    (h : a ∉ aliasesAll (ns ++ ms)) : a ∉ aliasesAll ns := fun ha =>
  h (by rw [aliasesAll_append]; exact List.mem_append_left _ ha)

/-- Nodes whose names differ have keys that differ. -/
theorem keys_nodup {ns : List Node} (leaves : (providers ns).Nodup) (names : (aliasesAll ns).Nodup) :
    (ns.map key).Nodup := by
  induction ns with
  | nil => exact List.nodup_nil
  | cons n ns ih =>
    rw [List.map_cons, List.nodup_cons]
    rw [aliasesAll_cons, List.nodup_append] at names
    cases n with
    | leaf provider requirement config =>
      rw [providers, List.nodup_cons] at leaves
      exact ⟨fun again => leaves.1 (provider_mem_keys.1 again), ih leaves.2 names.2.1⟩
    | subflow aliasName kind requirement below =>
      rw [aliases_subflow] at names
      refine ⟨fun again => ?_, ih leaves names.2.1⟩
      exact names.2.2 aliasName List.mem_cons_self aliasName (mem_aliasesAll_of_key again) rfl

/-- The key of a node is new where its name is. -/
theorem key_not_mem {n : Node} {ns ms : List Node} (leaves : (providers (ns ++ n :: ms)).Nodup)
    (names : (aliasesAll (ns ++ n :: ms)).Nodup) : n.key ∉ ns.map key := by
  have differ := keys_nodup leaves names
  rw [List.map_append, List.map_cons, List.nodup_append] at differ
  exact fun before => differ.2.2 _ before _ List.mem_cons_self rfl

end Node

namespace FlowDesk

variable {d d' : FlowDesk} {parent : String} {nodes : List Node} {report : List BuiltNode}

/-! ## Names that differ suffice -/

/-- A flow that shows nodes shows more of them when it was extended. -/
theorem Plants.shows_append (plants : d.Plants parent nodes report d') (h : d.Numbered)
    {f : FlowRecord} (found : d.realm.flow? parent = some f) {before : List Node}
    {reported : List BuiltNode} (shows : d.realm.Shows parent before f.executions reported)
    (own : parent ∉ Node.aliasesAll before) :
    ∃ f', d'.realm.flow? parent = some f' ∧
      d'.realm.Shows parent (before ++ nodes) f'.executions (reported ++ report) := by
  obtain ⟨xs, found', new⟩ := plants.shows h found
  have old : d'.realm.Shows parent before f.executions reported := by
    refine shows.congr (fun a ha => plants.others (shows.hasFlow ha) ?_) fun c config kept =>
      plants.configs h kept
    rintro rfl
    exact own ha
  exact ⟨_, found', old.append new⟩

section Next

variable {f : FlowRecord} {before ns : List Node} {reported one : List BuiltNode} {n : Node}

/-- Where the nodes up to the next one differ, a flow that shows those before it takes it. -/
theorem takes_next (found : d.realm.flow? parent = some f)
    (shows : d.realm.Shows parent before f.executions reported)
    (fits : Node.heightAll (before ++ n :: ns) ≤ UInt32.size)
    (leaves : (Node.providers (before ++ n :: ns)).Nodup)
    (names : (Node.aliasesAll (before ++ n :: ns)).Nodup)
    (own : parent ∉ Node.aliasesAll (before ++ n :: ns)) (free : n.Free d.realm) :
    d.Takes parent n := by
  rw [Node.heightAll_append] at fits
  have differ := Node.key_not_mem leaves names
  rw [Node.providers_append] at leaves
  rw [Node.aliasesAll_append] at names
  exact takes_of_shows found shows (by omega)
    (Node.keys_nodup (List.nodup_append.1 leaves).1 (List.nodup_append.1 names).1) differ free
    (Node.not_mem_aliasesAll_left own)

/-- The next node has joined those before it when it is there, and the names of the others are still
free. -/
theorem Plants.shows_next (plants : d.Plants parent [n] one d') (h : d.Numbered)
    (found : d.realm.flow? parent = some f)
    (shows : d.realm.Shows parent before f.executions reported)
    (names : (Node.aliasesAll (before ++ n :: ns)).Nodup)
    (own : parent ∉ Node.aliasesAll (before ++ n :: ns))
    (free : ∀ a ∈ Node.aliasesAll (n :: ns), ¬d.realm.hasFlow a = true) :
    ∃ g report', d'.realm.flow? parent = some g ∧
      d'.realm.Shows parent (before ++ [n]) g.executions report' ∧
      ∀ a ∈ Node.aliasesAll ns, ¬d'.realm.hasFlow a = true := by
  obtain ⟨g, found', shows'⟩ := plants.shows_append h found shows (Node.not_mem_aliasesAll_left own)
  refine ⟨g, _, found', shows', fun a ha there => ?_⟩
  rw [Node.aliasesAll_append, Node.aliasesAll_cons, List.nodup_append, List.nodup_append] at names
  rw [Node.aliasesAll_cons] at free
  rcases plants.hasFlow_iff.1 there with there | made
  · exact free a (List.mem_append_right _ ha) there
  · rw [Node.aliasesAll_cons, Node.aliasesAll, List.append_nil] at made
    exact names.2.1.2.2 a made a ha rfl

end Next

/-- Nodes whose names are free and differ from those before them can be created. -/
theorem exists_plants {d : FlowDesk} {parent : String} (h : d.Numbered) {f : FlowRecord}
    (found : d.realm.flow? parent = some f) {before : List Node} {reported : List BuiltNode}
    (shows : d.realm.Shows parent before f.executions reported) (nodes : List Node)
    (fits : Node.heightAll (before ++ nodes) ≤ UInt32.size)
    (leaves : (Node.providers (before ++ nodes)).Nodup) (inside : Node.LeavesDifferAll nodes)
    (names : (Node.aliasesAll (before ++ nodes)).Nodup)
    (own : parent ∉ Node.aliasesAll (before ++ nodes))
    (free : ∀ a ∈ Node.aliasesAll nodes, ¬d.realm.hasFlow a = true) :
    ∃ report d', d.Plants parent nodes report d' := by
  induction nodes using Node.forest_induction generalizing d parent f before reported with
  | nil => exact ⟨[], d, .nil d parent⟩
  | leaf provider requirement config ns ih =>
    have takes := takes_next found shows fits leaves names own trivial
    obtain ⟨g, report', found', shows', free'⟩ :=
      (Plants.leaf takes (.nil _ parent)).shows_next h found shows names own free
    rw [List.append_cons] at fits leaves names own
    obtain ⟨report, d', rest⟩ := ih (h.planted takes) found' shows' fits leaves
      (Node.leavesDifferAll_leaf.1 inside) names own free'
    exact ⟨_, d', .leaf takes rest⟩
  | subflow aliasName kind requirement below ns ihBelow ih =>
    have here : ∀ a ∈ aliasName :: Node.aliasesAll below, ¬d.realm.hasFlow a = true := by
      intro a ha
      refine free a ?_
      rw [Node.aliasesAll_cons, Node.aliases_subflow]
      exact List.mem_append_left _ ha
    have apart : (aliasName :: Node.aliasesAll below).Nodup := by
      rw [Node.aliasesAll_append, Node.aliasesAll_cons, Node.aliases_subflow, List.nodup_append,
        List.nodup_append] at names
      exact names.2.1.1
    obtain ⟨⟨leaves_below, inside_below⟩, inside_rest⟩ := Node.leavesDifferAll_subflow.1 inside
    have takes := takes_next found shows fits leaves names own (here aliasName List.mem_cons_self)
    have numbered := h.planted takes
    have free_below : ∀ a ∈ Node.aliasesAll below,
        ¬(d.planted parent (.subflow aliasName kind requirement below)).realm.hasFlow a = true := by
      intro a ha there
      rcases hasFlow_planted.1 there with there | same
      · exact here a (List.mem_cons_of_mem _ ha) there
      · exact (List.nodup_cons.1 apart).1 (List.mem_singleton.1 same ▸ ha)
    -- Below the subflow the construction starts over, with a flow that shows nothing yet.
    have low : Node.heightAll below ≤ UInt32.size := by
      rw [Node.heightAll_append, Node.heightAll_subflow] at fits
      omega
    obtain ⟨inner, between, deep⟩ := ihBelow numbered (flow?_planted_subflow takes) (.nil _) low
      leaves_below inside_below (List.nodup_cons.1 apart).2 (List.nodup_cons.1 apart).1 free_below
    obtain ⟨g, report', found', shows', free'⟩ :=
      (Plants.subflow takes deep (.nil _ parent)).shows_next h found shows names own free
    rw [List.append_cons] at fits leaves names own
    obtain ⟨report, d', rest⟩ := ih (numbered.plants deep) found' shows' fits leaves inside_rest names
      own free'
    exact ⟨_, d', .subflow takes deep rest⟩

/-! ## Names that differ are needed -/

/-- A leaf is not found for sure where its flow has another with its authenticator. -/
theorem not_takes_of_provider {f : FlowRecord} (h : d.Numbered)
    (found : d.realm.flow? parent = some f) {x : FlowExecution} (hx : x ∈ f.executions)
    {provider : String} (called : x.target = .provider provider) (requirement : Requirement)
    (config : Option ConfigSpec) : ¬d.Takes parent (.leaf provider requirement config) := by
  intro takes
  obtain ⟨row, resolved⟩ := takes.alone
  have new := id_of_resolve_added takes.there resolved
  have found' : (d.added parent (.leaf provider requirement config)).realm.flow? parent = some
      { f with executions := f.executions ++ [d.sprout (.leaf provider requirement config)] } := by
    rw [flow?_added, if_pos rfl, flow?_ground_of_hasFlow takes.there, found, Option.map_some]
  obtain ⟨index, mem⟩ := RealmFlows.exists_row_mem_listing found' (List.mem_append_left _ hx)
  have accepted : (Node.leaf provider requirement config).key.accepts
      ((d.added parent (.leaf provider requirement config)).realm.row 0 index x) = true := by
    simp [Node.key, MatchKey.accepts, RealmFlows.row, called, FlowExecution.nested?]
  have same := eq_of_resolve resolved mem rfl accepted
  have used : (d.nextId (.leaf provider requirement config)).text ∈
      (d.ground (.leaf provider requirement config)).executionIds := by
    have hid : (⟨x.id⟩ : NodeId) = d.nextId (.leaf provider requirement config) := by
      rw [← new, ← same]
      rfl
    exact List.mem_map.2
      ⟨x, RealmFlows.mem_executions.2 ⟨f, (RealmFlows.flow?_eq_some found).1, hx⟩,
        congrArg NodeId.text hid⟩
  exact h.nextId_fresh _ used

/-- No leaf is created whose authenticator its flow has already. -/
theorem Plants.provider_not_mem (plants : d.Plants parent nodes report d') (h : d.Numbered)
    {f : FlowRecord} (found : d.realm.flow? parent = some f) {x : FlowExecution}
    (hx : x ∈ f.executions) {provider : String} (called : x.target = .provider provider) :
    provider ∉ Node.providers nodes := by
  induction plants generalizing f with
  | nil => exact List.not_mem_nil
  | leaf takes _ ih =>
    rw [Node.providers, List.mem_cons, not_or]
    refine ⟨?_, ih (h.planted takes) (flow?_planted_parent found) (List.mem_append_left _ hx)⟩
    rintro rfl
    exact not_takes_of_provider h found hx called _ _ takes
  | subflow takes first _ _ ihRest =>
    have numbered := h.planted takes
    have kept := first.others (hasFlow_planted_of_hasFlow takes.there)
      fun same => takes.free (same ▸ takes.there)
    exact ihRest (numbered.plants first) (kept.trans (flow?_planted_parent found))
      (List.mem_append_left _ hx)

/-- The leaves of nodes that were created have authenticators that differ. -/
theorem Plants.leaves_differ (plants : d.Plants parent nodes report d') (h : d.Numbered) :
    (Node.providers nodes).Nodup ∧ Node.LeavesDifferAll nodes := by
  induction plants with
  | nil => exact ⟨List.nodup_nil, trivial⟩
  | leaf takes rest ih =>
    have numbered := h.planted takes
    obtain ⟨f, found⟩ := RealmFlows.hasFlow_iff.1 takes.there
    have new := rest.provider_not_mem numbered (flow?_planted_parent found)
      (List.mem_append_right _ (List.mem_singleton_self _)) rfl
    rw [Node.providers, List.nodup_cons, Node.leavesDifferAll_leaf]
    exact ⟨⟨new, (ih numbered).1⟩, (ih numbered).2⟩
  | subflow takes first _ ihFirst ihRest =>
    have numbered := h.planted takes
    have after := ihRest (numbered.plants first)
    rw [Node.providers, Node.leavesDifferAll_subflow]
    exact ⟨after.1, ihFirst numbered, after.2⟩

end FlowDesk

/-! ## Places and the flows they are in -/

namespace RealmFlows

variable {r : RealmFlows}

/-- The flow of every place shows nodes among which its node is, and whose keys differ. -/
theorem Shows.flow_of_place {parent : String} {nodes : List Node} {xs : List FlowExecution}
    {report : List BuiltNode} (h : r.Shows parent nodes xs report) {all : List Node} {f : FlowRecord}
    {reported : List BuiltNode} (found : r.flow? parent = some f)
    (shows : r.Shows parent all f.executions reported) (among : ∀ n ∈ nodes, n ∈ all)
    (differ : (all.map Node.key).Nodup) (fits : Node.heightAll all ≤ UInt32.size)
    (names : (Node.aliasesAll nodes).Nodup) (leaves : Node.LeavesDifferAll nodes)
    (low : Node.heightAll nodes ≤ UInt32.size) {level index : Nat} {q : Placement}
    (hq : q ∈ Node.placesAll parent level index nodes) :
    ∃ siblings g reported', r.flow? q.parent = some g ∧
      r.Shows q.parent siblings g.executions reported' ∧ q.node ∈ siblings ∧
      (siblings.map Node.key).Nodup ∧ Node.heightAll siblings ≤ UInt32.size := by
  induction h generalizing all f reported level index with
  | nil =>
    rw [Node.placesAll] at hq
    exact absurd hq List.not_mem_nil
  | leaf _ _ ih =>
    rw [Node.placesAll_leaf] at hq
    rcases List.mem_cons.1 hq with rfl | hq
    · exact ⟨all, f, reported, found, shows, among _ List.mem_cons_self, differ, fits⟩
    · rw [Node.aliasesAll_cons, List.nodup_append] at names
      rw [Node.heightAll_leaf] at low
      exact ih found shows (fun n hn => among n (List.mem_cons_of_mem _ hn)) differ fits names.2.1
        (Node.leavesDifferAll_leaf.1 leaves) (by omega) hq
  | @subflow parent aliasName kind requirement below x g nodes xs inner report _ found' _ first _
      ihFirst ihRest =>
    rw [Node.placesAll_subflow] at hq
    rw [Node.aliasesAll_cons, Node.aliases_subflow, List.nodup_append, List.nodup_cons] at names
    rw [Node.heightAll_subflow] at low
    obtain ⟨⟨providers, leaves_below⟩, leaves_rest⟩ := Node.leavesDifferAll_subflow.1 leaves
    rcases List.mem_cons.1 hq with rfl | hq
    · exact ⟨all, f, reported, found, shows, among _ List.mem_cons_self, differ, fits⟩
    rcases List.mem_append.1 hq with hq | hq
    · have low_below : Node.heightAll below ≤ UInt32.size := by omega
      exact ihFirst found' first (fun n hn => hn) (Node.keys_nodup providers names.1.2) low_below
        names.1.2 leaves_below low_below hq
    · exact ihRest found shows (fun n hn => among n (List.mem_cons_of_mem _ hn)) differ fits
        names.2.1 leaves_rest (by omega) hq

end RealmFlows

/-! ## Trees -/

namespace FlowTree

/-- The places of the nodes of a tree. -/
def places (t : FlowTree) : List Placement := Node.placesAll t.aliasName 0 0 t.nodes

/-- A tree can be built: its names are apart and free, and so are the authenticators of the leaves of
every flow. -/
structure Buildable (t : FlowTree) (r : RealmFlows) : Prop where
  /-- The aliases of the subflows differ. -/
  names : (Node.aliasesAll t.nodes).Nodup
  /-- None of them is the alias of the tree. -/
  own : t.aliasName ∉ Node.aliasesAll t.nodes
  /-- None of them is taken. -/
  free : ∀ a ∈ Node.aliasesAll t.nodes, ¬r.hasFlow a = true
  /-- The leaves directly in the tree differ. -/
  providers : (Node.providers t.nodes).Nodup
  /-- The leaves directly in each subflow differ. -/
  leaves : Node.LeavesDifferAll t.nodes

/-- What a report tells and what is found at a server agree with a tree. -/
structure Stands (t : FlowTree) (realm : String) (report : BuildReport) (s : MemoryServer) : Prop where
  /-- The report lists the nodes. -/
  reported : List.Forall₂ Placement.Reports t.places report.nodes
  /-- So does the listing of the flow, with the identifiers of the report. -/
  listed : ∃ rows, (s.run (listChildren realm t.aliasName)).1 = .ok rows ∧
    List.Forall₂ Placement.Describes t.places rows ∧
    rows.map Execution.id = report.nodes.map BuiltNode.id
  /-- The configuration of each leaf that has one is found. -/
  configured : ∀ q ∈ t.places, ∀ provider requirement spec,
    q.node = .leaf provider requirement (some spec) →
    ∃ config, (s.run (leafConfig realm q.parent provider)).1 = .ok config ∧
      config.aliasName = spec.aliasName ∧ config.config = spec.settings

end FlowTree

namespace FlowDesk

variable {d d' : FlowDesk} {t : FlowTree}

/-- The desk when the flow of a tree is there and has no nodes yet. -/
def opened (d : FlowDesk) (t : FlowTree) : FlowDesk :=
  (d.createFlow t.aliasName t.description t.kind).2

/-- The construction of a tree succeeds just where its nodes can be created in its flow. -/
theorem run_build_iff (h : d.Numbered) (realm : String) (final : BuildReport) :
    run (build realm t) d = (.ok final, d') ↔
      ∃ report, (d.opened t).Plants t.aliasName t.nodes report d' ∧
        final = ⟨t.aliasName, .created, report⟩ := by
  have opens := run_createFlow d realm t.aliasName t.description t.kind
  rw [build, run_bind_ok opens]
  exact run_extend_iff realm (h.createFlow _ _ _) (.start t.aliasName) final t.aliasName t.nodes d'

theorem hasFlow_opened {a : String} :
    (d.opened t).realm.hasFlow a = true ↔ d.realm.hasFlow a = true ∨ a = t.aliasName := by
  unfold opened FlowDesk.createFlow
  split
  · next taken =>
    constructor
    · exact .inl
    · rintro (there | rfl)
      · exact there
      · exact taken
  · rw [RealmFlows.hasFlow_addFlow, Bool.or_eq_true, decide_eq_true_eq, @eq_comm _ t.aliasName]

/-- The flow of a tree is there, without executions, if its alias was free. -/
theorem flow?_opened (free : ¬d.realm.hasFlow t.aliasName = true) :
    ∃ f, (d.opened t).realm.flow? t.aliasName = some f ∧ f.executions = [] := by
  unfold opened FlowDesk.createFlow
  rw [if_neg free, RealmFlows.flow?_addFlow, RealmFlows.not_hasFlow.1 free, Option.none_or, if_pos rfl]
  exact ⟨_, rfl, rfl⟩

/-- A tree with a free alias can be built just where its names differ and are free. -/
theorem exists_plants_iff_buildable (h : d.Numbered) (free : ¬d.realm.hasFlow t.aliasName = true)
    (fits : Node.heightAll t.nodes ≤ UInt32.size) :
    (∃ report d', (d.opened t).Plants t.aliasName t.nodes report d') ↔ t.Buildable d.realm := by
  have numbered : (d.opened t).Numbered := h.createFlow _ _ _
  constructor
  · rintro ⟨report, d', plants⟩
    obtain ⟨names, absent⟩ := plants.aliases_free
    obtain ⟨providers, leaves⟩ := plants.leaves_differ numbered
    exact ⟨names, fun own => absent _ own (hasFlow_opened.2 (.inr rfl)),
      fun a ha there => absent a ha (hasFlow_opened.2 (.inl there)), providers, leaves⟩
  · rintro ⟨names, own, absent, providers, leaves⟩
    obtain ⟨f, found, empty⟩ := flow?_opened free
    have shows : (d.opened t).realm.Shows t.aliasName [] f.executions [] := empty ▸ .nil _
    refine exists_plants numbered found shows t.nodes fits providers leaves names own fun a ha there => ?_
    rcases hasFlow_opened.1 there with there | rfl
    · exact absent a ha there
    · exact own ha

end FlowDesk

namespace MemoryServer

/-- When the nodes of a tree were created in its flow, the realm has the tree. -/
theorem stands_of_plants {s : MemoryServer} {d : FlowDesk} {realm : String} {t : FlowTree}
    {report : List BuiltNode} (h : d.Numbered) (free : ¬d.realm.hasFlow t.aliasName = true)
    (fits : Node.heightAll t.nodes ≤ UInt32.size)
    (plants : (d.opened t).Plants t.aliasName t.nodes report (s.desk realm)) :
    t.Stands realm ⟨t.aliasName, .created, report⟩ s := by
  have numbered : (d.opened t).Numbered := h.createFlow _ _ _
  have buildable := (FlowDesk.exists_plants_iff_buildable h free fits).1 ⟨_, _, plants⟩
  obtain ⟨f, found, empty⟩ := FlowDesk.flow?_opened free
  obtain ⟨xs, found', shows⟩ := plants.shows numbered found
  rw [empty, List.nil_append] at found'
  have there : (s.desk realm).realm.hasFlow t.aliasName = true :=
    RealmFlows.hasFlow_iff.2 ⟨_, found'⟩
  constructor
  · exact shows.reports 0 0
  · refine ⟨(s.desk realm).realm.rowsOf 0 xs, ?_, shows.rows fits 0, shows.ids 0⟩
    rw [(run_eq (within_listChildren t.aliasName) s).1, listChildren, FlowDesk.run_ask,
      FlowDesk.serve_listExecutions _ there, RealmFlows.listing_of_shows found' shows]
  · intro q hq provider requirement spec hnode
    obtain ⟨siblings, g, reported, flow, sees, mem, differ, low⟩ := shows.flow_of_place found' shows
      (fun n hn => hn) (Node.keys_nodup buildable.providers buildable.names) fits buildable.names
      buildable.leaves fits hq
    rw [hnode] at mem
    obtain ⟨config, read, same⟩ := FlowDesk.run_leafConfig_of_shows realm flow sees low differ mem
    exact ⟨config, by rw [(run_eq (within_leafConfig q.parent provider) s).1, read], same⟩

/-- At any server that requests have led to, a tree with a free alias is built just when its names are
free and differ; what is reported and found then is the tree.  The levels are to go into the field that
a row has for them. -/
theorem run_build_iff_buildable {s : MemoryServer} (h : s.Reached) (realm : String) (t : FlowTree)
    (free : ¬(s.desk realm).realm.hasFlow t.aliasName = true)
    (fits : Node.heightAll t.nodes ≤ UInt32.size) :
    ((∃ report, (s.run (build realm t)).1 = .ok report) ↔ t.Buildable (s.desk realm).realm) ∧
      ∀ report, (s.run (build realm t)).1 = .ok report →
        t.Stands realm report (s.run (build realm t)).2 := by
  have numbered := h.numbered realm
  have within : Within realm (build realm t) := within_build t
  have same := run_eq within s
  have ended : ∀ report, (s.run (build realm t)).1 = .ok report ↔
      ∃ built, ((s.desk realm).opened t).Plants t.aliasName t.nodes built
        ((s.run (build realm t)).2.desk realm) ∧ report = ⟨t.aliasName, .created, built⟩ := by
    intro report
    rw [← FlowDesk.run_build_iff numbered realm report, same.1, same.2]
    exact ⟨fun ok => Prod.ext ok rfl, fun ok => congrArg Prod.fst ok⟩
  constructor
  · rw [← FlowDesk.exists_plants_iff_buildable numbered free fits]
    constructor
    · rintro ⟨report, ok⟩
      obtain ⟨built, plants, -⟩ := (ended report).1 ok
      exact ⟨built, _, plants⟩
    · rintro ⟨built, d', plants⟩
      have ok := (FlowDesk.run_build_iff numbered realm _).2 ⟨built, plants, rfl⟩
      exact ⟨_, same.1.trans (congrArg Prod.fst ok)⟩
  · intro report ok
    obtain ⟨built, plants, rfl⟩ := (ended report).1 ok
    exact stands_of_plants numbered free fits plants

/-- A tree with a leaf that occurs again further down, and with a configuration. -/
def tiered : FlowTree where
  aliasName := "tiered"
  description := "Either factor"
  kind := .basic
  nodes :=
    [.leaf "email-code" .required (some ⟨"mail", .ofList [("length", "6")]⟩),
      .subflow "second" .basic .disabled [.leaf "email-code" .alternative none]]

/-- The tree is built beside the stock flows. -/
theorem run_build_tiered :
    ∃ report, ((start true).run (build "acme" tiered)).1 = .ok report ∧
      tiered.Stands "acme" report ((start true).run (build "acme" tiered)).2 := by
  have aliases : Node.aliasesAll tiered.nodes = ["second"] := by decide +kernel
  have free : ∀ a ∈ Node.aliasesAll tiered.nodes,
      ¬((start true).desk "acme").realm.hasFlow a = true := by
    rw [aliases]
    decide +kernel
  have buildable : tiered.Buildable ((start true).desk "acme").realm := by
    refine ⟨by rw [aliases]; simp, by rw [aliases]; decide +kernel, free, ?_, ?_⟩
    · simp [tiered, Node.providers]
    · simp [tiered, Node.providers, Node.LeavesDiffer, Node.LeavesDifferAll]
  obtain ⟨iff, stands⟩ := run_build_iff_buildable (.start true) "acme" tiered (by decide +kernel)
    (by decide +kernel)
  obtain ⟨report, ok⟩ := iff.2 buildable
  exact ⟨report, ok, stands report ok⟩

end MemoryServer

end RealmSetup
