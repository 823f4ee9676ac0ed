import SchemaGraph.Proofs.Editing.Entries
import SchemaGraph.Proofs.Schema.Deep
import SchemaGraph.Snapshot.Reader

/-!
# What snapshots are refused for

Reading a snapshot reports what is found in its tables and edges, and a wrong value, as a fault of
the snapshot. There are values that it takes apart before anything has checked them: the lists of
tables, of nodes and of edges, the nodes and their data. Others it prints: what columns are given
for a type or for the table of a reference, the id of an edge that is dropped, and a dialect that is
none. If the first thing wrong with a snapshot is that one of the former is of another kind, or that
one of the latter is nested too deep, reading it crashes, and it does so for no other reason.
-/

namespace SchemaGraph.Snapshot

open Decode

/-- How reading a node crashes: it is no object, or its data cannot be taken apart. -/
inductive NodeStumbles : Json → Crash → Prop
  | node {v : Json} (other : ∀ ms, v ≠ .obj ms) : NodeStumbles v .noPart
  | data {ms : Members} {data : Json} (found : ms.get? "data" = some data)
      (given : data.isGiven = true) (resists : data.ResistsEntries) :
      NodeStumbles (.obj ms) .wrongKind

/-- Reading gets to the edges: the parts of the snapshot are found, and its tables are read. -/
def ReachesEdges (ms : Members) (edges : Json) : Prop :=
  ∃ drafts, parts ms = .ok (drafts, edges) ∧ ∀ v ∈ drafts, ∃ t, Table.check v = .valid t

/-- How reading an edge crashes: it is dropped, with an id that is nested too deep. -/
def EdgeStumbles (edge : Json) : Prop :=
  ∃ ms id, edge = .obj ms ∧
    (namesColumn Relationship.sourceNames ms && namesColumn Relationship.targetNames ms) = false ∧
    Members.get? ms "id" = some id ∧ id.IsTooDeep

/-- How reading the members of a snapshot crashes. -/
inductive Stumbles (ms : Members) : Crash → Prop
  | tables {v : Json} (found : ms.get? "tables" = some v) (given : v.isGiven = true)
      (bare : v.hasItems = false) : Stumbles ms .wrongKind
  | nodes {v : Json} (onCanvas : ms.get? "tables" = none) (found : ms.get? "nodes" = some v)
      (given : v.isGiven = true) (bare : v.hasItems = false) : Stumbles ms .wrongKind
  | node {v : Json} {nodes : List Json} {c : Crash} (onCanvas : ms.get? "tables" = none)
      (found : ms.get? "nodes" = some v) (given : v.isGiven = true)
      (items : v.elements = .ok nodes)
      (stuck : RunsInto (fun n => ∃ t, nodeTable n = .ok t) (NodeStumbles · c) nodes) :
      Stumbles ms c
  | table {drafts : List Json} {edges : Json} (read : parts ms = .ok (drafts, edges))
      (stuck : RunsInto (fun v => ∃ t, Table.check v = .valid t)
        (fun v => ∃ t, v = .obj t ∧ Table.IsTooDeep t) drafts) : Stumbles ms .tooDeep
  | edges {edges : Json} (reached : ReachesEdges ms edges) (given : edges ≠ .null)
      (bare : edges.hasItems = false) : Stumbles ms .wrongKind
  | edge {edges : Json} {drawn : List Json} (reached : ReachesEdges ms edges)
      (items : edges.elements = .ok drawn)
      (stuck : RunsInto (fun e => ∃ r, edgeRelationship? e = .ok r) EdgeStumbles drawn) :
      Stumbles ms .tooDeep
  | dialect {edges v : Json} (reached : ReachesEdges ms edges)
      (read : edges = .null ∨ ∃ drawn, edges.elements = .ok drawn ∧
        ∀ e ∈ drawn, ∃ r, edgeRelationship? e = .ok r)
      (found : ms.get? "dialect" = some v) (deep : v.IsTooDeep) : Stumbles ms .tooDeep

variable {ms : Members} {f : Failure} {c : Crash}

theorem exists_of_isGiven {name : String} (h : ((ms.get? name).getD .null).isGiven = true) :
    ∃ v, ms.get? name = some v ∧ v.isGiven = true := by
  cases found : ms.get? name with
  | none =>
      rw [found] at h
      cases h
  | some v =>
      rw [found] at h
      exact ⟨v, rfl, h⟩

theorem nodeTable_obj_error_iff :
    nodeTable (.obj ms) = .error f ↔
      ∃ data, ms.get? "data" = some data ∧ data.isGiven = true ∧ data.entries = .error f := by
  constructor
  · intro h
    simp only [nodeTable] at h
    split at h
    · rename_i given
      obtain ⟨data, found, given⟩ := exists_of_isGiven given
      rw [found, Option.getD_some] at h
      rcases bind_error h with h | ⟨_, -, h⟩
      · exact ⟨data, found, given, h⟩
      · cases h
    · cases h
  · rintro ⟨data, found, given, h⟩
    simp only [nodeTable, found, Option.getD_some, given, if_true, h]
    rfl

theorem nodeTable_crash_iff {v : Json} : nodeTable v = .error (.crash c) ↔ NodeStumbles v c := by
  by_cases isObj : ∃ ms, v = .obj ms
  · obtain ⟨ms, rfl⟩ := isObj
    rw [nodeTable_obj_error_iff]
    constructor
    · rintro ⟨data, found, given, h⟩
      obtain ⟨resists, rfl⟩ := Json.entries_crash_iff.mp h
      exact .data found given resists
    · rintro (other | ⟨found, given, resists⟩)
      · exact absurd rfl (other ms)
      · exact ⟨_, found, given, Json.entries_crash_iff.mpr ⟨resists, rfl⟩⟩
  · have other := not_exists.mp isObj
    have crash : nodeTable v = .error (.crash .noPart) := by
      cases v with
      | obj ms => exact absurd rfl (other ms)
      | _ => rfl
    rw [crash]
    constructor
    · intro h
      cases h
      exact .node other
    · rintro (- | ⟨-, -, -⟩)
      · rfl
      · exact absurd rfl (other _)

theorem nodeTable_error {v : Json} (h : nodeTable v = .error f) :
    (∃ c, f = .crash c) ∨ ∃ fault, f = .value fault := by
  by_cases isObj : ∃ ms, v = .obj ms
  · obtain ⟨ms, rfl⟩ := isObj
    obtain ⟨data, -, -, h⟩ := nodeTable_obj_error_iff.mp h
    exact Json.entries_error h
  · refine .inl ⟨.noPart, ?_⟩
    cases v with
    | obj ms => exact absurd ⟨ms, rfl⟩ isObj
    | _ => exact (Except.error.inj h).symm

theorem itemsOf_error_iff {name : String} :
    itemsOf ((ms.get? name).getD .null) = .error f ↔
      (∃ v, ms.get? name = some v ∧ v.isGiven = true ∧ v.hasItems = false) ∧
        f = .crash .wrongKind := by
  unfold itemsOf
  constructor
  · intro h
    split at h
    · rename_i given
      obtain ⟨v, found, given⟩ := exists_of_isGiven given
      rw [found, Option.getD_some] at h
      obtain ⟨bare, rfl⟩ := Json.elements_eq_error_iff.mp h
      exact ⟨⟨v, found, given, bare⟩, rfl⟩
    · cases h
  · rintro ⟨⟨v, found, given, bare⟩, rfl⟩
    rw [found, Option.getD_some, if_pos given]
    exact Json.elements_eq_error_iff.mpr ⟨bare, rfl⟩

theorem itemsOf_eq_ok {name : String} {items : List Json}
    (h : itemsOf ((ms.get? name).getD .null) = .ok items) :
    items = [] ∨ ∃ v, ms.get? name = some v ∧ v.isGiven = true ∧ v.elements = .ok items := by
  unfold itemsOf at h
  split at h
  · rename_i given
    obtain ⟨v, found, given⟩ := exists_of_isGiven given
    rw [found, Option.getD_some] at h
    exact .inr ⟨v, found, given, h⟩
  · cases h
    exact .inl rfl

theorem parts_of_tables {v : Json} (found : ms.get? "tables" = some v) :
    parts ms =
      itemsOf ((ms.get? "tables").getD .null) >>= fun items =>
        .ok (items, (ms.get? "relationships").getD ((ms.get? "edges").getD .null)) := by
  have has : ms.has "tables" = true := by rw [Members.has, found]; rfl
  simp only [parts, has, if_true]
  rfl

theorem parts_on_canvas (onCanvas : ms.get? "tables" = none) :
    parts ms =
      itemsOf ((ms.get? "nodes").getD .null) >>= fun nodes =>
        nodes.mapM nodeTable >>= fun tables => .ok (tables, (ms.get? "edges").getD .null) := by
  have has : ms.has "tables" = false := by rw [Members.has, onCanvas]; rfl
  simp only [parts, has]
  rfl

/-- The parts of a snapshot are not found if reading it stumbles, or for a wrong value. -/
theorem parts_error (h : parts ms = .error f) :
    (∃ c, f = .crash c ∧ Stumbles ms c) ∨ ∃ fault, f = .value fault := by
  cases found : ms.get? "tables" with
  | some v =>
      rw [parts_of_tables found] at h
      rcases bind_error h with h | ⟨items, -, h⟩
      · obtain ⟨⟨v, found, given, bare⟩, rfl⟩ := itemsOf_error_iff.mp h
        exact .inl ⟨_, rfl, .tables found given bare⟩
      · cases h
  | none =>
      rw [parts_on_canvas found] at h
      rcases bind_error h with h | ⟨nodes, listed, h⟩
      · obtain ⟨⟨v, listed, given, bare⟩, rfl⟩ := itemsOf_error_iff.mp h
        exact .inl ⟨_, rfl, .nodes found listed given bare⟩
      rcases bind_error h with h | ⟨tables, -, h⟩
      · have stuck := mapM_eq_error_iff.mp h
        obtain ⟨node, mem, failed⟩ := stuck.exists_bad
        rcases nodeTable_error failed with ⟨c, rfl⟩ | wrong
        · rcases itemsOf_eq_ok listed with rfl | ⟨v, listed, given, items⟩
          · cases mem
          · exact .inl ⟨c, rfl, .node found listed given items
              (stuck.imp fun _ => nodeTable_crash_iff.mp)⟩
        · exact .inr wrong
      · cases h

theorem edgeRelationship?_error {edge : Json} (h : edgeRelationship? edge = .error f) :
    (EdgeStumbles edge ∧ f = .crash .tooDeep) ∨ ∃ fault, failureOf f = .snapshot fault := by
  unfold edgeRelationship? at h
  split at h
  · rename_i ms
    split at h
    · rcases bind_error h with h | ⟨_, -, h⟩
      · obtain ⟨found, rfl⟩ := Checked.orFail_finds (Relationship.check_ne_tooDeep _) h
        exact .inr ⟨_, rfl⟩
      · cases h
    · rename_i dropped
      rcases bind_error h with h | ⟨_, -, h⟩
      · rcases Json.ShowFault.mapError_failure h with ⟨deep, rfl⟩ | rfl
        · cases found : Members.get? ms "id" with
          | none =>
              rw [found] at deep
              cases deep
          | some id =>
              rw [found] at deep
              exact .inl ⟨⟨ms, id, rfl, Bool.eq_false_iff.mpr dropped, found, deep⟩, rfl⟩
        · exact .inr ⟨_, rfl⟩
      · cases h
  · exact .inr ⟨_, congrArg failureOf (Except.error.inj h).symm⟩

theorem edgeRelationship?_of_stumbles {edge : Json} (h : EdgeStumbles edge) :
    edgeRelationship? edge = .error (.crash .tooDeep) := by
  obtain ⟨ms, id, rfl, dropped, found, deep⟩ := h
  have shown : id.printedOrFail = .error (.crash .tooDeep) := by
    rw [Json.printedOrFail, deep]
    rfl
  simp only [edgeRelationship?, dropped, found, Option.getD_some, shown]
  rfl

theorem dialectOf_error {v : Json} (h : dialectOf v = .error f) :
    (v.IsTooDeep ∧ f = .crash .tooDeep) ∨ ∃ fault, f = .value fault := by
  simp only [dialectOf] at h
  generalize named : (if v.isGiven = true then v else .str Dialect.postgresql.name) = w at h
  split at h
  · cases h
  rcases bind_error h with h | ⟨_, -, h⟩
  · rcases Json.ShowFault.mapError_failure h with ⟨deep, rfl⟩ | rfl
    · have deep := Json.shown_eq_tooDeep_iff.mp deep
      split at named
      · exact .inl ⟨named ▸ deep, rfl⟩
      · subst named
        cases deep
    · exact .inr ⟨_, rfl⟩
  · exact .inr ⟨_, (Except.error.inj h).symm⟩

theorem dialectOf_of_isTooDeep {v : Json} (deep : v.IsTooDeep) :
    dialectOf v = .error (.crash .tooDeep) := by
  have shown : v.shownOrFail = .error (.crash .tooDeep) := by
    rw [Json.shownOrFail, Json.shown_eq_tooDeep_iff.mpr deep]
    rfl
  have bad : Dialect.check v = .fault (.notMember (Dialect.all.map Dialect.name)) := by
    cases v with
    | str s => cases deep
    | _ => rfl
  simp only [dialectOf, deep.isGiven, if_true, bad, Checked.fault, shown]
  rfl

/-- What is left of reading once there are relationships. -/
theorem finish_error {tables : List (Table Float)} {rs : List Relationship}
    (h : (dialectOf ((ms.get? "dialect").getD .null) >>= fun dialect =>
      (.ok { tables, relationships := rs, dialect } : Except Failure (State Float))) = .error f) :
    (f = .crash .tooDeep ∧ ∃ v, ms.get? "dialect" = some v ∧ v.IsTooDeep) ∨
      ∃ fault, failureOf f = .snapshot fault := by
  rcases bind_error h with h | ⟨_, -, h⟩
  · rcases dialectOf_error h with ⟨deep, rfl⟩ | ⟨fault, rfl⟩
    · cases found : ms.get? "dialect" with
      | none =>
          rw [found] at deep
          cases deep
      | some v =>
          rw [found] at deep
          exact .inl ⟨rfl, v, rfl, deep⟩
    · exact .inr ⟨_, rfl⟩
  · cases h

/-- The first table that cannot be read is reported, unless its check is cut short. -/
theorem tables_error {drafts : List Json}
    (h : drafts.mapM (fun v => (Table.check v).orFail) = .error f) :
    (RunsInto (fun v => ∃ t, Table.check v = .valid t)
      (fun v => ∃ t, v = .obj t ∧ Table.IsTooDeep t) drafts ∧ f = .crash .tooDeep) ∨
      ∃ fault, failureOf f = .snapshot fault := by
  have stuck := mapM_eq_error_iff.mp h
  obtain ⟨draft, -, failed⟩ := stuck.exists_bad
  rcases Checked.orFail_error failed with ⟨found, rfl⟩ | ⟨-, rfl⟩
  · exact .inr ⟨_, rfl⟩
  · refine .inl ⟨stuck.mono (fun v h => ?_) fun v h => ?_, rfl⟩
    · exact h.imp fun _ => Checked.orFail_eq_ok_iff.mp
    · rcases Checked.orFail_error h with ⟨_, h⟩ | ⟨cut, -⟩
      · cases h
      · exact Table.check_eq_tooDeep_iff.mp cut

/-- Reading a snapshot fails if it stumbles, and otherwise for what is reported. -/
theorem stateOfMembers_error (h : stateOfMembers ms = .error f) :
    (∃ c, f = .crash c ∧ Stumbles ms c) ∨ ∃ fault, failureOf f = .snapshot fault := by
  rcases bind_error h with h | ⟨⟨drafts, edges⟩, read, h⟩
  · refine (parts_error h).imp_right ?_
    rintro ⟨fault, rfl⟩
    exact ⟨_, rfl⟩
  rcases bind_error h with h | ⟨tables, checked, h⟩
  · refine (tables_error h).imp_left ?_
    rintro ⟨stuck, rfl⟩
    exact ⟨_, rfl, .table read stuck⟩
  have reached : ReachesEdges ms edges := by
    refine ⟨drafts, read, fun v hv => ?_⟩
    obtain ⟨t, ht⟩ := exists_mapM_eq_ok_iff.mp ⟨tables, checked⟩ v hv
    exact ⟨t, Checked.orFail_eq_ok_iff.mp ht⟩
  cases edges with
  | null =>
      refine (finish_error h).imp_left ?_
      rintro ⟨rfl, v, found, deep⟩
      exact ⟨_, rfl, .dialect reached (.inl rfl) found deep⟩
  | _ =>
      rcases bind_error h with h | ⟨drawn, items, h⟩
      · obtain ⟨bare, rfl⟩ := Json.elements_eq_error_iff.mp h
        exact .inl ⟨_, rfl, .edges reached (fun absent => by cases absent) bare⟩
      rcases bind_error h with h | ⟨given, edgesRead, h⟩
      · have stuck := mapM_eq_error_iff.mp h
        obtain ⟨edge, -, failed⟩ := stuck.exists_bad
        rcases edgeRelationship?_error failed with ⟨-, rfl⟩ | reported
        · refine .inl ⟨_, rfl, .edge reached items (stuck.imp fun e failed => ?_)⟩
          rcases edgeRelationship?_error failed with ⟨stumbles, -⟩ | ⟨_, reported⟩
          · exact stumbles
          · cases reported
        · exact .inr reported
      · refine (finish_error h).imp_left ?_
        rintro ⟨rfl, v, found, deep⟩
        have read := exists_mapM_eq_ok_iff.mp ⟨given, edgesRead⟩
        exact ⟨_, rfl, .dialect reached (.inr ⟨drawn, items, read⟩) found deep⟩

/-- Once the tables are read, what is left starts at the edges. -/
theorem stateOfMembers_of_reachesEdges {edges : Json} (h : ReachesEdges ms edges) :
    ∃ tables, stateOfMembers ms = (do
      let relationships ←
        match edges with
        | .null => pure (Relationship.derive tables)
        | edges => do
          let given ← (← edges.elements).mapM edgeRelationship?
          pure (Relationship.prune tables (given.filterMap id))
      let dialect ← dialectOf ((ms.get? "dialect").getD .null)
      return { tables, relationships, dialect }) := by
  obtain ⟨drafts, read, tables⟩ := h
  obtain ⟨ts, checked⟩ : ∃ ts, drafts.mapM (fun v => (Table.check v).orFail) = .ok ts := by
    refine exists_mapM_eq_ok_iff.mpr fun v hv => ?_
    obtain ⟨t, ht⟩ := tables v hv
    exact ⟨t, Checked.orFail_eq_ok_iff.mpr ht⟩
  refine ⟨ts, ?_⟩
  rw [stateOfMembers, read]
  change (drafts.mapM (fun v => (Table.check v).orFail) >>= _) = _
  rw [checked]
  rfl

theorem stateOfMembers_of_elements {edges : Json} {drawn : List Json} (h : ReachesEdges ms edges)
    (items : edges.elements = .ok drawn) :
    ∃ tables, stateOfMembers ms = (do
      let given ← drawn.mapM edgeRelationship?
      let dialect ← dialectOf ((ms.get? "dialect").getD .null)
      let relationships := Relationship.prune tables (given.filterMap id)
      return { tables, relationships, dialect }) := by
  obtain ⟨tables, rest⟩ := stateOfMembers_of_reachesEdges h
  refine ⟨tables, rest.trans ?_⟩
  cases edges with
  | null => cases items
  | _ =>
      simp only [items]
      rfl

theorem stateOfMembers_of_parts_error (h : parts ms = .error f) : stateOfMembers ms = .error f := by
  rw [stateOfMembers, h]
  rfl

theorem parts_of_node {v : Json} {nodes : List Json} (onCanvas : ms.get? "tables" = none)
    (found : ms.get? "nodes" = some v) (given : v.isGiven = true) (items : v.elements = .ok nodes)
    (stuck : RunsInto (fun n => ∃ t, nodeTable n = .ok t) (NodeStumbles · c) nodes) :
    parts ms = .error (.crash c) := by
  have failed := mapM_eq_error_iff.mpr (stuck.imp fun _ => nodeTable_crash_iff.mpr)
  rw [parts_on_canvas onCanvas, itemsOf, found, Option.getD_some, if_pos given, items]
  change (nodes.mapM nodeTable >>= _) = _
  rw [failed]
  rfl

theorem stateOfMembers_of_table {drafts : List Json} {edges : Json}
    (read : parts ms = .ok (drafts, edges))
    (stuck : RunsInto (fun v => ∃ t, Table.check v = .valid t)
      (fun v => ∃ t, v = .obj t ∧ Table.IsTooDeep t) drafts) :
    stateOfMembers ms = .error (.crash .tooDeep) := by
  have failed : drafts.mapM (fun v => (Table.check v).orFail) = .error (.crash .tooDeep) := by
    refine mapM_eq_error_iff.mpr (stuck.mono (fun v h => ?_) fun v deep => ?_)
    · exact h.imp fun _ => Checked.orFail_eq_ok_iff.mpr
    · rw [Table.check_eq_tooDeep_iff.mpr deep]
      rfl
  rw [stateOfMembers, read]
  change (drafts.mapM (fun v => (Table.check v).orFail) >>= _) = _
  rw [failed]
  rfl

theorem stateOfMembers_of_stumbles (h : Stumbles ms c) :
    stateOfMembers ms = .error (.crash c) := by
  cases h with
  | tables found given bare =>
      refine stateOfMembers_of_parts_error ?_
      rw [parts_of_tables found, itemsOf_error_iff.mpr ⟨⟨_, found, given, bare⟩, rfl⟩]
      rfl
  | nodes onCanvas found given bare =>
      refine stateOfMembers_of_parts_error ?_
      rw [parts_on_canvas onCanvas, itemsOf_error_iff.mpr ⟨⟨_, found, given, bare⟩, rfl⟩]
      rfl
  | node onCanvas found given items stuck =>
      exact stateOfMembers_of_parts_error (parts_of_node onCanvas found given items stuck)
  | table read stuck => exact stateOfMembers_of_table read stuck
  | @edges edges reached given bare =>
      obtain ⟨tables, rest⟩ := stateOfMembers_of_reachesEdges reached
      have failed := Json.elements_eq_error_iff.mpr ⟨bare, rfl⟩
      rw [rest]
      cases edges with
      | null => exact absurd rfl given
      | _ => simp [failed, bind, Except.bind]
  | edge reached items stuck =>
      obtain ⟨tables, rest⟩ := stateOfMembers_of_elements reached items
      rw [rest, mapM_eq_error_iff.mpr (stuck.imp fun _ => edgeRelationship?_of_stumbles)]
      rfl
  | dialect reached read found deep =>
      have failed := dialectOf_of_isTooDeep deep
      rcases read with rfl | ⟨drawn, items, read⟩
      · obtain ⟨tables, rest⟩ := stateOfMembers_of_reachesEdges reached
        rw [rest, found, Option.getD_some, failed]
        rfl
      · obtain ⟨tables, rest⟩ := stateOfMembers_of_elements reached items
        obtain ⟨given, edgesRead⟩ := exists_mapM_eq_ok_iff.mpr read
        rw [rest, edgesRead, found, Option.getD_some, failed]
        rfl

theorem ofJson_error {v : Json} (h : ofJson v = .error f) :
    (∃ fault, f = .snapshot fault) ∨ ∃ ms c, v = .obj ms ∧ Stumbles ms c ∧ f = .crash c := by
  cases v with
  | obj ms =>
      cases read : stateOfMembers ms with
      | ok s =>
          rw [ofJson, read] at h
          cases h
      | error e =>
          rw [ofJson, read] at h
          obtain rfl : failureOf e = f := Except.error.inj h
          rcases stateOfMembers_error read with ⟨c, rfl, stumbles⟩ | reported
          · exact .inr ⟨ms, c, rfl, stumbles, rfl⟩
          · exact .inl reported
  | _ => exact .inl ⟨_, (Except.error.inj h).symm⟩

theorem ofJson_of_stumbles (h : Stumbles ms c) : ofJson (.obj ms) = .error (.crash c) := by
  rw [ofJson, stateOfMembers_of_stumbles h]
  rfl

end SchemaGraph.Snapshot
