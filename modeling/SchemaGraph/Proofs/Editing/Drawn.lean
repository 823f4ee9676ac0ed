import SchemaGraph.Proofs.Editing.Draft
import SchemaGraph.Proofs.Editing.Load

/-!
# Where ids come from

The id of a new table or column is the one that its draft gives, or else the next one that is drawn.
A draft draws an id in any case, and ids are drawn in the order of the drafts, so that the ids of
what is read are known from the drafts and the supply before anything is checked. They are computed
here by programs that only draw. An edit follows such a program if, whenever it succeeds, it has
drawn the same ids and its value has the key that the program computes.
-/

namespace SchemaGraph

open Decode

/-- The ids of tables and, with each of them, the ids of its columns. -/
abbrev Outline := List (String × List String)

namespace Edit

variable {ι α β γ δ : Type}

/-- Successes of an edit draw what a program draws, and have the key that it computes. -/
def Follows (e : Edit α) (key : α → γ) (program : StateM Supply γ) : Prop :=
  ∀ supply a rest, e.runOn supply = (.ok a, rest) → program.run supply = (key a, rest)

namespace Follows

variable {e : Edit α} {f : α → Edit β} {key : α → γ} {key' : β → δ} {program : StateM Supply γ}

theorem pure (a : α) (key : α → γ) : (pure a : Edit α).Follows key (Pure.pure (key a)) := by
  intro supply b rest h
  cases h
  rfl

theorem lift {x : Except Failure α} {k : γ} (h : ∀ a, x = .ok a → key a = k) :
    (liftM x : Edit α).Follows key (Pure.pure k) := by
  intro supply a rest ha
  obtain ⟨success, rfl⟩ := Prod.mk.inj ha
  rw [h a success]
  rfl

theorem freshId : Edit.freshId.Follows (fun id => id) Supply.draw := by
  intro supply id rest h
  cases h
  rfl

theorem bind {next : γ → StateM Supply δ} (first : e.Follows key program)
    (second : ∀ a, (f a).Follows key' (next (key a))) :
    (e >>= f).Follows key' (program >>= next) := by
  intro supply b rest h
  rw [runOn_bind] at h
  rcases he : e.runOn supply with ⟨_ | a, middle⟩
  · rw [he] at h
    cases h
  · rw [he] at h
    rw [StateT.run_bind, first supply a middle he]
    exact second a middle b rest h

/-- A step that draws nothing. -/
theorem bind_lift {x : Except Failure α} {program : StateM Supply δ}
    (second : ∀ a, x = .ok a → (f a).Follows key' program) :
    (liftM x >>= f).Follows key' program := by
  intro supply b rest h
  cases hx : x with
  | error failure =>
      rw [runOn_bind, runOn_lift, hx] at h
      cases h
  | ok a =>
      rw [runOn_bind, runOn_lift, hx] at h
      exact second a hx supply b rest h

theorem mapM {f : ι → Edit α} {program : ι → StateM Supply γ}
    (step : ∀ i, (f i).Follows key (program i)) (is : List ι) :
    (is.mapM f).Follows (·.map key) (is.mapM program) := by
  induction is with
  | nil => exact pure [] _
  | cons i is ih =>
      rw [List.mapM_cons, List.mapM_cons]
      exact bind (step i) fun a => bind ih fun rest => pure (a :: rest) (·.map key)

theorem adapt (h : e.Follows key program) (report : Failure → Failure) :
    Edit.Follows (ExceptT.adapt report e) key program := by
  intro supply a rest ha
  change ((e.runOn supply).1.mapError report, (e.runOn supply).2) = (.ok a, rest) at ha
  obtain ⟨success, rfl⟩ := Prod.mk.inj ha
  exact h supply a _ (Prod.ext (mapError_ok success) rfl)

end Follows
end Edit

namespace Json

/-- The items of a value, if it has any. -/
def items (v : Json) : List Json := v.elements.toOption.getD []

/-- The members that a value stands for, if it stands for any. -/
def members (v : Json) : Members := v.entries.toOption.getD []

/-- The id that a draft gives, or the one that was drawn for it. -/
def idOr (v : Json) (fresh : String) : String := ((v.members.get? "id").getD (.str fresh)).text

/-- The drafts of the columns in the draft of a table. -/
def columnDrafts (v : Json) : List Json := ((v.members.get? "columns").getD .null).items

/-- The id of what a draft is a draft of. -/
def idOf (v : Json) : StateM Supply String := do
  return v.idOr (← Supply.draw)

/-- The id of the table that a draft is a draft of, with those of its columns. -/
def outlineOf (v : Json) : StateM Supply (String × List String) := do
  let fresh ← Supply.draw
  let columns ← v.columnDrafts.mapM idOf
  return (v.idOr fresh, columns)

/-- The ids in the document of a table, if it gives all of them. -/
def givenOutline (v : Json) : String × List String :=
  (v.idOr "", v.columnDrafts.map (·.idOr ""))

end Json

variable {ms : Members} {v : Json}

namespace Json

theorem items_of_ok {items : List Json} (h : v.elements = .ok items) : v.items = items := by
  rw [Json.items, h]
  rfl

theorem members_of_ok (h : v.entries = .ok ms) : v.members = ms := by
  rw [members, h]
  rfl

/-- An id that was put among the members of a draft is there only if the draft gives none. -/
theorem idOr_of_putNew {fresh id : String} (read : v.entries = .ok ms)
    (h : (ms.putNew "id" (.str fresh)).get? "id" = some (.str id)) : v.idOr fresh = id := by
  rw [Members.get?_putNew_self] at h
  rw [idOr, members_of_ok read, Option.some.inj h, text_str]

theorem idOr_of_get? {id : String} (read : v.entries = .ok ms)
    (h : ms.get? "id" = some (.str id)) (fresh : String) : v.idOr fresh = id := by
  rw [idOr, members_of_ok read, h, Option.getD_some, text_str]

/-- What stands for nothing has no items. -/
theorem items_of_not_isGiven (h : ¬ v.isGiven = true) : v.items = [] := by
  cases v with
  | str s =>
      have empty : s = "" := by simpa [isGiven] using h
      rw [empty]
      rfl
  | arr items =>
      have empty : items = [] := by simpa [isGiven] using h
      rw [empty]
      rfl
  | obj ms =>
      have empty : ms = [] := by simpa [isGiven] using h
      rw [empty]
      rfl
  | _ => rfl

end Json

theorem Table.of_check {columns : Members → Checked (List Column)} {t : Table Float}
    (h : Table.ofMembersWith columns ms = .valid t) :
    ms.get? "id" = some (.str t.id) ∧ columns ms = .valid t.columns := by
  simp only [Table.ofMembersWith, Checked.seq_eq_valid_iff, Checked.fmap_eq_valid_iff] at h
  obtain ⟨_, _, ⟨_, _, ⟨_, _, ⟨_, _, ⟨_, _, ⟨_, hid, rfl⟩, _, rfl⟩, hcolumns, rfl⟩, _, rfl⟩, _,
    rfl⟩, _, rfl⟩ := h
  exact ⟨get?_of_required hid, hcolumns⟩

theorem Column.idOr_of_check {c : Column} (h : Column.check v = .valid c) (fresh : String) :
    v.idOr fresh = c.id := by
  cases v with
  | obj ms => exact Json.idOr_of_get? rfl (get?_id_of_check h) fresh
  | _ => cases h

theorem Table.givenOutline_of_check {t : Table Float} (h : Table.check v = .valid t) :
    t.outline = v.givenOutline := by
  cases v with
  | obj ms =>
      obtain ⟨hid, hcolumns⟩ := of_check h
      rw [Json.givenOutline, Table.outline, Json.idOr_of_get? rfl hid]
      refine congrArg (t.id, ·) ?_
      rw [Json.columnDrafts, Json.members_of_ok (Json.entries_obj ms)]
      rcases of_optional hcolumns with ⟨absent, none⟩ | ⟨w, found, read⟩
      · rw [absent, none]
        rfl
      · rw [found]
        cases w with
        | arr items =>
            exact map_eq_of_checkFrom (fun _ _ hc => (Column.idOr_of_check hc "").symm) read
        | _ => cases read
  | _ => cases h

theorem Table.map_outline_of_checks {items : List Json} {tables : List (Table Float)}
    (h : items.mapM (fun v => (Table.check v).orFail) = .ok tables) :
    tables.map outline = items.map Json.givenOutline :=
  map_eq_of_mapM_ok (fun _ _ ht => givenOutline_of_check (Checked.orFail_eq_ok_iff.mp ht)) h

namespace Editing

open Edit

theorem columnOf_follows (v : Json) : (columnOf v).Follows (·.id) v.idOf := by
  refine Follows.bind_lift fun ms read => ?_
  refine Follows.bind Follows.freshId fun id => Follows.lift fun c checked => ?_
  have there := Column.get?_id_of_check (Checked.orFail_eq_ok_iff.mp checked)
  exact (Json.idOr_of_putNew read there).symm

theorem columnsOf_follows (v : Json) :
    (columnsOf v).Follows (·.map (·.id)) (v.items.mapM Json.idOf) := by
  refine Follows.bind_lift fun items read => ?_
  rw [Json.items_of_ok read]
  exact Follows.mapM columnOf_follows items

theorem tableOf_follows (v : Json) : (tableOf v).Follows Table.outline v.outlineOf := by
  refine Follows.bind_lift fun ms read => ?_
  refine Follows.bind Follows.freshId fun id => ?_
  have drafts : ((ms.putNew "id" (.str id)).get? "columns").getD .null =
      (v.members.get? "columns").getD .null := by
    rw [Members.get?_putNew_of_ne ms _ (by decide), Json.members_of_ok read]
  have finish (columns : List Column) : Edit.Follows
      (liftM (Table.ofMembersWith (fun _ => .valid columns) (ms.putNew "id" (.str id))).orFail)
      Table.outline (pure (v.idOr id, columns.map (·.id))) := by
    refine Follows.lift fun t checked => ?_
    obtain ⟨there, same⟩ := Table.of_check (Checked.orFail_eq_ok_iff.mp checked)
    cases same
    rw [Json.idOr_of_putNew read there, Table.outline]
  dsimp only
  rw [drafts, Json.columnDrafts]
  split
  · exact Follows.bind (columnsOf_follows _) finish
  · rename_i bare
    rw [Json.items_of_not_isGiven bare]
    exact Follows.bind (Follows.pure [] _) finish

/-- The ids of the columns that a new table comes with. -/
def TableDraft.columnIds (d : TableDraft) : StateM Supply (List String) :=
  match d.columns with
  | .null => do return [← Supply.draw]
  | drafts => drafts.items.mapM Json.idOf

/-- The id that a new table gets. -/
def TableDraft.tableId (d : TableDraft) : StateM Supply String :=
  if d.id.isGiven then pure d.id.text else Supply.draw

/-- The id that a new table gets, and those of its columns. -/
def TableDraft.outline (d : TableDraft) : StateM Supply (String × List String) := do
  let id ← d.tableId
  let columns ← d.columnIds
  return (id, columns)

theorem tableId_follows (d : TableDraft) : (givenId d.id).Follows Json.text d.tableId := by
  unfold givenId TableDraft.tableId
  split
  · exact Follows.pure d.id _
  · intro supply id rest h
    cases h
    rfl

theorem newColumns_follows (d : TableDraft) : d.newColumns.Follows (·.map (·.id)) d.columnIds := by
  unfold TableDraft.newColumns TableDraft.columnIds
  cases d.columns with
  | null => exact Follows.bind Follows.freshId fun id => Follows.pure [keyColumn id] (·.map (·.id))
  | _ => exact columnsOf_follows _

theorem TableDraft.outline_of_build {d : TableDraft} {id : Json} {name : String}
    {columns : List Column} {position : Position Float} {t : Table Float}
    (h : d.build id name columns position = .valid t) :
    t.outline = (id.text, columns.map (·.id)) := by
  rw [id_of_build h]
  simp only [build, Checked.seq_eq_valid_iff, Checked.fmap_eq_valid_iff] at h
  obtain ⟨_, _, ⟨_, _, ⟨_, _, ⟨_, _, ⟨_, _, ⟨_, _, rfl⟩, _, rfl⟩, same, rfl⟩, _, rfl⟩, _, rfl⟩, _,
    rfl⟩ := h
  cases same
  rfl

/-- A table is added with the ids of its draft. -/
theorem addTable_follows (settings : Config.Settings) (d : TableDraft) (s : State Float) :
    (addTable settings d s).Follows (·.tables.map Table.outline)
      (do return s.tables.map Table.outline ++ [← d.outline]) := by
  refine Follows.bind_lift fun defaults _ => ?_
  refine Follows.bind_lift fun base _ => ?_
  rw [TableDraft.outline, bind_assoc]
  refine Follows.bind (tableId_follows d) fun id => ?_
  rw [bind_assoc]
  split
  · exact fun _ _ _ h => by cases h
  · refine Follows.bind (newColumns_follows d) fun columns => ?_
    refine Follows.bind_lift fun position _ => ?_
    refine Follows.bind_lift fun t built => ?_
    rw [pure_bind, ← TableDraft.outline_of_build (Checked.orFail_eq_ok_iff.mp built)]
    have added : (s.tables ++ [t]).map Table.outline = s.tables.map Table.outline ++ [t.outline] :=
      List.map_append
    rw [← added]
    exact Follows.pure { s with tables := s.tables ++ [t] } (·.tables.map Table.outline)

/-- Putting a schema together changes no id. -/
theorem outline_of_assemble {layout : Except Failure (Layout.Settings Float)} {source : Source}
    {s : State Float} {tables : List (Table Float)} {given : Option (List Relationship)}
    (h : assemble layout tables given source = .ok s) :
    s.tables.map Table.outline = tables.map Table.outline :=
  (map_eq_map_iff.mpr ((assemble_ok h).1.imp fun _ _ moved => moved.outline_eq.symm)).symm

theorem loadSchema_follows (layout : Except Failure (Layout.Settings Float)) (source : Source) :
    (loadSchema layout source).Follows (·.tables.map Table.outline)
      (source.tables.items.mapM Json.outlineOf) := by
  have read : (draftsOf source).Follows (·.1.map Table.outline)
      (source.tables.items.mapM Json.outlineOf) := by
    refine Follows.bind_lift fun items read => ?_
    rw [Json.items_of_ok read, ← bind_pure (items.mapM Json.outlineOf)]
    refine Follows.bind (Follows.mapM tableOf_follows items) fun tables => ?_
    exact Follows.bind_lift fun given _ => Follows.pure (tables, given) (·.1.map Table.outline)
  rw [← bind_pure (source.tables.items.mapM Json.outlineOf)]
  exact Follows.bind (read.adapt loadFailure) fun parts =>
    Follows.lift fun s assembled => outline_of_assemble assembled

theorem outline_of_loadChecked {layout : Except Failure (Layout.Settings Float)} {source : Source}
    {s : State Float} (h : loadChecked layout source = .ok s) :
    s.tables.map Table.outline = source.tables.items.map Json.givenOutline := by
  obtain ⟨items, read, h⟩ := bind_ok h
  obtain ⟨tables, checked, h⟩ := bind_ok h
  obtain ⟨given, -, h⟩ := bind_ok h
  rw [outline_of_assemble h, Json.items_of_ok read]
  exact Table.map_outline_of_checks checked

end Editing

/-- What a schema comes from: nothing, drafts, tables that were checked beforehand, or a snapshot in
either shape. -/
inductive Origin where
  | empty (dialect : Dialect)
  | drafts (layout : Except Failure (Layout.Settings Float)) (source : Editing.Source)
    (supply : Supply)
  | checked (layout : Except Failure (Layout.Settings Float)) (source : Editing.Source)
  | snapshot (document : Json)

namespace Origin

def load : Origin → Except Failure (State Float)
  | empty dialect => .ok { dialect }
  | drafts layout source supply => ((Editing.loadSchema layout source).runOn supply).1
  | checked layout source => Editing.loadChecked layout source
  | snapshot document => Snapshot.ofJson document

/-- The ids that come from an origin, given or drawn. -/
def outline : Origin → Outline
  | empty _ => []
  | drafts _ source supply => ((source.tables.items.mapM Json.outlineOf).run supply).1
  | checked _ source => source.tables.items.map Json.givenOutline
  | snapshot document =>
    match Snapshot.parts document.members with
    | .ok (tables, _) => tables.map Json.givenOutline
    | .error _ => []

/-- Nothing that happens while a schema is loaded changes an id. -/
theorem outline_load {o : Origin} {s : State Float} (h : o.load = .ok s) :
    s.tables.map Table.outline = o.outline := by
  cases o with
  | empty dialect =>
      cases h
      rfl
  | drafts layout source supply =>
      rcases run : (Editing.loadSchema layout source).runOn supply with ⟨outcome, rest⟩
      rw [load, run] at h
      cases h
      rw [outline, Editing.loadSchema_follows layout source supply s rest run]
  | checked layout source => exact Editing.outline_of_loadChecked h
  | snapshot document =>
      cases document with
      | obj ms =>
          obtain ⟨⟨items, edges⟩, parts, -⟩ := bind_ok (mapError_ok h)
          obtain ⟨-, checked, -⟩ := Snapshot.ofJson_ok parts h
          rw [outline, Json.members_of_ok (Json.entries_obj ms), parts]
          exact Table.map_outline_of_checks checked
      | _ => cases h

end Origin

end SchemaGraph
