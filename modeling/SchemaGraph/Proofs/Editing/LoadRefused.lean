import SchemaGraph.Proofs.Editing.Entries
import SchemaGraph.Proofs.Editing.Refused

/-!
# What loading a schema is refused for

Loading reports what is found in its tables, columns and edges, and a dialect that is none, as a
refusal. The drafts of columns are taken apart before anything has checked them, and two values in
each are printed. If the drafts are of another kind, or one of them is, or what is printed is nested
too deep, loading fails as making columns does. The main statement says that it does so exactly if
such a table comes first, before any in which something is found.
-/

namespace SchemaGraph

open Decode

/-- What an object gives for the columns of a table. -/
def Table.columnsIn (ms : Members) : Json := (ms.get? "columns").getD .null

/-- An object makes a table once it has an id: the columns that it gives are columns, and its other
members can be read. -/
structure Table.IsDraft (ms : Members) : Prop where
  columns : (columnsIn ms).isGiven = true →
    ∃ drafts, (columnsIn ms).elements = .ok drafts ∧ ∀ draft ∈ drafts, draft.MakesColumn
  rest : ∃ t, ofMembersWith (fun _ => .valid []) (ms.putNew "id" (.str "")) = .valid t

namespace Editing

/-- How making the columns of a table fails, but for what is found in them: they have no items, or
one of them cannot be made, after others that can. -/
inductive ColumnsStumble (columns : Json) : Failure → Prop
  | columns (given : columns.isGiven = true) (bare : columns.hasItems = false) :
    ColumnsStumble columns (.crash .wrongKind)
  | column {drafts : List Json} {f : Failure} (given : columns.isGiven = true)
      (items : columns.elements = .ok drafts)
      (stuck : RunsInto Json.MakesColumn (·.ResistsColumn f) drafts) : ColumnsStumble columns f

/-- The tables run into one whose columns cannot be made. -/
def LoadStumbles (tables : List Members) (f : Failure) : Prop :=
  RunsInto Table.IsDraft (fun ms => ColumnsStumble (Table.columnsIn ms) f) tables

/-- How placing tables fails: there are no settings for it, or a row is out of reach. -/
inductive PlacingFails (layout : Except Failure (Layout.Settings Float))
    (tables : List (Table Float)) : Failure → Prop
  | settings {f : Failure} (broken : layout = .error f) : PlacingFails layout tables f
  | row (far : ¬ Layout.RowsInReach tables) : PlacingFails layout tables (.crash .noKey)

/-- Tables given as objects, with edges in a list or none at all, and the name of a dialect. -/
def Source.ofObjects (tables : List Members) (edges : Option (List Json)) (dialect : String)
    (shouldLayout : Json) : Source where
  tables := .arr (tables.map .obj)
  relationships := .ofOption .arr edges
  dialect := .str dialect
  shouldLayout := shouldLayout

variable {columns : Json} {tables : List Members} {edges : Option (List Json)} {f : Failure}
  {layout : Except Failure (Layout.Settings Float)}

theorem columnsStumble_iff : ColumnsStumble columns f ↔ columns.isGiven = true ∧
    (columns.elements = .error f ∨ ∃ drafts, columns.elements = .ok drafts ∧
      RunsInto Json.MakesColumn (·.ResistsColumn f) drafts) := by
  constructor
  · rintro (⟨given, bare⟩ | ⟨given, items, stuck⟩)
    · exact ⟨given, .inl (Json.elements_eq_error_iff.mpr ⟨bare, rfl⟩)⟩
    · exact ⟨given, .inr ⟨_, items, stuck⟩⟩
  · rintro ⟨given, failed | ⟨drafts, items, stuck⟩⟩
    · obtain ⟨bare, rfl⟩ := Json.elements_eq_error_iff.mp failed
      exact .columns given bare
    · exact .column given items stuck

theorem ColumnsStumble.failure (h : ColumnsStumble columns f) :
    f = .crash .wrongKind ∨ (∃ fault, f = .value fault) ∨ f = .crash .tooDeep := by
  cases h with
  | columns => exact .inl rfl
  | column given items stuck =>
      obtain ⟨draft, -, failed | deep⟩ := stuck.exists_bad
      · rcases Json.entries_error failed with ⟨c, rfl⟩ | wrong
        · exact .inl (congrArg Failure.crash (Json.entries_crash_iff.mp failed).2)
        · exact .inr (.inl wrong)
      · exact .inr (.inr rfl)

theorem LoadStumbles.failure (h : LoadStumbles tables f) :
    f = .crash .wrongKind ∨ (∃ fault, f = .value fault) ∨ f = .crash .tooDeep := by
  obtain ⟨ms, -, stumbles⟩ := h.exists_bad
  exact stumbles.failure

theorem tableOf_isDecided (ms : Members) :
    (tableOf (.obj ms)).IsDecided (Table.IsDraft ms) (ColumnsStumble (Table.columnsIn ms)) := by
  have others (columns : List Column) (id : String) : Edit.IsDecided
      (Table.ofMembersWith (fun _ => .valid columns) (ms.putNew "id" (.str id))).orFail
      (∃ t, Table.ofMembersWith (fun _ => .valid []) (ms.putNew "id" (.str "")) = .valid t)
      fun _ => False :=
    (Edit.IsDecided.check _).congr ⟨fun h => Table.exists_ofMembersWith_putNew h "" [],
      fun h => Table.exists_ofMembersWith_putNew h id columns⟩
      fun f => by simp [Table.ofMembersWith_eq_tooDeep_iff]
  refine Edit.IsDecided.bind_known (Json.entries_obj ms) (Edit.IsDecided.bind_freshId fun id => ?_)
  have there : ((ms.putNew "id" (.str id)).get? "columns").getD .null = Table.columnsIn ms := by
    rw [Members.get?_putNew_of_ne ms _ (by decide), Table.columnsIn]
  dsimp only
  rw [there]
  split
  · rename_i given
    refine ((columnsOf_isDecided _).bind fun columns => others columns id).congr
      ⟨fun h => ⟨fun _ => h.1, h.2⟩, fun draft => ⟨draft.columns given, draft.rest⟩⟩ fun f => ?_
    simp [columnsStumble_iff, given]
  · rename_i bare
    refine (Edit.IsDecided.pure.bind fun columns => others columns id).congr
      ⟨fun h => ⟨fun given => absurd given bare, h.2⟩, fun draft => ⟨trivial, draft.rest⟩⟩
      fun f => ?_
    simp [columnsStumble_iff, bare]

/-- Nothing but findings comes from edges that are in a list. -/
theorem relationshipsOf_error (h : relationshipsOf (.ofOption .arr edges) = .error f) :
    f.IsFinding := by
  cases edges with
  | none => cases h
  | some items =>
      rcases bind_error h with h | ⟨_, ⟨⟩, h⟩
      · cases h
      rcases bind_error h with h | ⟨_, -, h⟩
      · obtain ⟨v, -, failed⟩ := (mapM_eq_error_iff.mp h).exists_bad
        exact Checked.orFail_finds (Relationship.check_ne_tooDeep v) failed
      · cases h

theorem draftsOf_isDecided (tables : List Members) (edges : Option (List Json)) (dialect : String)
    (shouldLayout : Json) :
    (draftsOf (.ofObjects tables edges dialect shouldLayout)).IsDecided
      ((∀ ms ∈ tables, Table.IsDraft ms) ∧
        ∃ given, relationshipsOf (.ofOption .arr edges) = .ok given) (LoadStumbles tables) := by
  refine Edit.IsDecided.bind_known rfl ?_
  rw [List.mapM_map]
  refine ((Edit.IsDecided.mapM tableOf_isDecided tables).bind fun _ =>
    (Edit.IsDecided.lift fun _ => relationshipsOf_error).bind fun _ => Edit.IsDecided.pure).congr
      (by simp) fun f => by simp [LoadStumbles]

theorem dialectOf_refuses (operation dialect : String) :
    OnlyRefuses (dialectOf operation (.str dialect)) := by
  unfold dialectOf
  split
  · exact OnlyRefuses.ok _
  · exact refuse_refuses _ _

theorem autoLayout_error {s : State Float} (h : autoLayout layout s = .error f) :
    PlacingFails layout s.tables f := by
  cases layout with
  | ok settings =>
      obtain ⟨rfl, far⟩ := autoLayout_fails h
      exact .row far
  | error e =>
      unfold autoLayout at h
      split at h
      · cases h
      · exact .settings (congrArg Except.error (Except.error.inj h))

theorem assemble_error {drafted : List (Table Float)} {given : Option (List Relationship)}
    {source : Source} {dialect : String} (named : source.dialect = .str dialect)
    (h : assemble layout drafted given source = .error f) :
    f.IsRefusal ∨ PlacingFails layout drafted f := by
  rcases bind_error h with h | ⟨dialect, -, h⟩
  · rw [named] at h
    exact .inl (dialectOf_refuses _ _ f h)
  · have placed (s : State Float) (wanted : Bool)
        (h : (if wanted then autoLayout layout s else pure s) = .error f) :
        PlacingFails layout s.tables f := by
      split at h
      · exact autoLayout_error h
      · cases h
    exact .inr (placed _ _ h)

/-- Reporting findings leaves the other failures as they are. -/
theorem loadFailure_of_stumbles (h : LoadStumbles tables f) : loadFailure f = f := by
  rcases h.failure with rfl | ⟨fault, rfl⟩ | rfl <;> rfl

/-- What is drafted fails with the failure that is reported of it. -/
theorem fst_runOn_adapt (source : Source) (supply : Supply) :
    (Edit.runOn (ExceptT.adapt loadFailure (draftsOf source)) supply).1 =
      ((draftsOf source).runOn supply).1.mapError loadFailure := rfl

theorem draftsOf_failsOnly (tables : List Members) (edges : Option (List Json)) (dialect : String)
    (shouldLayout : Json) (supply : Supply) :
    Edit.FailsOnly (ExceptT.adapt loadFailure
        (draftsOf (Source.ofObjects tables edges dialect shouldLayout))) supply fun f =>
      f.IsRefusal ∨ LoadStumbles tables f := by
  intro f failed
  rw [fst_runOn_adapt] at failed
  cases outcome : ((draftsOf (Source.ofObjects tables edges dialect shouldLayout)).runOn supply).1
    with
  | ok parts =>
      rw [outcome] at failed
      cases failed
  | error e =>
      rw [outcome] at failed
      obtain rfl : loadFailure e = f := Except.error.inj failed
      have decided := draftsOf_isDecided tables edges dialect shouldLayout
      rcases decided.failsOnly supply e outcome with stumbles | ⟨found, rfl⟩
      · rw [loadFailure_of_stumbles stumbles]
        exact .inr stumbles
      · exact .inl ⟨_, rfl⟩

theorem loadSchema_of_stumbles (h : LoadStumbles tables f)
    (layout : Except Failure (Layout.Settings Float)) (edges : Option (List Json))
    (dialect : String) (shouldLayout : Json) (supply : Supply) :
    ((loadSchema layout (Source.ofObjects tables edges dialect shouldLayout)).runOn supply).1 =
      .error f := by
  have decided := draftsOf_isDecided tables edges dialect shouldLayout
  refine Edit.runOn_bind_error ?_
  rw [fst_runOn_adapt, decided.fails f h supply, Except.mapError, loadFailure_of_stumbles h]

/-- Whatever the tables, the edges and the dialect are, a load that fails is refused, but for two
cases. The tables run into one whose columns cannot be made, and the load then fails with an error
of type, of value or of recursion, always. Or placing the tables fails. -/
theorem loadSchema_refused_or_stumbles (layout : Except Failure (Layout.Settings Float))
    (tables : List Members) (edges : Option (List Json)) (dialect : String) (shouldLayout : Json)
    (supply : Supply) :
    let source := Source.ofObjects tables edges dialect shouldLayout
    (∀ f, ((loadSchema layout source).runOn supply).1 = .error f →
      f.IsRefusal ∨ LoadStumbles tables f ∨ ∃ drafted given,
        ((draftsOf source).runOn supply).1 = .ok (drafted, given) ∧
          PlacingFails layout drafted f) ∧
    ∀ f, LoadStumbles tables f → ((loadSchema layout source).runOn supply).1 = .error f ∧
      (f.kind = "TypeError" ∨ f.kind = "ValueError" ∨ f.kind = "RecursionError") := by
  intro source
  constructor
  · refine Edit.FailsOnly.bind ((draftsOf_failsOnly tables edges dialect shouldLayout supply).mono
      fun f h => h.imp_right .inl) fun parts rest run => ?_
    have drafted : ((draftsOf source).runOn supply).1 = .ok parts :=
      mapError_ok ((fst_runOn_adapt source supply).symm.trans (congrArg Prod.fst run))
    refine Edit.FailsOnly.lift fun f failed =>
      (assemble_error rfl failed).imp_right fun fails => ?_
    exact .inr ⟨parts.1, parts.2, drafted, fails⟩
  · intro f stumbles
    refine ⟨loadSchema_of_stumbles stumbles layout edges dialect shouldLayout supply, ?_⟩
    rcases stumbles.failure with rfl | ⟨fault, rfl⟩ | rfl
    · exact .inl rfl
    · exact .inr (.inl rfl)
    · exact .inr (.inr rfl)

/-- A table whose columns are a number. -/
def numberedColumns : Members := [("id", .str "t"), ("name", .str "users"), ("columns", .int 5)]

/-- So not every load that fails is refused, under the settings that are shipped. -/
theorem not_loadSchema_refused_numberedColumns :
    let settings := Config.Settings.ofFile ⟨"config.yaml", .document Config.shipped⟩
    let source := Source.ofObjects [numberedColumns] none "PostgreSQL" .null
    ¬ ∀ f, ((loadSchema settings.layoutSettings source).runOn { idAt := fun _ => "c1" }).1 =
      .error f → f.IsRefusal := by
  intro settings source refused
  obtain ⟨e, h⟩ := refused _ rfl
  cases h

end Editing
end SchemaGraph
