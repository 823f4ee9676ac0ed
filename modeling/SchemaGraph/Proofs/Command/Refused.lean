import SchemaGraph.Proofs.Editing.Refused

/-!
# What commands are refused for

A document that is no command is refused, and a command fails as its edit does. So apart from
refusals there are the failures that edits have: those for a column of a new table and for a row
that is out of reach. All of this is under settings without faults.
-/

namespace SchemaGraph.Command

open Decode Editing

variable {ms : Members} {c : Command}

/-- The fields of a command print nothing; the columns of a new table are kept as they are. -/
theorem shape?_ne_tooDeep {kind : String} {shape : List String × (Members → Checked Command)}
    (h : shape? kind = some shape) (ms : Members) : shape.2 ms ≠ .tooDeep := by
  have texts (v : Json) : nullable text v ≠ .tooDeep := nullable_ne_tooDeep text_ne_tooDeep v
  have flags (v : Json) : nullable flag v ≠ .tooDeep := nullable_ne_tooDeep flag_ne_tooDeep v
  have references (v : Json) : nullable ColumnReference.check v ≠ .tooDeep :=
    nullable_ne_tooDeep (record_ne_tooDeep ColumnReference.ofMembers_ne_tooDeep) v
  have positions (v : Json) : nullable positionForm v ≠ .tooDeep :=
    nullable_ne_tooDeep (record_ne_tooDeep fun ms => by simp [sent_eq_tooDeep_iff]) v
  have columns (v : Json) : nullable (list mapping) v ≠ .tooDeep := by
    refine nullable_ne_tooDeep (fun v => ?_) v
    have mapping_ne (v : Json) : mapping v ≠ .tooDeep := by cases v <;> simp [mapping]
    cases v <;> simp [list, checkFrom_eq_tooDeep_iff, mapping_ne]
  unfold shape? at h
  split at h
  all_goals
    cases h
    try simp [needed, sentText, sentFlag, sentPosition, sentReference, NewTable.ofMembers,
      TableForm.ofMembers, NewColumn.ofMembers, ColumnForm.ofMembers, NewRelationship.ofMembers,
      NewRelationship.ofEnds, RelationshipForm.ofMembers, required_eq_tooDeep_iff,
      sent_eq_tooDeep_iff, texts, flags, references, positions, columns]

theorem ofMembers_ne_tooDeep (ms : Members) : ofMembers ms ≠ .tooDeep := by
  unfold ofMembers
  split
  · simp
  · split
    · simp
    · rename_i known
      obtain ⟨kind, -, shape⟩ := Option.bind_eq_some_iff.mp known
      simpa using shape?_ne_tooDeep shape ms

theorem parse_obj (ms : Members) :
    parse (.obj ms) =
      match ofMembers ms with
      | .valid c => .ok c
      | .invalid found => .error (invalid ms found)
      | .tooDeep => .error (.crash .tooDeep) := by
  simp only [parse, Json.entries_obj, bind, Except.bind]
  cases ofMembers ms <;> rfl

theorem parse_refuses (ms : Members) : OnlyRefuses (parse (.obj ms)) := by
  rw [parse_obj]
  cases read : ofMembers ms with
  | valid c => exact OnlyRefuses.ok c
  | invalid found => exact OnlyRefuses.refuse _
  | tooDeep => exact absurd read (ofMembers_ne_tooDeep ms)

theorem parse_eq_ok_iff : parse (.obj ms) = .ok c ↔ ofMembers ms = .valid c := by
  rw [parse_obj]
  cases ofMembers ms <;> simp

/-- The failures of commands that are no refusals. -/
inductive Escapes (s : State Float) (supply : Supply) : Command → Failure → Prop
  /-- A table is added with a column that is none, and its id is free. -/
  | column {form : NewTable} {f : Failure}
      (free : (s.table? (supply.idFor form.id.join)).isSome = false)
      (fails : ColumnFails form.drafts f) : Escapes s supply (.addTable form) f
  /-- A schema is laid out with more columns in a table than there are coordinates. -/
  | layout (far : ¬ Layout.RowsInReach s.tables) : Escapes s supply .autoLayout (.crash .noKey)

/-- Settings without faults in the sections that commands read. -/
structure AreConfigured (settings : Config.Settings) : Prop where
  editing : ∃ defaults, settings.editing = .ok defaults
  layout : ∃ form, settings.layout = .ok form

variable {settings : Config.Settings}

theorem apply_failsOnly (configured : AreConfigured settings) (c : Command) (s : State Float)
    (supply : Supply) :
    (c.apply settings s).FailsOnly supply fun f => f.IsRefusal ∨ Escapes s supply c f := by
  obtain ⟨defaults, editing⟩ := configured.editing
  have refused {e : Edit (State Float)} (h : e.FailsOnly supply Failure.IsRefusal) :
      e.FailsOnly supply fun f => f.IsRefusal ∨ Escapes s supply c f :=
    h.mono fun f hf => .inl hf
  cases c with
  | addTable form =>
      refine (addTable_failsOnly editing form s supply).mono fun f hf => ?_
      rcases hf with ⟨-, hf⟩ | ⟨free, fails⟩
      · exact .inl hf
      · exact .inr (.column free fails)
  | renameTable table name =>
      exact refused (Edit.FailsOnly.lift (updateTable_refuses _ (by simp) s))
  | updateTable table form =>
      exact refused (Edit.FailsOnly.lift (updateTable_refuses _ form.change_ne_tooDeep s))
  | removeTable table => exact refused (Edit.FailsOnly.lift (removeTable_refuses table s))
  | addColumn table form => exact refused (addColumn_refuses editing table form s supply)
  | updateColumn table column form =>
      exact refused (Edit.FailsOnly.lift (updateColumn_refuses _ _ form.change_ne_tooDeep s))
  | removeColumn table column =>
      exact refused (Edit.FailsOnly.lift (removeColumn_refuses table column s))
  | addRelationship form => exact refused (addRelationship_refuses form s supply)
  | connectColumns form => exact refused (connectColumns_refuses form s supply)
  | updateRelationship relationship form =>
      exact refused (Edit.FailsOnly.lift (updateRelationship_refuses _ form.change_ne_tooDeep s))
  | removeRelationship relationship =>
      exact refused (Edit.FailsOnly.lift (removeRelationship_refuses relationship s))
  | setDialect dialect => exact Edit.FailsOnly.pure
  | autoLayout =>
      refine Edit.FailsOnly.lift fun f h => .inr ?_
      obtain ⟨form, layout⟩ := configured.layout
      rw [Config.Settings.layoutSettings, layout] at h
      obtain ⟨rfl, far⟩ := autoLayout_fails h
      exact .layout far

/-- The failures of documents of commands that are no refusals. -/
def DocumentEscapes (ms : Members) (s : State Float) (supply : Supply) (f : Failure) : Prop :=
  ∃ c, ofMembers ms = .valid c ∧ Escapes s supply c f

theorem applyDocument_failsOnly (configured : AreConfigured settings) (ms : Members)
    (s : State Float) (supply : Supply) :
    (applyDocument settings (.obj ms) s).FailsOnly supply fun f =>
      f.IsRefusal ∨ DocumentEscapes ms s supply f := by
  refine Edit.FailsOnly.bind_lift (fun f h => .inl (parse_refuses ms f h)) fun c read => ?_
  refine (apply_failsOnly configured c s supply).mono fun f hf => ?_
  exact hf.imp_right fun escapes => ⟨c, parse_eq_ok_iff.mp read, escapes⟩

theorem runOn_applyDocument (read : ofMembers ms = .valid c) (s : State Float) (supply : Supply) :
    (applyDocument settings (.obj ms) s).runOn supply = (c.apply settings s).runOn supply := by
  unfold applyDocument
  rw [parse_eq_ok_iff.mpr read]
  rfl

end SchemaGraph.Command
