import SchemaGraph.Proofs.Service.Answers
import SchemaGraph.Proofs.Snapshot.Told

/-!
# The answer to a snapshot

Two routes read a snapshot that a request hands in, one to create a project from it and one to
compile it. Both answer a snapshot that is refused as a bad request. The main statement says which
snapshots are not refused but answered as an internal error: those at which reading stumbles.
-/

namespace SchemaGraph.Service

variable {r : Registry} {req : Request} {ms : Members} {f : Failure} {operation : String}

/-- A request that hands in a snapshot, and the operation that it does so for. -/
inductive HandsIn (r : Registry) (req : Request) (ms : Members) : String → Prop
  | create {t : Target} {form : CreateForm} (verb : req.verb = "POST")
      (route : Route.reached? Handler.stepLimit (.ofText req.target) = some (.projects, t))
      (body : (Handler.body CreateForm.check req).run r = (.ok form, r))
      (template : form.template.filter (· != "") = none) (snapshot : form.snapshot = some ms) :
      HandsIn r req ms "create_project"
  | compile {t : Target} {form : CompileForm} (verb : req.verb = "POST")
      (route : Route.reached? Handler.stepLimit (.ofText req.target) = some (.compile, t))
      (body : (Handler.body CompileForm.check req).run r = (.ok form, r))
      (snapshot : form.snapshot = ms) : HandsIn r req ms "compile_snapshot"

/-- A snapshot that cannot be read is answered with what the failure gets. -/
theorem HandsIn.respond_of_error (h : HandsIn r req ms operation)
    (failed : Snapshot.ofJson (.obj ms) = .error f) :
    (respond req r).1 = Handler.reported operation [] f := by
  cases h with
  | create verb route body template snapshot =>
      rw [respond_atRoute verb route, Handler.atRoute, Handler.createProject, Registry.run_bind,
        body]
      simp only [Registry.run_bind, Handler.startOf, template, snapshot, Handler.stateOfSnapshot,
        failed, Handler.run_orRespond_error, Handler.answered]
  | compile verb route body snapshot =>
      rw [respond_atRoute verb route, Handler.atRoute, Handler.compileSnapshot,
        Registry.run_bind, body]
      simp only [Registry.run_bind, snapshot, failed, Handler.run_orRespond_error,
        Handler.answered]

/-- A report in plain texts, of nothing else than the operation, can be told. -/
theorem Response.canTell_report {f : Failure} {operation : String} (kind : Text.IsPlain f.kind)
    (message : Text.IsPlain f.message) (name : Text.IsPlain operation) :
    Response.canTell (f.report { operation }) = true := by
  refine Response.canTell_iff.mpr ⟨rfl, ?_, rfl⟩
  have names : Text.isWhole "success" = true ∧ Text.isWhole "error" = true ∧
      Text.isWhole "type" = true ∧ Text.isWhole "message" = true ∧
      Text.isWhole "operation" = true := by decide
  simpa [Failure.report, Failure.ifGiven, Json.isGiven, Json.isWhole, Json.membersAreWhole,
    kind.isWhole, message.isWhole, name.isWhole] using names

theorem HandsIn.isPlain_operation (h : HandsIn r req ms operation) : Text.IsPlain operation := by
  cases h <;> decide

/-- A snapshot that cannot be read is refused, and is then answered as a bad request, or reading it
crashes, and it is then answered as an internal error. It crashes exactly if it stumbles. -/
theorem snapshot_refused_or_stumbles (v : Json) :
    (∀ f, Snapshot.ofJson v = .error f →
      (∃ fault, f = .snapshot fault ∧ ∀ r req ms operation, v = .obj ms →
        HandsIn r req ms operation → (respond req r).1 = .badRequest operation [] f ∧
          (respond req r).1.status = 400) ∨
      ∃ ms c, v = .obj ms ∧ Snapshot.Stumbles ms c ∧ f = .crash c ∧ ∀ r req operation,
        HandsIn r req ms operation → (respond req r).1 = .internalError) ∧
    ∀ ms c, v = .obj ms → Snapshot.Stumbles ms c → Snapshot.ofJson v = .error (.crash c) := by
  constructor
  · intro f failed
    rcases Snapshot.ofJson_error failed with ⟨fault, rfl⟩ | ⟨ms, c, rfl, stumbles, rfl⟩
    · refine .inl ⟨fault, rfl, ?_⟩
      rintro r req ms operation rfl h
      have answer := h.respond_of_error failed
      refine ⟨answer, ?_⟩
      rw [answer]
      have kind : Text.IsPlain (Failure.snapshot fault).kind := by
        rw [Failure.kind]
        decide
      have told := Response.canTell_report kind (Snapshot.ofJson_failsPlainly _ _ failed)
        h.isPlain_operation
      exact (Response.status_refusal 400 _).trans (if_pos told)
    · refine .inr ⟨ms, c, rfl, stumbles, rfl, fun r req operation h => ?_⟩
      rw [h.respond_of_error failed]
      rfl
  · rintro ms c rfl stumbles
    exact Snapshot.ofJson_of_stumbles stumbles

/-- A snapshot whose tables are a number is not refused. -/
theorem not_snapshot_refused_numberedTables :
    ¬ ∀ f, Snapshot.ofJson (.obj [("tables", .int 5)]) = .error f →
      ∃ fault, f = .snapshot fault := by
  intro refused
  obtain ⟨fault, h⟩ := refused _ rfl
  cases h

end SchemaGraph.Service
