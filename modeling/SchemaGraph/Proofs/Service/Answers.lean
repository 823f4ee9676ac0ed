import SchemaGraph.Proofs.Project.Steps
import SchemaGraph.Service.Server

/-!
# How requests are answered

A request that reaches a route by its method is answered by what the route does. A step of the
registry that an answer takes is run on the registry as it is. A refusal has the status that it
should if its details can be told, and so can all that is in them.
-/

namespace SchemaGraph

namespace Json

mutual

/-- A value that can be shown can be shown with more room. -/
theorem shownWithin_succ : ∀ (v : Json) {room : Nat} {s : String},
    shownWithin room v = .ok s → shownWithin (room + 1) v = .ok s
  | v, 0, s, h => by cases v <;> cases h
  | .arr items, room + 1, s, h => by
      obtain ⟨texts, shown, h⟩ := bind_ok h
      rw [shownWithin, shownItems_succ items shown]
      exact h
  | .obj ms, room + 1, s, h => by
      obtain ⟨texts, shown, h⟩ := bind_ok h
      rw [shownWithin, shownMembers_succ ms shown]
      exact h
  | .null, room + 1, s, h | .bool _, room + 1, s, h | .int _, room + 1, s, h
  | .float _, room + 1, s, h | .str _, room + 1, s, h => h

theorem shownItems_succ : ∀ (items : List Json) {room : Nat} {texts : List String},
    shownItems room items = .ok texts → shownItems (room + 1) items = .ok texts
  | [], room, texts, h => h
  | v :: rest, room, texts, h => by
      obtain ⟨first, shown, h⟩ := bind_ok h
      obtain ⟨others, shownRest, h⟩ := bind_ok h
      rw [shownItems, shownWithin_succ v shown, shownItems_succ rest shownRest]
      exact h

theorem shownMembers_succ : ∀ (ms : List (String × Json)) {room : Nat} {texts : List String},
    shownMembers room ms = .ok texts → shownMembers (room + 1) ms = .ok texts
  | [], room, texts, h => h
  | (name, v) :: rest, room, texts, h => by
      obtain ⟨first, shown, h⟩ := bind_ok h
      obtain ⟨others, shownRest, h⟩ := bind_ok h
      rw [shownMembers, shownWithin_succ v shown, shownMembers_succ rest shownRest]
      exact h

end

variable {ms : Members} {name : String} {v : Json}

theorem isFinite_of_mem (h : isFinite (.obj ms) = true) (mem : (name, v) ∈ ms) :
    v.isFinite = true := by
  change membersAreFinite ms = true at h
  induction ms with
  | nil => cases mem
  | cons m ms ih =>
      obtain ⟨first, rest⟩ := (Bool.and_eq_true _ _).mp h
      rcases List.mem_cons.mp mem with rfl | mem
      · exact first
      · exact ih mem rest

theorem isWhole_of_mem (h : isWhole (.obj ms) = true) (mem : (name, v) ∈ ms) :
    v.isWhole = true := by
  change membersAreWhole ms = true at h
  induction ms with
  | nil => cases mem
  | cons m ms ih =>
      obtain ⟨first, rest⟩ := (Bool.and_eq_true _ _).mp h
      rcases List.mem_cons.mp mem with rfl | mem
      · exact ((Bool.and_eq_true _ _).mp first).2
      · exact ih mem rest

theorem exists_shownWithin_of_mem {room : Nat} {texts : List String}
    (h : shownMembers room ms = .ok texts) (mem : (name, v) ∈ ms) :
    ∃ s, shownWithin room v = .ok s := by
  induction ms generalizing texts with
  | nil => cases mem
  | cons m ms ih =>
      obtain ⟨first, shown, h⟩ := bind_ok h
      obtain ⟨others, shownRest, -⟩ := bind_ok h
      rcases List.mem_cons.mp mem with rfl | mem
      · exact ⟨first, shown⟩
      · exact ih shownRest mem

theorem isShowable_iff : v.isShowable = true ↔ ∃ s, v.shown = .ok s := by
  unfold isShowable
  cases v.shown <;> simp [Except.isOk, Except.toBool]

theorem isShowable_of_mem (h : isShowable (.obj ms) = true) (mem : (name, v) ∈ ms) :
    v.isShowable = true := by
  obtain ⟨s, shown⟩ := isShowable_iff.mp h
  obtain ⟨texts, shownMs, -⟩ := bind_ok shown
  obtain ⟨s, shown⟩ := exists_shownWithin_of_mem shownMs mem
  exact isShowable_iff.mpr ⟨s, shownWithin_succ v shown⟩

end Json

namespace Service

variable {α : Type} {r : Registry} {req : Request} {id : String} {p : Project}

namespace Response

theorem canTell_iff {v : Json} :
    canTell v = true ↔ v.isFinite = true ∧ v.isWhole = true ∧ v.isShowable = true := by
  simp [canTell, and_assoc]

/-- Whoever can tell of an object can tell of its members. -/
theorem canTell_of_mem {ms : Members} {name : String} {v : Json} (h : canTell (.obj ms) = true)
    (mem : (name, v) ∈ ms) : canTell v = true := by
  obtain ⟨finite, whole, showable⟩ := canTell_iff.mp h
  exact canTell_iff.mpr ⟨Json.isFinite_of_mem finite mem, Json.isWhole_of_mem whole mem,
    Json.isShowable_of_mem showable mem⟩

/-- A refusal of which the details cannot be told turns into an internal error. -/
theorem status_refusal (status : Nat) (detail : Json) :
    (refusal status detail).status = if canTell detail then status else 500 := by
  unfold refusal
  split
  · rename_i told
    have whole : (Json.obj [("detail", detail)]).isWhole = true := by
      change (Text.isWhole "detail" && detail.isWhole && true) = true
      rw [(canTell_iff.mp told).2.1]
      rfl
    rw [document, if_pos whole]
  · rfl

/-- A report tells of everything that it is about. -/
theorem canTell_of_report {context : ErrorContext} {f : Failure}
    (told : canTell (f.report context) = true) {name : String} {v : Json}
    (mem : (name, v) ∈ context.more) : canTell v = true := by
  have given : (Json.obj context.more).isGiven = true := by
    cases more : context.more with
    | nil =>
        rw [more] at mem
        cases mem
    | cons => rfl
  have error := canTell_of_mem told (List.mem_cons_of_mem _ List.mem_cons_self)
  have about : ("additional_context", Json.obj context.more) ∈
      Failure.ifGiven "additional_context" (.obj context.more) := by
    rw [Failure.ifGiven, if_pos given]
    exact List.mem_cons_self
  exact canTell_of_mem (canTell_of_mem error (List.mem_append_right _ about)) mem

end Response

namespace Handler

theorem run_attempt (step : Registry.Step α) (r : Registry) :
    (attempt step).run r = (.ok (step.run r).1, (step.run r).2) := rfl

theorem run_orRespond_error {ε : Type} (answer : ε → Response) (e : ε) (r : Registry) :
    (orRespond answer (.error e) : Handler α).run r = (.error (answer e), r) := rfl

theorem run_requireProject (held : r.store.get? id = some p) :
    (requireProject id).run r = (.ok p, r) := by
  rw [requireProject, Registry.run_get_bind, held]
  rfl

end Handler

/-- The response that a request ends with, early or not. -/
def Handler.answered : Except Response Response → Response
  | .ok response => response
  | .error response => response

theorem respond_atRoute {route : Route} {t : Target} (verb : req.verb = route.method)
    (reached : Route.reached? Handler.stepLimit (.ofText req.target) = some (route, t)) :
    (respond req r).1 = Handler.answered ((Handler.atRoute req t route).run r).1 := by
  have notHead : (route.method == "HEAD") = false := by cases route <;> rfl
  unfold respond Handler.handle
  rw [reached, verb, notHead]
  simp only [beq_self_eq_true, if_true]
  rcases (Handler.atRoute req t route).run r with ⟨_ | _, _⟩ <;> rfl

end Service
end SchemaGraph
