import RecordTyping.Projection
import RecordTyping.Proofs.Reassembly

/-!
# What a projection asks of its source

A source is any state with any function that answers requests and changes the state. A
projection that is refused asks nothing and leaves the state as it was. Any other projection
makes one request, for the own columns and then the expressions, and neither the rows nor what
becomes of them lead to another one. The requests are seen by projecting from the source that
records them.
-/

namespace RecordTyping

variable {σ : Type} {target : TypeDescriptor} {overrides : Overrides} {schema : RecordSchema}

/-- A refused projection leaves the source alone. -/
theorem project_refused (source : RowSource σ) {e : ProjectionError}
    (refusal : Refusal target overrides e) (coerceTypes : Bool) (state : σ) :
    project source target overrides coerceTypes state = (.error e, state) := by
  rw [project, Plan.make_refused refusal]

/-- A projection that is not refused asks for the columns of its plan and puts the rows of the
answer back together, one after the other. -/
theorem project_projectable (source : RowSource σ) (valid : Projectable target overrides schema)
    (coerceTypes : Bool) (state : σ) :
    project source target overrides coerceTypes state =
      (((source.pluck (Plan.request schema overrides) state).1.mapError .source) >>= fun rows =>
        rows.mapM ((Plan.build target.name schema overrides).reassemble coerceTypes),
      (source.pluck (Plan.request schema overrides) state).2) := by
  rw [project, Plan.make_projectable valid, ← Plan.build_columns target.name valid.known]
  dsimp only
  cases (source.pluck (Plan.build target.name schema overrides).columns state).1 <;> rfl

/-- A source that fails makes the projection fail with its message. -/
theorem project_failed (source : RowSource σ) (valid : Projectable target overrides schema)
    (coerceTypes : Bool) {state : σ} {message : String}
    (failed : (source.pluck (Plan.request schema overrides) state).1 = .error message) :
    (project source target overrides coerceTypes state).1 = .error (.source message) := by
  rw [project_projectable source valid, failed]
  rfl

/-- The rows of an answer decide the result of the projection. -/
theorem project_answered (source : RowSource σ) (valid : Projectable target overrides schema)
    (coerceTypes : Bool) {state : σ} {rows : List Row}
    (answered : (source.pluck (Plan.request schema overrides) state).1 = .ok rows) :
    (project source target overrides coerceTypes state).1 =
      rows.mapM ((Plan.build target.name schema overrides).reassemble coerceTypes) := by
  rw [project_projectable source valid, answered]
  rfl

/-- The recording source answers like the source and adds the request to the record. -/
theorem recorded_pluck (source : RowSource σ) (columns : List Column) (state : σ)
    (requests : List (List Column)) :
    source.recorded.pluck columns (state, requests) =
      ((source.pluck columns state).1, (source.pluck columns state).2, requests ++ [columns]) :=
  rfl

/-- Recording the requests changes neither the result of a projection nor the state that the
source is left in. -/
theorem project_recorded (source : RowSource σ) (target : TypeDescriptor) (overrides : Overrides)
    (coerceTypes : Bool) (state : σ) (requests : List (List Column)) :
    (project source.recorded target overrides coerceTypes (state, requests)).1 =
        (project source target overrides coerceTypes state).1 ∧
      (project source.recorded target overrides coerceTypes (state, requests)).2.1 =
        (project source target overrides coerceTypes state).2 := by
  rcases projectable_or_refusal target overrides with ⟨schema, valid⟩ | ⟨e, refusal⟩
  · simp only [project_projectable _ valid, recorded_pluck, and_self]
  · simp only [project_refused _ refusal, and_self]

/-- Overridden fields that do not exist are named once each, in the order of the overrides. -/
theorem refusal_fields {name : String} {fields : List String}
    (refusal : Refusal target overrides (.unknownOverrides name fields)) :
    fields.Nodup ∧ fields.Sublist overrides.keys := by
  cases refusal with
  | unknownFields => exact ⟨overrides.distinct.filter _, List.filter_sublist⟩

/-- A type is projected into or refused for one reason. The refused projection asks nothing and
leaves the source as it was. Every other projection makes exactly one request, whose columns
depend on the schema and the overrides alone; when the source fails, its message is the error
and nothing else is done, and when it answers, the result is that of its rows. -/
theorem request_exact (source : RowSource σ) (target : TypeDescriptor) (overrides : Overrides)
    (coerceTypes : Bool) (state : σ) (requests : List (List Column)) :
    let run := project source.recorded target overrides coerceTypes (state, requests)
    (run.1 = (project source target overrides coerceTypes state).1 ∧
      run.2.1 = (project source target overrides coerceTypes state).2) ∧
    ((∃ schema, Projectable target overrides schema) ∨ ∃ e, Refusal target overrides e) ∧
    (∀ e, Refusal target overrides e → run = (.error e, state, requests)) ∧
    (∀ name fields, Refusal target overrides (.unknownOverrides name fields) →
      fields.Nodup ∧ fields.Sublist overrides.keys) ∧
    ∀ schema, Projectable target overrides schema →
      let columns := (schema.names.filter (· ∉ overrides.keys)).map Column.field ++
        overrides.entries.map fun entry => .expression entry.2
      run.2 = ((source.pluck columns state).2, requests ++ [columns]) ∧
      (∀ message, (source.pluck columns state).1 = .error message →
        run.1 = .error (.source message)) ∧
      ∃ plan, Plan.make target overrides = .ok plan ∧
        ∀ rows, (source.pluck columns state).1 = .ok rows →
          run.1 = rows.mapM (plan.reassemble coerceTypes) := by
  intro run
  refine ⟨project_recorded source target overrides coerceTypes state requests,
    projectable_or_refusal target overrides, ?_, fun _ _ => refusal_fields, ?_⟩
  · intro e refusal
    exact project_refused source.recorded refusal coerceTypes (state, requests)
  · intro schema valid columns
    have left : run.2 = _ := congrArg Prod.snd
      (project_projectable source.recorded valid coerceTypes (state, requests))
    exact ⟨left, fun message failed => project_failed source.recorded valid coerceTypes failed,
      _, Plan.make_projectable valid,
      fun rows answered => project_answered source.recorded valid coerceTypes answered⟩

/-- A source that is never there and counts the requests made to it. -/
def offline : RowSource Nat := ⟨fun _ count => (.error "offline", count + 1)⟩

/-- Projecting widgets asks the source that is never there once, and a type that is no record
leaves it alone. -/
theorem request_exact_widget :
    project offline.recorded widget widgetOverrides true (0, []) = (.error (.source "offline"), 1,
      [[.field "name", .expression "owners.name", .expression "widgets.legacy_id"]]) ∧
    project offline.recorded ⟨"Status", .enumeration ["active"]⟩ widgetOverrides true (0, []) =
      (.error (.schema (.notARecord "Status" .enumeration)), 0, []) := by
  obtain ⟨-, -, -, -, asked⟩ := request_exact offline widget widgetOverrides true 0 []
  obtain ⟨-, -, refused, -, -⟩ :=
    request_exact offline ⟨"Status", .enumeration ["active"]⟩ widgetOverrides true 0 []
  obtain ⟨left, failed, -⟩ := asked widgetSchema widget_projectable
  exact ⟨Prod.ext (failed "offline" rfl) left, refused _ (.notARecord (by simp))⟩

end RecordTyping
