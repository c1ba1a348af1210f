import Mathlib
import SchemaForge.CommandLine.Program
import SchemaForge.Proofs.Schema.Splitting

/-! What a command logs and how it exits. Only generating changes files, and only the program's own
failures are reported: a script that ends the program or does not load is not. -/

namespace SchemaForge.CommandLine

namespace LogEntry

theorem ofVersions_of_ne {version : String} (set : version ≠ "") (versions : List String) :
    ofVersions version versions =
      (versions.filter fun v => v ≠ "" ∧ v ≠ version).map (otherVersion version) := by
  induction versions with
  | nil => rfl
  | cons v rest ih =>
    rw [ofVersions, if_neg (by simpa using set), ih]
    by_cases empty : v = "" <;> by_cases same : v = version <;> simp [empty, same]

theorem ofVersions_merge (schemas : List Schema) :
    ofVersions "" (schemas.map (·.version)) =
      ((schemas.map (·.version)).filter fun v => v ≠ "" ∧ v ≠ (Schema.merge schemas).version).map
        (otherVersion (Schema.merge schemas).version) := by
  rw [Schema.version_merge, Schema.firstVersion]
  induction schemas.map (·.version) with
  | nil => rfl
  | cons v rest ih =>
    by_cases empty : v = ""
    · simpa [ofVersions, empty] using ih
    · simp [ofVersions, empty, ofVersions_of_ne]

theorem ofVersions_eq_nil_iff {schemas : List Schema} :
    ofVersions "" (schemas.map (·.version)) = [] ↔
      ∀ s ∈ schemas, s.version = "" ∨ s.version = (Schema.merge schemas).version := by
  rw [ofVersions_merge]
  simp [or_iff_not_imp_left]

end LogEntry

theorem shows_of_unset {s : Surroundings} (unset : s.environment "RUST_LOG" = none) (i : Invocation)
    (e : LogEntry) : (s.logFilter i).shows e = true ↔
      e.level.rank ≤ if i.quiet then 1 else if i.verbose then 4 else 2 := by
  have byLevel (word : String) (rank : Nat) (known : LogFilter.ofLevel word = [⟨"", rank⟩]) :
      (LogFilter.ofLevel word).shows e = true ↔ e.level.rank ≤ rank := by
    simp [LogFilter.shows, LogFilter.rankAt, known, Text.startsWith]
  unfold Surroundings.logFilter Invocation.logLevel
  rw [unset, Option.bind_none, Option.getD_none]
  split
  · exact byLevel "error" 1 (by cbv)
  · split
    · exact byLevel "debug" 4 (by cbv)
    · exact byLevel "warn" 2 (by cbv)

theorem exitCode_outcome (e : Effect) (filter : LogFilter) (unended : e.exited = none) :
    ((e.outcome filter).exitCode = 0 ↔ ∃ text, e.result = .ok text) ∧
      ((e.outcome filter).exitCode = 3 ↔
        ∃ cause, e.result = .error (.generate cause) ∧ cause.isFatalExtension = true) ∧
      ((e.outcome filter).report.isSome ↔ (e.outcome filter).exitCode = 1) := by
  unfold Effect.outcome
  cases hresult : e.result with
  | ok text => simp [unended]
  | error failure =>
    cases failure with
    | generate cause =>
      cases fatal : cause.isFatalExtension <;>
        simp [unended, Failure.exitCode, Failure.isLogged, Failure.report?, fatal]
    | _ => simp [unended, Failure.exitCode, Failure.isLogged, Failure.report?]

theorem files_run {s : Surroundings} {args : List String} {system : System}
    (other : ∀ i a, read args = .ok i → i.command ≠ .generate a) : (run s args system).files = s.files := by
  unfold run
  dsimp only
  cases hread : read args with
  | error e => cases e <;> rfl
  | ok i =>
    have other := fun a => other i a hread
    dsimp only
    cases hcommand : i.command with
    | generate a => exact absurd hcommand (other a)
    | completions shell => rfl
    | validate a =>
      dsimp only
      unfold validate Effect.outcome
      dsimp only
      split <;> split <;> rfl

end SchemaForge.CommandLine
