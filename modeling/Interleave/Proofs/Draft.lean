import Interleave.Draft
import Interleave.Proofs.Except

/-!
# Calls on a draft

* `Call.Step`: what calls do to a draft, refusals aside.
* `Call.run_cases`: **a call takes its step, or is refused and leaves the draft as it was.**
* `Draft.addBatch_eq_ok`: when a whole batch can be added, and what the draft is then.
-/

namespace Interleave

variable {σ : Type} {d d' : Draft σ} {c : Call σ} {phase : Phase} {statements : List σ}

theorem Stage.open?_eq_some {s s' : Stage} (h : s.open? phase = some s') : s' = .opened phase := by
  unfold Stage.open? at h
  split at h
  · exact (Option.some.inj h).symm
  · exact (Option.some.inj h).symm
  · exact (Option.some.inj h).symm
  · exact (Option.some.inj h).symm
  · nomatch h

namespace Call

/-- The step from one draft to another that a call takes if it is not refused. -/
inductive Step : Draft σ → Call σ → Draft σ → Prop
  | openBatch {stage : Stage} {closed : List (Batch σ)} {current : Option (Batch σ)} {phase : Phase}
    (allowed : (stage.open? phase).isSome) :
    Step ⟨stage, closed, current⟩ (.openBatch phase) ⟨.opened phase, closed, some ⟨phase, []⟩⟩
  | push {stage : Stage} {closed : List (Batch σ)} {batch : Batch σ} {statement : σ} :
    Step ⟨stage, closed, some batch⟩ (.push statement)
      ⟨stage, closed, some ⟨batch.phase, batch.statements ++ [statement]⟩⟩
  | closeBatch {phase : Phase} {closed : List (Batch σ)} {current : Option (Batch σ)} :
    Step ⟨.opened phase, closed, current⟩ .closeBatch
      ⟨.closed phase, closed ++ current.toList, none⟩

theorem get_bind (next : Draft σ → Drafting σ Unit) (d : Draft σ) :
    (get >>= next : Drafting σ Unit) d = next d d :=
  rfl

theorem run_openBatch (phase : Phase) (d : Draft σ) : (Call.openBatch phase).run d =
    if (d.stage.open? phase).isSome then (.ok (), ⟨.opened phase, d.closed, some ⟨phase, []⟩⟩)
    else (.error (.invalidTransition d.stage (.stage (.opened phase))), d) := by
  rw [run, get_bind]
  cases hopen : d.stage.open? phase with
  | none => simp only [hopen]; rfl
  | some stage => simp only [hopen, Stage.open?_eq_some hopen]; rfl

/-- **A call takes its step, or is refused and leaves the draft as it was.** -/
theorem run_cases (c : Call σ) (d : Draft σ) : (∃ d', c.run d = (.ok (), d') ∧ Step d c d') ∨
    c.run d = (.error (.invalidTransition d.stage c.goal), d) := by
  obtain ⟨stage, closed, current⟩ := d
  cases c with
  | openBatch phase =>
    rw [run_openBatch]
    by_cases hopen : (stage.open? phase).isSome
    · exact .inl ⟨_, if_pos hopen, .openBatch hopen⟩
    · exact .inr (if_neg hopen)
  | push statement =>
    cases current with
    | none => exact .inr rfl
    | some batch => exact .inl ⟨_, rfl, .push⟩
  | closeBatch =>
    cases stage with
    | opened phase => exact .inl ⟨_, rfl, .closeBatch⟩
    | idle | closed | done => exact .inr rfl

theorem run_of_step (h : Step d c d') : c.run d = (.ok (), d') := by
  cases h with
  | openBatch allowed => rw [run_openBatch, if_pos allowed]
  | push => rfl
  | closeBatch => rfl

end Call

namespace Draft

theorem after?_eq_ok : d.after? c = .ok d' ↔ c.Step d d' := by
  unfold after?
  constructor
  · intro h
    rcases c.run_cases d with ⟨d'', hrun, hstep⟩ | hrun
    · rw [hrun] at h
      obtain rfl := Except.ok.inj h
      exact hstep
    · rw [hrun] at h
      nomatch h
  · intro h
    rw [Call.run_of_step h]
    rfl

/-- Statements go to the end of the current batch. -/
theorem foldlM_push {batch : Batch σ} (h : d.current = some batch) : statements.foldlM push d =
    .ok { d with current := some ⟨batch.phase, batch.statements ++ statements⟩ } := by
  induction statements generalizing d batch with
  | nil => rw [List.append_nil, ← h]; rfl
  | cons statement rest ih =>
    obtain ⟨stage, closed, current⟩ := d
    obtain rfl : current = some batch := h
    have hpush : push ⟨stage, closed, some batch⟩ statement = .ok _ := after?_eq_ok.2 .push
    rw [List.foldlM_cons, hpush]
    refine (ih rfl).trans ?_
    rw [List.append_assoc, List.singleton_append]

theorem openBatch_eq_ok : d.openBatch phase = .ok d' ↔
    (d.stage.open? phase).isSome ∧ d' = ⟨.opened phase, d.closed, some ⟨phase, []⟩⟩ := by
  unfold openBatch
  rw [after?_eq_ok]
  constructor
  · intro h
    cases h with
    | openBatch allowed => exact ⟨allowed, rfl⟩
  · rintro ⟨allowed, rfl⟩
    exact .openBatch allowed

/-- **A batch can be added if it may be opened now.** -/
theorem addBatch_eq_ok : d.addBatch phase statements = .ok d' ↔
    (d.stage.open? phase).isSome ∧
      d' = ⟨.closed phase, d.closed ++ [⟨phase, statements⟩], none⟩ := by
  unfold addBatch
  rw [bind_eq_ok]
  constructor
  · rintro ⟨opened, hopen, h⟩
    obtain ⟨hsome, rfl⟩ := openBatch_eq_ok.1 hopen
    rw [foldlM_push rfl] at h
    exact ⟨hsome, (Except.ok.inj h).symm⟩
  · rintro ⟨hsome, rfl⟩
    refine ⟨_, openBatch_eq_ok.2 ⟨hsome, rfl⟩, ?_⟩
    rw [foldlM_push rfl]
    rfl

end Draft

end Interleave
