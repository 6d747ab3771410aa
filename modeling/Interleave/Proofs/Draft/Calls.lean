import Interleave.Proofs.Draft
import Mathlib.Data.List.Induction
import Mathlib.Tactic.Common

/-!
# Sequences of calls on a draft

A draft tells by its stage how far it has come. What it holds agrees with that, although the calls
look at different things: a statement is taken if there is a current batch, and a batch is closed if
the stage is open.

* `Draft.Consistent`: stage, closed batches and current batch agree.
* `Draft.afterAll`: what becomes of a new draft by calls, refused ones among them.
* `Draft.consistent_whatever_called`: **no calls lead out of the consistent drafts**, and a refused
  call leaves the draft as it was.
* `Batch.calls`: the calls that put a whole batch into a draft.
* `Script.ofCalls_eq_ok_iff`: **calls lead to a script if they are the calls of its batches, one
  after another, and to none otherwise.** The phases of the batches come in one of five orders.
-/

namespace Interleave

variable {σ : Type} {d d' : Draft σ} {c : Call σ} {phase : Phase} {past : List Phase}
  {stage : Stage} {script : Script σ} {batches : List (Batch σ)}

namespace Stage

/-- The phases of the batches that can have been closed at this stage. -/
def pasts : Stage → List (List Phase)
  | .idle | .opened .drop => [[]]
  | .closed .drop => [[.drop]]
  | .opened .create => [[], [.drop]]
  | .closed .create | .opened .seed => [[.create], [.drop, .create]]
  | .closed .seed => [[.create, .seed], [.drop, .create, .seed]]
  | .done => []

theorem mem_pasts_opened (hallowed : (stage.open? phase).isSome) (h : past ∈ stage.pasts) :
    past ∈ (opened phase).pasts := by
  unfold open? at hallowed
  split at hallowed
  · exact h
  · exact List.mem_cons.2 (.inl (List.mem_singleton.1 h))
  · exact List.mem_cons_of_mem _ h
  · exact h
  · nomatch hallowed

theorem mem_pasts_closed (h : past ∈ (opened phase).pasts) :
    past ++ [phase] ∈ (closed phase).pasts := by
  cases phase with
  | drop =>
    obtain rfl := List.mem_singleton.1 h
    exact List.mem_singleton_self _
  | create | seed =>
    simp only [pasts, List.mem_cons, List.not_mem_nil, or_false] at h
    rcases h with rfl | rfl <;> simp [pasts]

end Stage

namespace Draft

/-- The parts of a draft agree. -/
structure Consistent (d : Draft σ) : Prop where
  /-- There is a current batch exactly while a stage is open, and it is of that phase. -/
  current : ∀ phase, d.stage = .opened phase ↔ ∃ statements, d.current = some ⟨phase, statements⟩
  closed : d.closed.map (·.phase) ∈ d.stage.pasts

namespace Consistent

theorem new : ({} : Draft σ).Consistent :=
  ⟨by simp, by simp [Stage.pasts]⟩

theorem stage_ne_done (h : d.Consistent) : d.stage ≠ .done := by
  intro hdone
  have hclosed := h.closed
  rw [hdone] at hclosed
  simp [Stage.pasts] at hclosed

/-- A batch may be opened only if there is none. -/
theorem current_eq_none (h : d.Consistent) (hstage : ∀ phase, d.stage ≠ .opened phase) :
    d.current = none := by
  cases hcurrent : d.current with
  | none => rfl
  | some batch => exact absurd ((h.current batch.phase).2 ⟨_, hcurrent⟩) (hstage batch.phase)

theorem step (h : d.Consistent) (hstep : c.Step d d') : d'.Consistent := by
  cases hstep with
  | openBatch allowed => exact ⟨by simp, Stage.mem_pasts_opened allowed h.closed⟩
  | push =>
    refine ⟨fun phase => (h.current phase).trans ?_, h.closed⟩
    constructor
    · rintro ⟨statements, hcurrent⟩
      obtain rfl := Option.some.inj hcurrent
      exact ⟨_, rfl⟩
    · rintro ⟨statements, hcurrent⟩
      obtain ⟨rfl, -⟩ := Batch.mk.inj (Option.some.inj hcurrent)
      exact ⟨_, rfl⟩
  | closeBatch =>
    obtain ⟨statements, rfl⟩ := (h.current _).1 rfl
    refine ⟨by simp, ?_⟩
    rw [List.map_append]
    exact Stage.mem_pasts_closed h.closed

end Consistent

/-- What becomes of a new draft by calls, of which any may be refused. -/
def afterAll (calls : List (Call σ)) : Draft σ :=
  calls.foldl (fun d c => (c.run d).2) {}

theorem afterAll_append_singleton (calls : List (Call σ)) (c : Call σ) :
    afterAll (calls ++ [c]) = (c.run (afterAll calls)).2 := by
  rw [afterAll, List.foldl_append]
  rfl

theorem consistent_afterAll (calls : List (Call σ)) : (afterAll calls).Consistent := by
  induction calls using List.reverseRecOn with
  | nil => exact .new
  | append_singleton calls c ih =>
    rw [afterAll_append_singleton]
    rcases c.run_cases (afterAll calls) with ⟨d', hrun, hstep⟩ | hrun
    · rw [hrun]
      exact ih.step hstep
    · rw [hrun]
      exact ih

theorem finish_eq_ok :
    d.finish = .ok script ↔ (∃ phase, d.stage = .closed phase) ∧ script = ⟨d.closed⟩ := by
  obtain ⟨stage, closed, current⟩ := d
  cases stage with
  | closed phase =>
    exact ⟨fun h => ⟨⟨phase, rfl⟩, (Except.ok.inj h).symm⟩, fun h => congrArg Except.ok h.2.symm⟩
  | idle | opened | done => exact ⟨fun h => (nomatch h), fun ⟨⟨_, h⟩, _⟩ => (nomatch h)⟩

/-- **Whatever is called on a new draft, it stays consistent**, and never is at the last stage. A
call that is refused then leaves the draft as it was and names its stage. -/
theorem consistent_whatever_called (calls : List (Call σ)) :
    (afterAll calls).Consistent ∧ (afterAll calls).stage ≠ .done ∧
      (∀ c : Call σ, (∃ d, c.run (afterAll calls) = (.ok (), d)) ∨
        c.run (afterAll calls) = (.error (.invalidTransition (afterAll calls).stage c.goal),
          afterAll calls)) ∧
      ((∃ script, (afterAll calls).finish = .ok script) ∨
        (afterAll calls).finish =
          .error (.invalidTransition (afterAll calls).stage (.stage .done))) := by
  have h := consistent_afterAll calls
  refine ⟨h, h.stage_ne_done, fun c => (c.run_cases _).imp_left fun ⟨d, hrun, _⟩ => ⟨d, hrun⟩, ?_⟩
  unfold finish
  cases (afterAll calls).stage.finish? with
  | none => exact .inr rfl
  | some _ => exact .inl ⟨_, rfl⟩

end Draft

/-- The calls that put a whole batch into a draft. -/
def Batch.calls (b : Batch σ) : List (Call σ) :=
  .openBatch b.phase :: b.statements.map .push ++ [.closeBatch]

/-- The script that calls on a new draft lead to, if no call is refused and the draft can be
finished. -/
def Script.ofCalls (calls : List (Call σ)) : Except DesignError (Script σ) := do
  let d ← calls.foldlM Draft.after? {}
  d.finish

/-- The orders in which the phases of a script can come. -/
def Script.orders : List (List Phase) :=
  [[.drop], [.create], [.drop, .create], [.create, .seed], [.drop, .create, .seed]]

namespace Draft

/-- The calls that a draft stands for: those of its closed batches, and those of the current one up
to now. -/
def calls (d : Draft σ) : List (Call σ) :=
  d.closed.flatMap Batch.calls ++
    d.current.toList.flatMap fun b => .openBatch b.phase :: b.statements.map .push

theorem Consistent.calls_step (h : d.Consistent) (hstep : c.Step d d') :
    d'.calls = d.calls ++ [c] := by
  cases hstep with
  | @openBatch stage closed current phase allowed =>
    have hnone : current = none := h.current_eq_none fun phase hstage => by
      obtain rfl : stage = .opened phase := hstage
      nomatch allowed
    simp [calls, hnone]
  | push => simp [calls]
  | closeBatch =>
    obtain ⟨statements, rfl⟩ := (h.current _).1 rfl
    simp [calls, Batch.calls]

theorem calls_eq_of_foldlM {calls : List (Call σ)} (h : calls.foldlM after? {} = .ok d) :
    d.Consistent ∧ d.calls = calls := by
  refine foldlM_ok_induction (fun met d => d.Consistent ∧ d.calls = met) ⟨.new, rfl⟩ ?_ h
  rintro met d c d' ⟨hd, rfl⟩ hcall
  have hstep := after?_eq_ok.1 hcall
  exact ⟨hd.step hstep, hd.calls_step hstep⟩

/-- The calls of a batch add it. -/
theorem foldlM_calls (b : Batch σ) : b.calls.foldlM after? d = d.addBatch b.phase b.statements := by
  rw [Batch.calls, List.cons_append, List.foldlM_cons]
  refine congrArg (d.openBatch b.phase >>= ·) (funext fun opened => ?_)
  rw [List.foldlM_append, List.foldlM_map]
  refine congrArg (b.statements.foldlM push opened >>= ·) (funext fun filled => ?_)
  rw [List.foldlM_cons]
  exact bind_pure _

end Draft

theorem Stage.mem_orders_of_pasts (h : past ∈ (Stage.closed phase).pasts) :
    past ∈ Script.orders := by
  have hall : ∀ past ∈ (Stage.closed phase).pasts, past ∈ Script.orders := by
    cases phase with
    | drop | create | seed => decide
  exact hall past h

/-- Batches of these phases can be added one after another, and then the draft be finished. -/
def Stage.allows (stage : Stage) : List Phase → Bool
  | [] => stage.finish?.isSome
  | phase :: rest => (stage.open? phase).isSome && (Stage.closed phase).allows rest

theorem Draft.foldlM_batches (h : d.stage.allows (batches.map (·.phase))) :
    ((batches.flatMap Batch.calls).foldlM Draft.after? d >>= Draft.finish) =
      .ok ⟨d.closed ++ batches⟩ := by
  induction batches generalizing d with
  | nil =>
    obtain ⟨stage, hstage⟩ := Option.isSome_iff_exists.1 h
    have hfinish : d.finish = .ok ⟨d.closed⟩ := by rw [Draft.finish, hstage]
    rw [List.append_nil]
    exact hfinish
  | cons b rest ih =>
    obtain ⟨hopen, hrest⟩ := Bool.and_eq_true_iff.1 h
    have hadd : d.addBatch b.phase b.statements = .ok ⟨.closed b.phase, d.closed ++ [b], none⟩ :=
      Draft.addBatch_eq_ok.2 ⟨hopen, rfl⟩
    rw [List.flatMap_cons, List.foldlM_append, Draft.foldlM_calls, hadd]
    refine (ih hrest).trans ?_
    rw [List.append_assoc, List.singleton_append]

/-- **Calls lead to a script if they are the calls of its batches, and to none otherwise.** -/
theorem Script.ofCalls_eq_ok_iff (calls : List (Call σ)) (script : Script σ) :
    ofCalls calls = .ok script ↔
    script.batches.map (·.phase) ∈ orders ∧ calls = script.batches.flatMap Batch.calls := by
  constructor
  · intro h
    obtain ⟨d, hcalls, hfinish⟩ := bind_eq_ok.1 h
    obtain ⟨hd, rfl⟩ := Draft.calls_eq_of_foldlM hcalls
    obtain ⟨⟨phase, hstage⟩, rfl⟩ := Draft.finish_eq_ok.1 hfinish
    have hnone : d.current = none := hd.current_eq_none fun phase hopened => by
      rw [hstage] at hopened
      nomatch hopened
    refine ⟨Stage.mem_orders_of_pasts (hstage ▸ hd.closed), ?_⟩
    simp [Draft.calls, hnone]
  · rintro ⟨horder, rfl⟩
    have hallowed : ∀ phases ∈ orders, Stage.idle.allows phases := by decide
    exact Draft.foldlM_batches (d := {}) (hallowed _ horder)

end Interleave
