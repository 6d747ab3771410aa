import Interleave.Execution
import Mathlib.Tactic.Common

/-!
# Delivery of a script

What reaches the database when a script is run, whatever the database answers. Its answer to a
statement may depend on everything that was sent before.

* `Connection.Accepts`: statements are accepted one after another.
* `Connection.FirstRefusal`: the statement at a position is refused, all before it having been
  accepted.
* `Script.interior`: a position lies between the markers of a structural batch.
* `Delivery`: the two ways in which sending a list of statements can end.
* `runScript_delivers`: **a script is delivered whole, or up to its first refusal**; a refusal
  between markers is followed by one abort marker, and nothing else follows a refusal.
-/

namespace Interleave

/-- The statements are accepted one after another, the first of them after `sent`. -/
def Connection.Accepts (c : Connection) (sent : List String) : List String → Prop
  | [] => True
  | statement :: rest => c.answer sent statement = .ok () ∧ c.Accepts (sent ++ [statement]) rest

/-- Of the statements sent after `sent`, the one at position `k` is refused, and no earlier one is.
-/
structure Connection.FirstRefusal (c : Connection) (sent statements : List String) (k : ℕ)
    (statement : String) (cause : ConnectionError) : Prop where
  position : statements[k]? = some statement
  before : c.Accepts sent (statements.take k)
  refused : c.answer (sent ++ statements.take k) statement = .error cause

/-- Position `k` of what the batch sends lies between its markers. -/
def Batch.interior (b : Batch String) (k : ℕ) : Bool :=
  b.phase.isStructural && decide (0 < k ∧ k ≤ b.statements.length)

/-- Position `k` of what the batches send lies between the markers of one of them. -/
def Batch.interiorOf : List (Batch String) → ℕ → Bool
  | [], _ => false
  | b :: rest, k =>
    if k < b.withMarkers.length then b.interior k else interiorOf rest (k - b.withMarkers.length)

/-- Position `k` of what the script sends lies between the markers of a batch. -/
def Script.interior (s : Script String) (k : ℕ) : Bool :=
  Batch.interiorOf s.batches k

/-- How sending `statements` after `sent` can end: with the value `a` after all of them, or with a
report of the first refusal. If `inside` holds of its position, an abort marker is the last that is
sent. -/
inductive Delivery (c : Connection) (sent statements : List String) (inside : ℕ → Bool)
    {α : Type} (a : α) :
    Except DesignError α × List String → Prop
  | whole (accepted : c.Accepts sent statements) :
    Delivery c sent statements inside a (.ok a, sent ++ statements)
  | stopped {k : ℕ} {statement : String} {cause : ConnectionError}
    (refusal : c.FirstRefusal sent statements k statement cause) :
    Delivery c sent statements inside a (.error (.refusedStatement statement cause.message),
      sent ++ statements.take (k + 1) ++ if inside k then [abortMarker] else [])

variable {c : Connection} {sent first second : List String}

namespace Connection

theorem accepts_append : c.Accepts sent (first ++ second) ↔
    c.Accepts sent first ∧ c.Accepts (sent ++ first) second := by
  induction first generalizing sent with
  | nil => simp [Accepts]
  | cons statement rest ih => simp [Accepts, ih, and_assoc]

namespace FirstRefusal

variable {k : ℕ} {statement : String} {cause : ConnectionError}

theorem lt_length (h : c.FirstRefusal sent first k statement cause) : k < first.length :=
  (List.getElem?_eq_some_iff.1 h.position).1

theorem take_succ (h : c.FirstRefusal sent first k statement cause) :
    first.take (k + 1) = first.take k ++ [statement] := by
  rw [List.take_add_one, h.position]
  rfl

/-- Statements that would have come later do not matter. -/
theorem append_right (h : c.FirstRefusal sent first k statement cause) (second : List String) :
    c.FirstRefusal sent (first ++ second) k statement cause := by
  have hk := h.lt_length
  have htake : (first ++ second).take k = first.take k :=
    List.take_append_of_le_length (Nat.le_of_lt hk)
  refine ⟨?_, ?_, ?_⟩
  · rw [List.getElem?_append_left hk]; exact h.position
  · rw [htake]; exact h.before
  · rw [htake]; exact h.refused

/-- A refusal after accepted statements, counted from the first of those. -/
theorem append_left (hfirst : c.Accepts sent first)
    (h : c.FirstRefusal (sent ++ first) second k statement cause) :
    c.FirstRefusal sent (first ++ second) (first.length + k) statement cause := by
  have htake : (first ++ second).take (first.length + k) = first ++ second.take k :=
    List.take_length_add_append k
  refine ⟨?_, ?_, ?_⟩
  · rw [List.getElem?_append_right (Nat.le_add_right _ _), Nat.add_sub_cancel_left]
    exact h.position
  · rw [htake]; exact accepts_append.2 ⟨hfirst, h.before⟩
  · rw [htake, ← List.append_assoc]; exact h.refused

end FirstRefusal

end Connection

namespace Session

variable {ε α β : Type} {x : Session ε α} {after : List String}

theorem bind_of_ok {f : α → Session ε β} {a : α} (h : x sent = (.ok a, after)) :
    (x >>= f) sent = f a after := by
  change ExceptT.bindCont f (x sent).1 (x sent).2 = _
  rw [h]; rfl

theorem bind_of_error {f : α → Session ε β} {e : ε} (h : x sent = (.error e, after)) :
    (x >>= f) sent = (.error e, after) := by
  change ExceptT.bindCont f (x sent).1 (x sent).2 = _
  rw [h]; rfl

theorem tryCatch_of_ok {handle : ε → Session ε α} {a : α}
    (h : x sent = (.ok a, after)) : tryCatch x handle sent = (.ok a, after) := by
  change (x.tryCatch handle) sent = _
  simp only [ExceptT.tryCatch, ExceptT.mk, bind, StateT.bind, h]
  rfl

theorem tryCatch_of_error {handle : ε → Session ε α} {e : ε}
    (h : x sent = (.error e, after)) : tryCatch x handle sent = handle e after := by
  change (x.tryCatch handle) sent = _
  simp only [ExceptT.tryCatch, ExceptT.mk, bind, StateT.bind, h]

/-- Nothing is left to do in the end. -/
theorem finally_pure (x : Session ε α) (sent : List String) :
    (tryFinally x (pure () : Session ε Unit)) sent = x sent := by
  cases hx : x sent with
  | mk result after =>
    simp only [tryFinally, tryFinally', ExceptT.mk, Functor.map, ExceptT.map, bind, StateT.bind, hx]
    cases result <;> rfl

end Session

namespace Connection

variable {statement : String}

theorem send_of_ok (h : c.answer sent statement = .ok ()) :
    c.send statement sent = (.ok (), sent ++ [statement]) := by
  rw [send, h]

theorem send_of_error {cause : ConnectionError} (h : c.answer sent statement = .error cause) :
    c.send statement sent =
      (.error (.refusedStatement statement cause.message), sent ++ [statement]) := by
  rw [send, h]

end Connection

namespace OpenBatch

/-- Giving a batch up cannot fail: a refusal of the abort marker is passed over. -/
theorem discard_eq : discard c sent = (.ok (), sent ++ [abortMarker]) := by
  cases hanswer : c.answer sent abortMarker with
  | ok => exact Session.tryCatch_of_ok (Connection.send_of_ok hanswer)
  | error => exact Session.tryCatch_of_error (Connection.send_of_error hanswer)

/-- A batch that is handed over is no longer pending, so leaving it sends nothing. -/
theorem commit_eq (batch : OpenBatch) :
    batch.commit c sent =
      (c.send runMarker >>= fun _ => pure batch.accepted : Session DesignError Nat) sent := by
  have hleave : leave c { batch with pending := false } = pure () := rfl
  rw [commit, hleave]
  exact Session.finally_pure _ sent

end OpenBatch

namespace Delivery

variable {α β : Type} {a : α} {b : β} {inside : ℕ → Bool}

/-- Nothing is sent. -/
theorem nil : Delivery c sent [] inside a (.ok a, sent) := by
  have h : Delivery c sent [] inside a (.ok a, sent ++ []) := .whole trivial
  rwa [List.append_nil] at h

/-- One computation after another sends the statements of both. -/
theorem bind {x : Session DesignError α} {f : α → Session DesignError β}
    {inFirst inSecond : ℕ → Bool} (hx : Delivery c sent first inFirst a (x sent))
    (hf : Delivery c (sent ++ first) second inSecond b (f a (sent ++ first)))
    (hfirst : ∀ k < first.length, inside k = inFirst k)
    (hsecond : ∀ k, inside (first.length + k) = inSecond k) :
    Delivery c sent (first ++ second) inside b ((x >>= f) sent) := by
  generalize hout : x sent = out at hx
  cases hx with
  | whole haccepted =>
    rw [Session.bind_of_ok hout]
    generalize f a (sent ++ first) = out at hf
    cases hf with
    | whole hrest =>
      rw [List.append_assoc]
      exact .whole (Connection.accepts_append.2 ⟨haccepted, hrest⟩)
    | stopped hrefusal =>
      rename_i k statement cause
      -- what was refused is counted from the first statement of all
      have h : Delivery c sent (first ++ second) inside b _ :=
        .stopped (hrefusal.append_left haccepted)
      rw [hsecond, Nat.add_assoc, List.take_length_add_append, ← List.append_assoc] at h
      exact h
  | stopped hrefusal =>
    rename_i k statement cause
    rw [Session.bind_of_error hout, ← hfirst k hrefusal.lt_length]
    have h : Delivery c sent (first ++ second) inside b _ := .stopped (hrefusal.append_right second)
    rw [List.take_append_of_le_length hrefusal.lt_length] at h
    exact h

/-- What follows sends nothing more. -/
theorem bind_pure {x : Session DesignError α} (hx : Delivery c sent first inside a (x sent))
    (f : α → β) :
    Delivery c sent first inside (f a) ((x >>= fun a => pure (f a)) sent) := by
  have h : Delivery c sent (first ++ []) inside (f a) ((x >>= fun a => pure (f a)) sent) :=
    hx.bind .nil (fun _ _ => rfl) fun _ => rfl
  rwa [List.append_nil] at h

theorem send (statement : String) :
    Delivery c sent [statement] (fun _ => false) () (c.send statement sent) := by
  unfold Connection.send
  cases hanswer : c.answer sent statement with
  | ok u => exact .whole ⟨hanswer, trivial⟩
  | error cause =>
    have hrefusal : c.FirstRefusal sent [statement] 0 statement cause :=
      ⟨rfl, trivial, by simpa using hanswer⟩
    have h : Delivery c sent [statement] (fun _ => false) () _ := .stopped hrefusal
    simpa using h

theorem sendAll (statements : List String) :
    Delivery c sent statements (fun _ => false) () (statements.forM c.send sent) := by
  induction statements generalizing sent with
  | nil => exact .nil
  | cons statement rest ih => exact (send statement).bind ih (fun _ _ => rfl) fun _ => rfl

/-- An open batch counts what it sends. -/
theorem fill (statements : List String) (batch : OpenBatch) :
    Delivery c sent statements (fun _ => false)
      { batch with accepted := batch.accepted + statements.length }
      (statements.foldlM (OpenBatch.send c) batch sent) := by
  induction statements generalizing sent batch with
  | nil => exact .nil
  | cons statement rest ih =>
    have hsend : Delivery c sent [statement] (fun _ => false)
        { batch with accepted := batch.accepted + 1 }
        (batch.send c statement sent) :=
      (send statement).bind_pure fun _ => { batch with accepted := batch.accepted + 1 }
    rw [List.foldlM_cons, List.length_cons, Nat.add_comm rest.length, ← Nat.add_assoc]
    exact hsend.bind (f := rest.foldlM (OpenBatch.send c))
      (ih { batch with accepted := batch.accepted + 1 }) (fun _ _ => rfl) fun _ => rfl

/-- A batch that is given up on a refusal adds the abort marker. -/
theorem discarding {x : Session DesignError α}
    (hx : Delivery c sent first (fun _ => false) a (x sent)) :
    Delivery c sent first (fun _ => true) a
      (tryCatch x (fun e => do OpenBatch.discard c; throw e) sent) := by
  generalize hout : x sent = out at hx
  cases hx with
  | whole haccepted =>
    rw [Session.tryCatch_of_ok hout]
    exact .whole haccepted
  | stopped hrefusal =>
    rw [Session.tryCatch_of_error hout, Session.bind_of_ok OpenBatch.discard_eq]
    have h : Delivery c sent first (fun _ => true) a _ := .stopped hrefusal
    simp only [Bool.false_eq_true, if_false, List.append_nil]
    exact h

theorem commit (batch : OpenBatch) :
    Delivery c sent [runMarker] (fun _ => false) batch.accepted (batch.commit c sent) := by
  rw [OpenBatch.commit_eq]
  exact (send runMarker).bind_pure fun _ => batch.accepted

theorem structural {b : Batch String} (hb : b.phase.isStructural = true) :
    Delivery c sent b.withMarkers b.interior b.statements.length
      (c.runStructural b.statements sent) := by
  have hstart : Delivery c sent [startMarker] (fun _ => false) {} (OpenBatch.start c sent) :=
    (send startMarker).bind_pure fun _ => ({} : OpenBatch)
  have hfill : Delivery c (sent ++ [startMarker]) b.statements (fun _ => true) _ _ :=
    (fill b.statements {}).discarding
  have hcommit : Delivery c (sent ++ [startMarker] ++ b.statements) [runMarker] (fun _ => false)
      b.statements.length
      (OpenBatch.commit c ⟨true, 0 + b.statements.length⟩
        (sent ++ [startMarker] ++ b.statements)) := by
    rw [Nat.zero_add]
    exact commit ⟨true, b.statements.length⟩
  -- counted from the first interior statement
  have hrest : Delivery c (sent ++ [startMarker]) (b.statements ++ [runMarker])
      (fun k => decide (k < b.statements.length)) b.statements.length _ :=
    hfill.bind (f := OpenBatch.commit c) hcommit (fun k hk => by simpa using hk) fun k => by simp
  rw [Batch.withMarkers, if_pos hb]
  refine hstart.bind (f := fun batch => _) hrest (fun k hk => ?_) fun k => ?_
  · have : k = 0 := by simpa using hk
    simp [Batch.interior, this]
  · have hplace : 0 < [startMarker].length + k ∧ [startMarker].length + k ≤ b.statements.length ↔
        k < b.statements.length := by
      rw [List.length_singleton]
      omega
    rw [Batch.interior, hb, Bool.true_and, decide_eq_decide.2 hplace]

theorem batch (b : Batch String) :
    Delivery c sent b.withMarkers b.interior ⟨b.phase, b.statements.length⟩
      (c.runBatch b sent) := by
  unfold Connection.runBatch
  by_cases hb : b.phase.isStructural = true
  · rw [if_pos hb]
    exact (structural hb).bind_pure fun n => (⟨b.phase, n⟩ : BatchOutcome)
  · have hinterior : b.interior = fun _ => false := by funext k; simp [Batch.interior, hb]
    rw [if_neg hb, Batch.withMarkers, if_neg hb, hinterior]
    exact (sendAll b.statements).bind_pure fun _ => (⟨b.phase, b.statements.length⟩ : BatchOutcome)

theorem batches (bs : List (Batch String)) :
    Delivery c sent (bs.flatMap Batch.withMarkers) (Batch.interiorOf bs)
      (bs.map fun b => ⟨b.phase, b.statements.length⟩) (bs.mapM c.runBatch sent) := by
  induction bs generalizing sent with
  | nil => exact .nil
  | cons b rest ih =>
    rw [List.mapM_cons, List.flatMap_cons, List.map_cons]
    refine (batch b).bind (ih.bind_pure fun outcomes => _ :: outcomes) (fun k hk => ?_) fun k => ?_
    · rw [Batch.interiorOf, if_pos hk]
    · rw [Batch.interiorOf, if_neg (Nat.not_lt.2 (Nat.le_add_right _ _)), Nat.add_sub_cancel_left]

/-- A script sends its batches and answers for them in order. -/
theorem script (s : Script String) : Delivery c sent s.flatten s.interior
    (⟨c.backend, s.batches.map fun b => ⟨b.phase, b.statements.length⟩⟩ : RunOutcome)
    (c.runScript s sent) :=
  (batches s.batches).bind_pure fun outcomes => (⟨c.backend, outcomes⟩ : RunOutcome)

end Delivery

theorem RunOutcome.size_of_batches (backend : String) (s : Script String) :
    RunOutcome.size ⟨backend, s.batches.map fun b => ⟨b.phase, b.statements.length⟩⟩ = s.size := by
  simp [RunOutcome.size, Script.size, List.foldr_map]

/-- **A script is delivered whole, or up to its first refusal.** A run that succeeds sent every
statement of the script, and the database accepted them all. A run that fails sent the script up to
and including the first statement that was refused; an abort marker follows exactly if that one
stands between the markers of a batch. The failure carries the statement and the database's words.
-/
theorem runScript_delivers (c : Connection) (s : Script String) (sent : List String) :
    match c.runScript s sent with
    | (.ok outcome, received) =>
      received = sent ++ s.flatten ∧ c.Accepts sent s.flatten ∧
        outcome.batches = (s.batches.map fun b => ⟨b.phase, b.statements.length⟩) ∧
        outcome.size = s.size
    | (.error e, received) =>
      ∃ k statement cause, c.FirstRefusal sent s.flatten k statement cause ∧
        received = sent ++ s.flatten.take (k + 1) ++ (if s.interior k then [abortMarker] else []) ∧
        e = .refusedStatement statement cause.message := by
  have h : Delivery c sent s.flatten s.interior _ (c.runScript s sent) := .script s
  generalize c.runScript s sent = out at h
  cases h with
  | whole haccepted => exact ⟨rfl, haccepted, rfl, RunOutcome.size_of_batches c.backend s⟩
  | stopped hrefusal => exact ⟨_, _, _, hrefusal, rfl, rfl⟩

end Interleave
