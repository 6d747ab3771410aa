import Interleave.Proofs.Delivery

/-!
# Lifetimes of batches

Not only scripts use batches. A caller may start one, send what it likes, go on after a refusal, and
then commit the batch or leave it, and it may do so again and again.

* `Lifetime`: what a caller does with one batch; `Lifetime.run` does it.
* `Connection.countAccepted`: how many statements are accepted, whatever becomes of the others.
* `Lifetime.Frame`: what a lifetime sends, and how it ends, by the answers of the database.
* `Lifetime.Frames`: the same for lifetimes one after another.
* `lifetimes_framed`: **whatever callers do and whatever the database answers, each start marker
  that is accepted is followed by the statements of its lifetime and by one closing marker**, and
  one that is refused by nothing.
-/

namespace Interleave

/-- What a caller does with a batch, if it can be started. -/
structure Lifetime where
  /-- Sent one after another, also behind one that is refused. -/
  statements : List String
  /-- The batch is committed in the end. Otherwise it is just left. -/
  commits : Bool

/-- How a lifetime ends for the caller. -/
inductive Lifetime.End where
  | notStarted (e : DesignError)
  | committed (answer : Except DesignError ℕ)
  | left

/-- Send a statement and keep the batch, whatever the answer. -/
def OpenBatch.attempt (c : Connection) (batch : OpenBatch) (statement : String) :
    StateM (List String) OpenBatch := do
  match ← (batch.send c statement).run with
  | .ok batch => return batch
  | .error _ => return batch

def Lifetime.run (c : Connection) (l : Lifetime) : StateM (List String) Lifetime.End := do
  match ← (OpenBatch.start c).run with
  | .error e => return .notStarted e
  | .ok batch =>
    let batch ← l.statements.foldlM (OpenBatch.attempt c) batch
    if l.commits then
      return .committed (← (batch.commit c).run)
    else
      let _ ← (batch.leave c).run
      return .left

/-- How many of the statements are accepted if all of them are sent, the first of them after `sent`.
-/
def Connection.countAccepted (c : Connection) (sent : List String) : List String → ℕ
  | [] => 0
  | statement :: rest =>
    (if c.answer sent statement = .ok () then 1 else 0) + c.countAccepted (sent ++ [statement]) rest

namespace Lifetime

/-- What a lifetime sends after `sent`, and how it ends. -/
inductive Frame (c : Connection) (sent : List String) (l : Lifetime) : List String → End → Prop
  | notStarted {cause : ConnectionError} (refused : c.answer sent startMarker = .error cause) :
    Frame c sent l [startMarker] (.notStarted (.refusedStatement startMarker cause.message))
  | left (started : c.answer sent startMarker = .ok ()) (hleft : l.commits = false) :
    Frame c sent l (startMarker :: l.statements ++ [abortMarker]) .left
  | committed (started : c.answer sent startMarker = .ok ()) (hcommits : l.commits = true)
    (accepted : c.answer (sent ++ startMarker :: l.statements) runMarker = .ok ()) :
    Frame c sent l (startMarker :: l.statements ++ [runMarker])
      (.committed (.ok (c.countAccepted (sent ++ [startMarker]) l.statements)))
  | refused {cause : ConnectionError} (started : c.answer sent startMarker = .ok ())
    (hcommits : l.commits = true)
    (refused : c.answer (sent ++ startMarker :: l.statements) runMarker = .error cause) :
    Frame c sent l (startMarker :: l.statements ++ [runMarker])
      (.committed (.error (.refusedStatement runMarker cause.message)))

/-- What lifetimes send one after another, the first of them after `sent`: all that has been
received in the end, and how each of them ends. -/
inductive Frames (c : Connection) :
    (sent : List String) → List Lifetime → List End → (received : List String) → Prop
  | nil {sent : List String} : Frames c sent [] [] sent
  | cons {sent frame received : List String} {l : Lifetime} {rest : List Lifetime} {ending : End}
    {endings : List End} (first : l.Frame c sent frame ending)
    (others : Frames c (sent ++ frame) rest endings received) :
    Frames c sent (l :: rest) (ending :: endings) received

end Lifetime

variable {c : Connection} {sent : List String}

namespace OpenBatch

variable {batch : OpenBatch}

/-- A statement that is refused is not counted, and it does not close the batch. -/
theorem attempt_eq (batch : OpenBatch) (statement : String) : batch.attempt c statement sent =
    ({ batch with accepted := batch.accepted + if c.answer sent statement = .ok () then 1 else 0 },
      sent ++ [statement]) := by
  cases hanswer : c.answer sent statement with
  | ok =>
    have hsend : batch.send c statement sent =
        (.ok { batch with accepted := batch.accepted + 1 }, sent ++ [statement]) :=
      Session.bind_of_ok (Connection.send_of_ok hanswer)
    simp only [attempt, ExceptT.run, bind, StateT.bind, hsend]
    rfl
  | error cause =>
    have hsend : batch.send c statement sent =
        (.error (.refusedStatement statement cause.message), sent ++ [statement]) :=
      Session.bind_of_error (Connection.send_of_error hanswer)
    simp only [attempt, ExceptT.run, bind, StateT.bind, hsend]
    rfl

/-- Whatever is refused, all statements are sent, and the accepted ones are counted. -/
theorem foldlM_attempt (batch : OpenBatch) (statements : List String) :
    statements.foldlM (OpenBatch.attempt c) batch sent =
      ({ batch with accepted := batch.accepted + c.countAccepted sent statements },
        sent ++ statements) := by
  induction statements generalizing batch sent with
  | nil => rw [List.append_nil]; rfl
  | cons statement rest ih =>
    rw [List.foldlM_cons]
    simp only [bind, StateT.bind, attempt_eq]
    rw [ih, List.append_assoc, Connection.countAccepted, Nat.add_assoc]
    rfl

end OpenBatch

namespace Lifetime

variable {l : Lifetime}

theorem run_of_refused {cause : ConnectionError} (h : c.answer sent startMarker = .error cause) :
    l.run c sent =
      (.notStarted (.refusedStatement startMarker cause.message), sent ++ [startMarker]) := by
  have hstart : OpenBatch.start c sent =
      (.error (.refusedStatement startMarker cause.message), sent ++ [startMarker]) :=
    Session.bind_of_error (Connection.send_of_error h)
  simp only [run, ExceptT.run, bind, StateT.bind, hstart]
  rfl

/-- Once a batch is started, all statements are sent, and the batch still waits for its closing
marker. -/
theorem run_of_started (h : c.answer sent startMarker = .ok ()) : l.run c sent =
    if l.commits then
      Prod.map .committed id
        (OpenBatch.commit c ⟨true, c.countAccepted (sent ++ [startMarker]) l.statements⟩
          (sent ++ startMarker :: l.statements))
    else (.left, sent ++ startMarker :: l.statements ++ [abortMarker]) := by
  have hstart : OpenBatch.start c sent = (.ok {}, sent ++ [startMarker]) :=
    Session.bind_of_ok (Connection.send_of_ok h)
  have hfill : l.statements.foldlM (OpenBatch.attempt c) {} (sent ++ [startMarker]) = _ :=
    OpenBatch.foldlM_attempt {} l.statements
  rw [Nat.zero_add, List.append_assoc, List.singleton_append] at hfill
  have hleave : ∀ n received, OpenBatch.leave c ⟨true, n⟩ received =
      (.ok (), received ++ [abortMarker]) :=
    fun _ _ => OpenBatch.discard_eq
  simp only [run, ExceptT.run, bind, StateT.bind, hstart, hfill]
  split
  · rfl
  · simp only [StateT.bind, hleave]
    rfl

/-- **One lifetime**: an accepted start marker is followed by the statements and by one closing
marker. -/
theorem frame_of_run (c : Connection) (l : Lifetime) (sent : List String) :
    ∃ frame, (l.run c sent).2 = sent ++ frame ∧ l.Frame c sent frame (l.run c sent).1 := by
  cases hstart : c.answer sent startMarker with
  | error cause =>
    rw [run_of_refused hstart]
    exact ⟨_, rfl, .notStarted hstart⟩
  | ok =>
    rw [run_of_started hstart]
    cases hcommits : l.commits with
    | false =>
      exact ⟨startMarker :: l.statements ++ [abortMarker], List.append_assoc ..,
        .left hstart hcommits⟩
    | true =>
      rw [if_pos rfl, OpenBatch.commit_eq]
      refine ⟨startMarker :: l.statements ++ [runMarker], ?_⟩
      cases hrun : c.answer (sent ++ startMarker :: l.statements) runMarker with
      | ok =>
        rw [Session.bind_of_ok (Connection.send_of_ok hrun)]
        exact ⟨List.append_assoc .., .committed hstart hcommits hrun⟩
      | error cause =>
        rw [Session.bind_of_error (Connection.send_of_error hrun)]
        exact ⟨List.append_assoc .., .refused hstart hcommits hrun⟩

end Lifetime

/-- **Every lifetime is framed**, whatever its caller does and whatever the database answers. A
start marker that is accepted is followed by the statements of the lifetime, refused ones among
them, and by one closing marker: the run marker if the batch was committed, the abort marker
otherwise. A start marker that is refused is followed by nothing. Only then does the next lifetime
begin. A batch that is committed counts the statements that were accepted. -/
theorem lifetimes_framed (c : Connection) (lifetimes : List Lifetime) (sent : List String) :
    Lifetime.Frames c sent lifetimes (lifetimes.mapM (Lifetime.run c) sent).1
      (lifetimes.mapM (Lifetime.run c) sent).2 := by
  induction lifetimes generalizing sent with
  | nil => exact .nil
  | cons l rest ih =>
    obtain ⟨frame, hsent, hframe⟩ := l.frame_of_run c sent
    rw [List.mapM_cons]
    refine .cons hframe ?_
    rw [← hsent]
    exact ih _

end Interleave
