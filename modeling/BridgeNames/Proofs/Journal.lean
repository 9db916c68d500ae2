import BridgeNames.Journal

/-!
# What an operation reports

An operation reads nothing from its journal: it gives its answer and puts what it has to say behind
what is already there. `Naming.Reports` says so of an operation, together with the answer, the
diagnostics, and the records that it gives. The reports of a sequence of operations follow from
those of its members (`Reports.bind`, `Reports.bind_error`), so no later proof looks into a journal.

What an operation reports is what it gives on the empty journal, so it need not be named to be
spoken of: a `Steady` operation reports its own `answer`, `reported` and `logged`, and what is put
together from steady operations is steady. A `Silent` operation reports no diagnostics, so one that
goes on silently reports those of its first step alone (`Steady.reported_bind`).
-/

namespace BridgeNames

/-- Adding no diagnostics leaves the queue as it is. -/
@[simp]
theorem DiagnosticQueue.append_nil (q : DiagnosticQueue) : q.append [] = q := by
  simp [append]

namespace Journal

/-- Adding nothing leaves the journal as it is. -/
@[simp]
theorem add_nil (j : Journal) : j.add [] [] = j := by
  simp [add]

/-- What is added in two parts is added at once. -/
@[simp]
theorem add_add (j : Journal) (ds es : List Diagnostic) (rs ss : Log) :
    (j.add ds rs).add es ss = j.add (ds ++ es) (rs ++ ss) := by
  simp [add, DiagnosticQueue.append]

/-- The operation, which cannot fail, gives the answer and adds the diagnostics and the records,
whatever its journal holds. -/
def Adds {α : Type} (x : StateM Journal α) (answer : α) (ds : List Diagnostic) (rs : Log) : Prop :=
  ∀ j : Journal, x.run j = (answer, j.add ds rs)

section Adds

variable {α β : Type} {x : StateM Journal α} {f : α → StateM Journal β} {a : α} {b : β}
  {ds es : List Diagnostic} {rs ss : Log}

/-- An operation that does nothing adds nothing. -/
theorem adds_pure (a : α) : Adds (pure a) a [] [] := by
  intro j
  rw [add_nil]
  rfl

/-- What is said is added. -/
theorem adds_say (ds : List Diagnostic) (rs : Log) : Adds (say ds rs) () ds rs :=
  fun _ => rfl

/-- A sequence adds what its members add, in their order. -/
theorem Adds.bind (hx : Adds x a ds rs) (hf : Adds (f a) b es ss) :
    Adds (x >>= f) b (ds ++ es) (rs ++ ss) := by
  intro j
  show (f (x.run j).1).run (x.run j).2 = _
  rw [hx j, hf, add_add]

/-- What is said before an operation is added before what it adds. -/
theorem Adds.after_say {y : StateM Journal β} (hy : Adds y b es ss) (ds : List Diagnostic)
    (rs : Log) : Adds (do say ds rs; y) b (ds ++ es) (rs ++ ss) :=
  (adds_say ds rs).bind hy

end Adds

end Journal

namespace Naming

variable {α β : Type} {x : Naming α} {f : α → Naming β} {ds es : List Diagnostic} {rs ss : Log}

/-- The operation gives the answer and adds the diagnostics and the records, whatever its journal
holds. -/
def Reports (x : Naming α) (answer : Except Error α) (ds : List Diagnostic) (rs : Log) : Prop :=
  ∀ j : Journal, x.run.run j = (answer, j.add ds rs)

/-- The answer of an operation to which nothing has been said before. -/
def answer (x : Naming α) : Except Error α := (x.run.run .empty).1

/-- The answer of an operation is the one that it reports. -/
theorem Reports.answer_eq {r : Except Error α} (h : Reports x r ds rs) : x.answer = r := by
  rw [answer, h .empty]

/-- The answer that an operation reports is its answer on every journal. -/
theorem Reports.run_fst {r : Except Error α} (h : Reports x r ds rs) (j : Journal) :
    (x.run.run j).1 = r := by
  rw [h j]

/-- A sequence of two operations runs the second one on the journal that the first one leaves,
unless the first one fails. -/
theorem run_bind (x : Naming α) (f : α → Naming β) (j : Journal) :
    (x >>= f).run.run j =
      match x.run.run j with
      | (.ok a, next) => (f a).run.run next
      | (.error e, next) => (.error e, next) := by
  show (ExceptT.bindCont f (x.run.run j).1).run (x.run.run j).2 = _
  rcases x.run.run j with ⟨_ | _, _⟩ <;> rfl

/-- An operation that does nothing reports its value alone. -/
theorem reports_pure (a : α) : Reports (pure a) (.ok a) [] [] := by
  intro j
  rw [Journal.add_nil]
  rfl

/-- A failure reports its error alone. -/
theorem reports_throw (e : Error) : Reports (throw e : Naming α) (.error e) [] [] := by
  intro j
  rw [Journal.add_nil]
  rfl

/-- An operation that cannot fail reports its value and what it says. -/
theorem reports_lift {y : StateM Journal α} {a : α} (h : ∀ j, y.run j = (a, j.add ds rs)) :
    Reports (liftM y) (.ok a) ds rs := by
  intro j
  show (let (b, next) := y.run j; (Except.ok b, next)) = _
  rw [h j]

/-- A sequence reports what its members report, in their order, and the answer of the last. -/
theorem Reports.bind {a : α} {r : Except Error β} (hx : Reports x (.ok a) ds rs)
    (hf : Reports (f a) r es ss) : Reports (x >>= f) r (ds ++ es) (rs ++ ss) := by
  intro j
  rw [run_bind, hx j]
  show (f a).run.run _ = _
  rw [hf, Journal.add_add]

/-- A sequence ends with the first failure. -/
theorem Reports.bind_error {e : Error} (hx : Reports x (.error e) ds rs) :
    Reports (x >>= f) (.error e) ds rs := by
  intro j
  rw [run_bind, hx j]

/-- An operation that is run for its answer reports no diagnostics. -/
theorem Reports.quietly {r : Except Error α} (hx : Reports x r ds rs) :
    Reports (quietly x) r [] rs := by
  intro j
  show ((x.run.run j).1, { (x.run.run j).2 with queue := j.queue }) = _
  rw [hx j]
  simp [Journal.add]

/-- An operation followed by a function reports the value of the function, or the same error. -/
theorem Reports.bind_pure {r : Except Error α} (hx : Reports x r ds rs) (g : α → β) :
    Reports (x >>= fun a => pure (g a)) (r.map g) ds rs := by
  cases r with
  | error e => exact hx.bind_error
  | ok a =>
    have hall := hx.bind (f := fun a => pure (g a)) (reports_pure (g a))
    rwa [List.append_nil, List.append_nil] at hall

/-- A handler runs on the journal that the failed operation leaves. -/
theorem run_tryCatch (x : Naming α) (handle : Error → Naming α) (j : Journal) :
    (tryCatch x handle).run.run j =
      match x.run.run j with
      | (.ok a, next) => (.ok a, next)
      | (.error e, next) => (handle e).run.run next := by
  rw [ExceptT.run_tryCatch, StateT.run_bind]
  rcases x.run.run j with ⟨_ | _, _⟩ <;> rfl

/-- A handler has nothing to do for an operation that succeeds. -/
theorem Reports.tryCatch_ok {a : α} {handle : Error → Naming α} (hx : Reports x (.ok a) ds rs) :
    Reports (tryCatch x handle) (.ok a) ds rs := by
  intro j
  rw [run_tryCatch, hx j]

/-- A handler answers for an operation that fails, and what the operation has said stays said. -/
theorem Reports.tryCatch_error {e : Error} {r : Except Error α} {handle : Error → Naming α}
    (hx : Reports x (.error e) ds rs) (hh : Reports (handle e) r es ss) :
    Reports (tryCatch x handle) r (ds ++ es) (rs ++ ss) := by
  intro j
  rw [run_tryCatch, hx j]
  show (handle e).run.run _ = _
  rw [hh, Journal.add_add]

/-- The diagnostics of an operation to which nothing has been said before. -/
def reported (x : Naming α) : List Diagnostic := (x.run.run .empty).2.queue.entries

/-- The records of an operation to which nothing has been said before. -/
def logged (x : Naming α) : Log := (x.run.run .empty).2.log

/-- The operation does the same on every journal. -/
def Steady (x : Naming α) : Prop :=
  Reports x x.answer x.reported x.logged

/-- The diagnostics that an operation reports are those it has on the empty journal. -/
theorem Reports.reported_eq {r : Except Error α} (h : Reports x r ds rs) : x.reported = ds := by
  rw [reported, h .empty]
  rfl

/-- The records that an operation reports are those it has on the empty journal. -/
theorem Reports.logged_eq {r : Except Error α} (h : Reports x r ds rs) : x.logged = rs := by
  rw [logged, h .empty]
  rfl

/-- An operation that reports anything at all is steady. -/
theorem Reports.steady {r : Except Error α} (h : Reports x r ds rs) : Steady x := by
  rw [Steady, h.answer_eq, h.reported_eq, h.logged_eq]
  exact h

/-- A sequence of steady operations is steady. -/
theorem Steady.bind (hx : Steady x) (hf : ∀ a, Steady (f a)) : Steady (x >>= f) := by
  unfold Steady at hx
  cases h : x.answer with
  | error e =>
    rw [h] at hx
    exact hx.bind_error.steady
  | ok a =>
    rw [h] at hx
    exact (hx.bind (hf a)).steady

/-- An operation that succeeds steadily or is handled steadily is steady. -/
theorem Steady.tryCatch {handle : Error → Naming α} (hx : Steady x) (hh : ∀ e, Steady (handle e)) :
    Steady (tryCatch x handle) := by
  unfold Steady at hx
  cases h : x.answer with
  | error e =>
    rw [h] at hx
    exact (hx.tryCatch_error (hh e)).steady
  | ok a =>
    rw [h] at hx
    exact hx.tryCatch_ok.steady

/-- What an operation leaves in the queue is what it reports, behind what was there. -/
theorem Steady.run_queue (hx : Steady x) (j : Journal) :
    (x.run.run j).2.queue = j.queue.append x.reported := by
  rw [hx j]
  rfl

/-- The answer of a sequence is that of its second member, unless the first one fails. -/
theorem answer_bind (x : Naming α) (hf : ∀ a, Steady (f a)) :
    (x >>= f).answer = x.answer.bind fun a => (f a).answer := by
  unfold answer
  rw [run_bind]
  rcases x.run.run .empty with ⟨_ | a, next⟩
  · rfl
  · exact (hf a).run_fst next

/-- An operation followed by a function has the value of the function, or the same error. -/
theorem answer_bind_pure (x : Naming α) (g : α → β) :
    (x >>= fun a => pure (g a)).answer = x.answer.map g := by
  rw [answer_bind x fun a => (reports_pure (g a)).steady]
  rfl

/-- If such an operation has a value, it is that of the function. -/
theorem exists_of_answer_bind_pure {g : α → β} {b : β}
    (h : (x >>= fun a => pure (g a)).answer = .ok b) : ∃ a, x.answer = .ok a ∧ g a = b := by
  rw [answer_bind_pure] at h
  cases hx : x.answer with
  | error e =>
    rw [hx] at h
    cases h
  | ok a =>
    rw [hx] at h
    exact ⟨a, rfl, Except.ok.inj h⟩

/-- An operation that is run without its diagnostics has the same answer. -/
theorem answer_quietly (x : Naming α) : (quietly x).answer = x.answer := rfl

/-- The operation reports no diagnostics. -/
def Silent (x : Naming α) : Prop :=
  ∃ r rs, Reports x r [] rs

/-- An operation that does nothing is silent. -/
theorem silent_pure (a : α) : Silent (pure a : Naming α) :=
  ⟨_, _, reports_pure a⟩

/-- An answer that is already there is given silently. -/
theorem silent_ofExcept (r : Except Error α) : Silent (MonadExcept.ofExcept r : Naming α) := by
  cases r with
  | error e => exact ⟨_, _, reports_throw e⟩
  | ok a => exact silent_pure a

/-- A record for the log is silent. -/
theorem silent_note (rs : Log) : Silent (liftM (say [] rs) : Naming Unit) :=
  ⟨_, rs, reports_lift fun _ => rfl⟩

/-- A steady operation that is run for its answer is silent. -/
theorem Steady.quietly (hx : Steady x) : Silent (quietly x) :=
  ⟨_, _, Reports.quietly hx⟩

/-- A silent operation is steady. -/
theorem Silent.steady (hx : Silent x) : Steady x := by
  obtain ⟨r, rs, h⟩ := hx
  exact h.steady

/-- A sequence of silent operations is silent. -/
theorem Silent.bind (hx : Silent x) (hf : ∀ a, Silent (f a)) : Silent (x >>= f) := by
  obtain ⟨r, rs, hx⟩ := hx
  cases r with
  | error e => exact ⟨_, rs, hx.bind_error⟩
  | ok a =>
    obtain ⟨r, ss, hf⟩ := hf a
    exact ⟨r, _, hx.bind hf⟩

/-- An operation that goes on silently reports the diagnostics of its first step. -/
theorem Steady.reported_bind (hx : Steady x) (hf : ∀ a, Silent (f a)) :
    (x >>= f).reported = x.reported := by
  unfold Steady at hx
  cases h : x.answer with
  | error e =>
    rw [h] at hx
    exact hx.bind_error.reported_eq
  | ok a =>
    obtain ⟨r, ss, hf⟩ := hf a
    rw [h] at hx
    rw [(hx.bind hf).reported_eq, List.append_nil]

end Naming

end BridgeNames
