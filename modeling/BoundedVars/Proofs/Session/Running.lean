import BoundedVars.Session

/-!
# Carrying things out, equation by equation

`Run.on` carries something out on a session.  The equations below say what it gives for each way of
putting steps together (`on_bind`, `on_tryCatch`) and for each primitive, so that nobody has to know
how `Run` is made.
-/

namespace BoundedVars

/-- A session at its start, with one new store. -/
def Session.withStore (limits : Value) : Session :=
  { start with heap := (Heap.empty.newStore (.new limits)).2 }

namespace Run

variable {α β : Type} {s : Session}

/-- Carries something out on a session: its result or failure, and the session afterwards. -/
def on (run : Run α) (s : Session) : Except Failure α × Session :=
  run.run s

@[simp] theorem on_pure (a : α) : (pure a : Run α).on s = (.ok a, s) := rfl

@[simp] theorem on_throw (failure : Failure) : (throw failure : Run α).on s = (.error failure, s) :=
  rfl

/-- A sequence goes on from where its first part ends, unless that fails. -/
theorem on_bind (run : Run α) (next : α → Run β) :
    (run >>= next).on s =
      match run.on s with
      | (.ok a, t) => (next a).on t
      | (.error failure, t) => (.error failure, t) := by
  unfold on ExceptT.run
  simp only [bind, ExceptT.bind, ExceptT.mk, StateT.bind, ExceptT.bindCont]
  cases run s with
  | mk result t => cases result <;> rfl

theorem on_bind_ok {run : Run α} {next : α → Run β} {a : α} {t : Session}
    (h : run.on s = (.ok a, t)) : (run >>= next).on s = (next a).on t := by
  rw [on_bind, h]

theorem on_bind_error {run : Run α} {next : α → Run β} {failure : Failure} {t : Session}
    (h : run.on s = (.error failure, t)) : (run >>= next).on s = (.error failure, t) := by
  rw [on_bind, h]

/-- What is tried keeps its effects when it fails. -/
theorem on_tryCatch (run : Run α) (handle : Failure → Run α) :
    (tryCatch run handle).on s =
      match run.on s with
      | (.ok a, t) => (.ok a, t)
      | (.error failure, t) => (handle failure).on t := by
  unfold on ExceptT.run
  simp only [tryCatch, tryCatchThe, MonadExceptOf.tryCatch, ExceptT.tryCatch, ExceptT.mk, bind,
    StateT.bind]
  cases run s with
  | mk result t => cases result <;> rfl

/-- Attempting something comes to its result and leaves what it leaves. -/
theorem on_attempt {α : Type} (run : Run α) (s : Session) :
    (attempt run).on s = (.ok (run.on s).1, (run.on s).2) := by
  rw [attempt, on_tryCatch, on_bind]
  rcases run.on s with ⟨_ | _, t⟩ <;> rfl

@[simp] theorem on_get : (get : Run Session).on s = (.ok s, s) := rfl

@[simp] theorem on_modify (f : Session → Session) : (modify f : Run Unit).on s = (.ok (), f s) :=
  rfl

@[simp] theorem on_ofExcept (result : Except Failure α) :
    (ofExcept result).on s = (result, s) := by
  cases result <;> rfl

@[simp] theorem on_heap : heap.on s = (.ok s.heap, s) := rfl

@[simp] theorem on_setHeap (h : Heap) : (setHeap h).on s = (.ok (), { s with heap := h }) := rfl

@[simp] theorem on_read (f : Heap → Except Failure α) : (read f).on s = (f s.heap, s) := by
  rw [read, on_bind_ok on_heap, on_ofExcept]

@[simp] theorem on_note (entry : TraceEntry) :
    (note entry).on s = (.ok (), { s with trace := s.trace ++ [entry] }) := rfl

@[simp] theorem on_freshSerials (count : Nat) :
    (freshSerials count).on s = (.ok s.fresh, { s with fresh := s.fresh + count }) := rfl

@[simp] theorem on_freshSerial :
    freshSerial.on s = (.ok s.fresh, { s with fresh := s.fresh + 1 }) := rfl

/-- A receiver that only takes note does nothing. -/
theorem react_record (budget : Nat) : Run.react budget .record = pure () := by
  cases budget <;> rfl

end Run

end BoundedVars
