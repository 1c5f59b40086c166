import BoundedVars.Proofs.Store.Messages

/-!
# What operations end in

An operation ends in its result, unless a message on the way cannot be rendered.  That depends on
which messages are recorded: `Outcome.resultAt` is what an outcome ends in at a level of the log.
Messages that can be rendered do not matter (`resultAt_of_passes`), and where only warnings are
recorded nothing that succeeds without the log fails because of it (`Conduct.resultAt_eq_ok_iff`).
-/

namespace BoundedVars

/-- What a notice comes to at a level of the log: a message that is recorded has to be rendered. -/
def Notice.checkAt (level : Int) : Notice → Except Failure Unit
  | .log severity message => if Log.records level severity then Log.check message else .ok ()
  | .change _ => .ok ()

namespace Outcome

variable {o : Outcome} {level : Int}

/-- What an operation ends in at a level of the log: its result, once all notices are given. -/
def resultAt (o : Outcome) (level : Int) : Except Failure Unit := do
  o.notices.forM (Notice.checkAt level)
  o.result

theorem resultAt_nil (store : Store) (result : Except Failure Unit) :
    resultAt ⟨store, [], result⟩ level = result := rfl

theorem resultAt_cons (store : Store) (notice : Notice) (rest : List Notice)
    (result : Except Failure Unit) :
    resultAt ⟨store, notice :: rest, result⟩ level = (do
      notice.checkAt level
      resultAt ⟨store, rest, result⟩ level) := by
  rw [resultAt, List.forM_eq_forM, List.forM_cons, bind_assoc]
  rfl

/-- Messages that are not recorded or can be rendered do not matter. -/
theorem resultAt_of_passes (h : ∀ severity message, .log severity message ∈ o.notices →
    Log.records level severity = true → Log.check message = .ok ()) :
    o.resultAt level = o.result := by
  obtain ⟨store, notices, result⟩ := o
  induction notices with
  | nil => rfl
  | cons notice rest ih =>
    have hnotice : notice.checkAt level = .ok () := by
      cases notice with
      | change => rfl
      | log severity message =>
        rw [Notice.checkAt]
        split_ifs with hrecords
        · exact h severity message List.mem_cons_self hrecords
        · rfl
    rw [resultAt_cons, hnotice, Except.ok_bind]
    exact ih fun severity message hmem => h severity message (List.mem_cons_of_mem _ hmem)

theorem resultAt_of_renders (h : Store.Renders o.notices) : o.resultAt level = o.result :=
  resultAt_of_passes fun severity message hmem _ => h severity message hmem

theorem resultAt_changes (store : Store) (changes : List Change) (result : Except Failure Unit) :
    resultAt ⟨store, changes.map .change, result⟩ level = result :=
  resultAt_of_passes fun _ _ hmem => by simp at hmem

end Outcome

/-- Where only warnings are recorded, the log does not make an operation fail that succeeds without
it. -/
theorem Store.Conduct.resultAt_eq_ok_iff {s : Store} {o : Outcome} {level : Int}
    (h : Store.Conduct s o) (hquiet : Log.records level .debug = false) :
    o.resultAt level = .ok () ↔ o.result = .ok () := by
  cases h with
  | silent => rfl
  | warns message failure =>
    rw [Outcome.resultAt, Except.bind_eq_ok_iff]
    exact ⟨fun ⟨_, _, hok⟩ => hok, nofun⟩
  | reports message changes =>
    refine iff_of_true (Outcome.resultAt_of_passes fun severity text hmem hrecords => ?_) rfl
    simp only [List.mem_cons, Notice.log.injEq, List.mem_map, reduceCtorEq, and_false, exists_false,
      or_false] at hmem
    rw [hmem.1, hquiet] at hrecords
    cases hrecords

end BoundedVars
