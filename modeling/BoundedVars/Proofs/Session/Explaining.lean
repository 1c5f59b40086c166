import BoundedVars.Proofs.Session.Running
import BoundedVars.Proofs.Store.Wording
import BoundedVars.Session

/-!
# Parts of a session that can say what went wrong

`Run.Explains run` says that, whatever the session is, `run` fails only with failures that have a
wording.  Sequences inherit it from their parts (`explains_bind`), and terms, calls and requests to
a store have it (`explains_eval`, `explains_call`, `explains_performStep`).

Announcing a change has it as well, whatever receivers do (`explains_giveNotice`): the failure of a
receiver goes no further, and the failure to find a wording for it has one itself.
-/

namespace BoundedVars.Run

open Except Heap

variable {α β : Type} {run : Run α} {next : α → Run β}

/-- Carried out in whatever session, it fails only with failures that have a wording. -/
def Explains (run : Run α) : Prop :=
  ∀ s : Session, Worded (run.on s).1

/-! ### Sequences -/

@[simp] theorem explains_pure (a : α) : Explains (pure a : Run α) :=
  fun _ => failsOnly_ok a

theorem explains_throw {failure : Failure} (hworded : failure.IsWorded) :
    Explains (throw failure : Run α) :=
  fun _ => failsOnly_error hworded

@[simp] theorem explains_bind (hrun : Explains run) (hnext : ∀ a, Explains (next a)) :
    Explains (run >>= next) := by
  intro s
  have h := hrun s
  rw [on_bind]
  rcases hon : run.on s with ⟨failure | a, t⟩
  · rw [hon] at h
    exact failsOnly_error (h failure rfl)
  · exact hnext a t

/-- Of what is tried only the handling counts. -/
theorem explains_tryCatch {handle : Failure → Run α}
    (hhandle : ∀ failure, Explains (handle failure)) : Explains (tryCatch run handle) := by
  intro s
  rw [on_tryCatch]
  rcases run.on s with ⟨failure | a, t⟩
  · exact hhandle failure t
  · exact failsOnly_ok a

@[simp] theorem explains_map {f : α → β} (hrun : Explains run) : Explains (f <$> run) := by
  rw [map_eq_pure_bind]
  exact explains_bind hrun fun a => explains_pure (f a)

@[simp] theorem explains_optionMapM {f : α → Run β} (hf : ∀ a, Explains (f a)) (a : Option α) :
    Explains (a.mapM f) := by
  cases a with
  | none => exact explains_pure none
  | some a => exact explains_map (hf a)

theorem explains_forM {f : α → Run PUnit} {as : List α} (hf : ∀ a ∈ as, Explains (f a)) :
    Explains (as.forM f) := by
  induction as with
  | nil => exact explains_pure ()
  | cons a rest ih =>
    exact explains_bind (hf a List.mem_cons_self) fun _ =>
      ih fun b hb => hf b (List.mem_cons_of_mem _ hb)

/-! ### What a session is made of -/

theorem explains_ofExcept {result : Except Failure α} (hresult : Worded result) :
    Explains (ofExcept result) := by
  intro s
  rw [on_ofExcept]
  exact hresult

theorem explains_read {f : Heap → Except Failure α} (hf : ∀ h, Worded (f h)) :
    Explains (read f) := by
  intro s
  rw [on_read]
  exact hf s.heap

@[simp] theorem explains_get : Explains (get : Run Session) :=
  fun s => failsOnly_ok s

@[simp] theorem explains_heap : Explains heap :=
  fun s => failsOnly_ok s.heap

@[simp] theorem explains_modify (f : Session → Session) : Explains (modify f : Run Unit) :=
  fun _ => failsOnly_ok ()

@[simp] theorem explains_setHeap (h : Heap) : Explains (setHeap h) :=
  fun _ => failsOnly_ok ()

@[simp] theorem explains_allocate (make : Heap → Value × Heap) : Explains (allocate make) :=
  fun s => failsOnly_ok (make s.heap).1

@[simp] theorem explains_freshSerials (count : Nat) : Explains (freshSerials count) :=
  fun s => failsOnly_ok s.fresh

@[simp] theorem explains_freshSerial : Explains freshSerial :=
  explains_freshSerials 1

@[simp] theorem explains_note (entry : TraceEntry) : Explains (note entry) :=
  fun _ => failsOnly_ok ()

@[simp] theorem explains_save (name : String) (v : Value) : Explains (save name v) :=
  fun _ => failsOnly_ok ()

@[simp] theorem explains_saved (name : String) : Explains (saved name) := by
  refine explains_bind explains_get fun s => ?_
  split
  · exact explains_pure _
  · exact explains_throw trivial

@[simp] theorem explains_datum (v : Value) : Explains (datum v) :=
  explains_bind explains_get fun s => explains_ofExcept (s.heap.worded_datumWithin _ _ v)

/-- A message that cannot be rendered is a failure that says so. -/
theorem worded_check (message : String) : Worded (Log.check message) := by
  unfold Log.check
  split
  · exact failsOnly_ok _
  · exact failsOnly_error trivial

@[simp] theorem explains_log (severity : Severity) (message : String) (cause : Option Category) :
    Explains (log severity message cause) := by
  refine explains_bind explains_get fun s => ?_
  split_ifs
  · exact explains_bind (explains_note _) fun _ => explains_ofExcept (worded_check message)
  · exact explains_pure ()

/-! ### Terms -/

mutual

/-- **Evaluating a term** fails with a wording. -/
theorem explains_eval (term : Term) : Explains term.eval := by
  cases term with
  | none | bool | text => exact explains_pure _
  | int n =>
    refine explains_ofExcept ?_
    unfold Value.ofNumeral
    dsimp only
    split_ifs
    · exact failsOnly_error trivial
    · exact failsOnly_ok _
  | float | bytes | raising | notCallable | plain =>
    exact explains_bind explains_freshSerial fun _ => explains_pure _
  | list items | tuple items =>
    exact explains_bind explains_freshSerial fun _ => explains_bind (explains_evalAll items)
      fun _ => explains_pure _
  | dict pairs =>
    exact explains_bind (explains_evalEntries .empty pairs) fun _ => explains_allocate _
  | attributed data =>
    refine explains_bind (explains_eval data) fun v => ?_
    exact explains_bind (explains_read fun h => h.worded_putEntries .empty v) fun _ =>
      explains_allocate _
  | view data =>
    refine explains_bind (explains_eval data) fun v => ?_
    refine explains_bind explains_freshSerial fun _ => ?_
    exact explains_bind (explains_read fun h => h.worded_copyEntries v) fun _ => explains_pure _
  | limits named =>
    refine explains_bind (explains_evalNamed named) fun named => ?_
    exact explains_bind explains_freshSerial fun serial =>
      explains_ofExcept (Value.worded_makeLimits serial [] named)
  | repeated text times => exact explains_bind (explains_eval text) fun _ => explains_pure _
  | joined texts => exact explains_bind (explains_evalAll texts) fun _ => explains_pure _
  | context data =>
    refine explains_bind (explains_eval data) fun v => ?_
    exact explains_bind (explains_read fun h => h.worded_copyEntries v) fun _ =>
      explains_allocate _
  | saved name => exact explains_saved name

theorem explains_evalAll (terms : List Term) : Explains (Term.evalAll terms) := by
  cases terms with
  | nil => exact explains_pure _
  | cons term rest =>
    exact explains_bind (explains_eval term) fun _ => explains_bind (explains_evalAll rest)
      fun _ => explains_pure _

theorem explains_evalEntries (entries : Entries) (pairs : List (Term × Term)) :
    Explains (Term.evalEntries entries pairs) := by
  match pairs with
  | [] => exact explains_pure _
  | (key, value) :: rest =>
    refine explains_bind (explains_eval key) fun key => explains_bind (explains_eval value)
      fun value => ?_
    exact explains_bind (explains_ofExcept (entries.worded_put key value)) fun entries =>
      explains_evalEntries entries rest

theorem explains_evalNamed (named : List (String × Term)) : Explains (Term.evalNamed named) := by
  match named with
  | [] => exact explains_pure _
  | (name, term) :: rest =>
    exact explains_bind (explains_eval term) fun _ => explains_bind (explains_evalNamed rest)
      fun _ => explains_pure _

end

theorem explains_evalOption (term : Option Term) : Explains (Term.evalOption term) := by
  cases term with
  | none => exact explains_pure _
  | some term => exact explains_eval term

/-! ### Calls -/

/-- The failure of a receiver is reported, or the failure to find a wording for it has one. -/
theorem explains_reportReceiver (event : String) (failure : Failure) :
    Explains (reportReceiver event failure) :=
  explains_bind
    (explains_read fun h unshown hfails => (h.failsOnly_message failure unshown hfails).isWorded)
    fun _ => explains_log _ _ _

/-- **Giving notice** fails with a wording, whatever receivers do. -/
theorem explains_giveNotice (react : Reactor) (address : Nat) (notice : Notice) :
    Explains (giveNotice react address notice) := by
  cases notice with
  | log severity message => exact explains_log severity message none
  | change change =>
    refine explains_bind (explains_tryCatch fun failure => ?_) fun _ => explains_pure ()
    exact explains_bind (explains_reportReceiver _ _) fun _ => explains_pure []

theorem explains_operate (react : Reactor) (address : Nat) (operation : Store.Operation) :
    Explains (operate react address operation) := by
  refine explains_bind explains_heap fun h => explains_bind (explains_setHeap _) fun _ => ?_
  refine explains_bind (explains_forM fun notice _ => explains_giveNotice react address notice)
    fun _ => ?_
  exact explains_ofExcept ((h.store address).worded_outcome operation)

theorem explains_scriptOf (context : Value) : Explains (scriptOf context) :=
  explains_bind (explains_read fun h => h.worded_scriptName context) fun _ => explains_pure _

theorem explains_viewOf (vars : Vars) : Explains (viewOf vars) := by
  unfold viewOf
  split_ifs
  · exact explains_pure _
  · exact explains_bind explains_freshSerial fun _ => explains_pure _

/-- **A call** fails with a wording, whatever receivers do. -/
theorem explains_call (react : Reactor) (address : Nat) (call : Call) :
    Explains (Run.call react address call) := by
  cases call with
  | update operation =>
    exact explains_bind (explains_operate react address operation) fun _ => explains_pure _
  | updateFromContext context key value =>
    exact explains_bind (explains_scriptOf context) fun _ =>
      explains_bind (explains_operate react address _) fun _ => explains_pure _
  | getFromContext context key =>
    exact explains_bind (explains_scriptOf context) fun _ => explains_bind explains_heap
      fun _ => explains_pure _
  | getVarsFromContext context =>
    exact explains_bind (explains_scriptOf context) fun _ => explains_bind explains_heap
      fun _ => explains_viewOf _
  | getScriptVars script => exact explains_bind explains_heap fun _ => explains_viewOf _
  | getGlobals =>
    exact explains_bind explains_heap fun _ => explains_bind explains_freshSerial
      fun _ => explains_pure _
  | snapshot =>
    exact explains_bind explains_heap fun _ => explains_bind (explains_freshSerials _)
      fun _ => explains_pure _
  | _ => exact explains_bind explains_heap fun _ => explains_pure _

theorem explains_answer (result : Result) : Explains result.answer := by
  cases result with
  | value v => exact explains_bind (explains_datum v) fun _ => explains_pure _
  | datum | filled => exact explains_pure _

theorem explains_storeAddress (name : String) : Explains (storeAddress name) := by
  refine explains_bind (explains_saved name) fun v => ?_
  split
  · exact explains_pure _
  · exact explains_throw trivial

theorem explains_create (react : Reactor) (name : String) (limits : Option Term) :
    Explains (performStore react name (.create limits)) := by
  refine explains_bind (explains_evalOption limits) fun limits => ?_
  refine explains_bind explains_freshSerial fun _ => ?_
  refine explains_bind (explains_read fun h => h.worded_isTruthy limits) fun _ => ?_
  exact explains_bind (explains_allocate _) fun _ => explains_bind (explains_save name _)
    fun _ => explains_pure _

theorem explains_setLimits (react : Reactor) (name : String) (value : Term) :
    Explains (performStore react name (.setLimits value)) :=
  explains_bind (explains_storeAddress name) fun _ => explains_bind (explains_eval value)
    fun _ => explains_throw trivial

theorem explains_raise (message : Term) (budget : Nat) :
    Explains (react budget (.raise message)) := by
  cases budget
  all_goals
    refine explains_bind (explains_eval message) fun v => ?_
    exact explains_bind (explains_read fun h => h.worded_plainText v) fun _ =>
      explains_throw trivial

end BoundedVars.Run
