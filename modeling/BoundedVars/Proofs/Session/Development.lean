import BoundedVars.Proofs.Heap
import BoundedVars.Proofs.Session.Notices
import BoundedVars.Proofs.Session.Obeying

/-!
# How sessions develop

A `Session.Continued` relation between sessions can be continued and holds whenever all stays as it
was that matters to stores, views and receivers (`Session.Kept`).  `Run.Leads R` says that carrying
something out leads from every session to one that is `R`-related to it.  Sequences inherit this
from their parts (`leads_bind`), and evaluating terms, reading and showing values have it for any
such relation.

A `Session.Course` holds of all requests that obey a rule and do not concern stores.  What a request
can do besides is to add to the trace, to set the level of the log, to connect receivers, and to
replace the entries of a view if the rule allows for it.  The simplest case is a
`Session.Development`, which holds whenever the stores are the same, whatever else has changed.

If a course also allows for the operations of stores and for new stores (`Session.StoreCourse`), it
holds of everything a session can do by the rule: `leads_performStep` for one step, `rel_actions`
for any number.  What receivers do while an event is delivered is included; the induction is on the
number of reactions that can take place inside each other.
-/

namespace BoundedVars

/-- A session with the same stores, replaced views, receivers, level of the log and deliveries. -/
structure Session.Kept (s t : Session) : Prop where
  stores : t.heap.stores = s.heap.stores
  replaced : t.heap.replaced = s.heap.replaced
  subscriptions : t.subscriptions = s.subscriptions
  level : t.level = s.level
  deliveries_eq : t.deliveries = s.deliveries

/-- A way in which sessions go on: it can be continued, and what is kept does not count. -/
class Session.Continued (R : Session → Session → Prop) : Prop where
  trans : ∀ {s t u}, R s t → R t u → R s u
  of_kept : ∀ {s t : Session}, Kept s t → R s t

/-- A rule lets the entries of views be replaced. -/
def Rule.ReplacesViews (rule : Rule) : Prop :=
  ∃ view name value, rule (.view view (.setAttribute name value))

/-- A way in which sessions go on as long as all requests obey a rule. -/
class Session.Course (rule : outParam Rule) (R : Session → Session → Prop) : Prop extends
    Session.Continued R where
  /-- It only counts when all receivers obey the rule. -/
  guarded : ∀ {s t : Session}, (s.Obeys rule → R s t) → R s t
  noted : ∀ (s : Session) (entry : TraceEntry), R s { s with trace := s.trace ++ [entry] }
  levelled : ∀ (s : Session) (level : Int), R s { s with level := level }
  /-- Other receivers come in as long as they obey the rule, too. -/
  connected : ∀ {s t : Session}, t.heap = s.heap → t.level = s.level → t.trace = s.trace →
    (∀ event, ∀ subscription ∈ t.connected event, subscription.reaction.Obeys rule ∨
      ∃ old ∈ s.connected event, old.reaction = subscription.reaction) → R s t
  replaced : rule.ReplacesViews → ∀ (s : Session) (serial : Nat) (value : Value),
    R s { s with heap := s.heap.replaceView serial value }

/-- A course that allows for the operations of stores, too. -/
class Session.StoreCourse (rule : outParam Rule) (R : Session → Session → Prop) : Prop extends
    Session.Course rule R where
  operate : ∀ (s : Session) (address : Nat) (operation : Store.Operation),
    R s { s with
      heap := s.heap.setStore address ((s.heap.store address).outcome operation).store }
  create : ∀ (s : Session) (limits : Value),
    R s { s with heap := (s.heap.newStore (.new limits)).2 }

/-- A way in which sessions develop: it can be continued, and only the stores count. -/
class Session.Development (R : Session → Session → Prop) : Prop extends Session.Continued R where
  of_stores_eq : ∀ {s t : Session}, t.heap.stores = s.heap.stores → R s t
  of_kept := fun h => of_stores_eq h.stores

/-- A way in which sessions develop through the operations of stores, too. -/
class Session.StoreDevelopment (R : Session → Session → Prop) : Prop extends
    Session.Development R where
  operate : ∀ (s : Session) (address : Nat) (operation : Store.Operation),
    R s { s with
      heap := s.heap.setStore address ((s.heap.store address).outcome operation).store }
  create : ∀ (s : Session) (limits : Value),
    R s { s with heap := (s.heap.newStore (.new limits)).2 }

/-- The rule that allows everything. -/
def Rule.anything : Rule := fun _ => True

theorem Request.obeys_anything (request : Request) : request.Obeys Rule.anything :=
  obeys_of_forall (fun _ => trivial) request

namespace Session

variable {R : Session → Session → Prop}

instance [Development R] : Course Rule.anything R where
  guarded h := h (obeys_of_forall (fun _ => trivial) _)
  noted _ _ := Development.of_stores_eq rfl
  levelled _ _ := Development.of_stores_eq rfl
  connected hheap _ _ _ := Development.of_stores_eq (by rw [hheap])
  replaced _ _ _ _ := Development.of_stores_eq rfl

instance [StoreDevelopment R] : StoreCourse Rule.anything R where
  operate := StoreDevelopment.operate
  create := StoreDevelopment.create

end Session

namespace Run

open Session (Continued Course Development Kept StoreCourse StoreDevelopment)

variable {R : Session → Session → Prop} {rule : Rule} {α β : Type}

/-- Whatever the session is, carrying something out leads to one that is related to it. -/
def Leads (R : Session → Session → Prop) (run : Run α) : Prop :=
  ∀ s, R s (run.on s).2

section Sequences

variable [Continued R]

theorem leads_of_kept {run : Run α} (h : ∀ s, Kept s (run.on s).2) : Leads R run :=
  fun s => Continued.of_kept (h s)

theorem rel_bind {run : Run α} {next : α → Run β} {s : Session} (h : R s (run.on s).2)
    (hnext : ∀ a, Leads R (next a)) : R s ((run >>= next).on s).2 := by
  rw [on_bind]
  cases hs : run.on s with
  | mk result t =>
    rw [hs] at h
    cases result with
    | ok a => exact Continued.trans h (hnext a t)
    | error failure => exact h

@[simp] theorem leads_bind {run : Run α} {next : α → Run β} (hrun : Leads R run)
    (hnext : ∀ a, Leads R (next a)) : Leads R (run >>= next) :=
  fun s => rel_bind (hrun s) hnext

@[simp] theorem leads_tryCatch {run : Run α} {handle : Failure → Run α} (hrun : Leads R run)
    (hhandle : ∀ failure, Leads R (handle failure)) : Leads R (tryCatch run handle) := by
  intro s
  have h := hrun s
  rw [on_tryCatch]
  cases hs : run.on s with
  | mk result t =>
    rw [hs] at h
    cases result with
    | ok a => exact h
    | error failure => exact Continued.trans h (hhandle failure t)

@[simp] theorem leads_pure (a : α) : Leads R (pure a) :=
  leads_of_kept fun _ => ⟨rfl, rfl, rfl, rfl, rfl⟩

@[simp] theorem leads_throw (failure : Failure) : Leads R (throw failure : Run α) :=
  leads_of_kept fun _ => ⟨rfl, rfl, rfl, rfl, rfl⟩

@[simp] theorem leads_map {f : α → β} {run : Run α} (hrun : Leads R run) :
    Leads R (f <$> run) := by
  rw [map_eq_pure_bind]
  exact leads_bind hrun fun a => leads_pure (f a)

@[simp] theorem leads_attempt {run : Run α} (hrun : Leads R run) : Leads R (attempt run) := by
  unfold attempt
  exact leads_tryCatch (leads_map hrun) fun failure => leads_pure _

@[simp] theorem leads_mapM {f : α → Run β} (hf : ∀ a, Leads R (f a)) (as : List α) :
    Leads R (as.mapM f) := by
  induction as with
  | nil => exact leads_pure []
  | cons a rest ih =>
    rw [List.mapM_cons]
    exact leads_bind (hf a) fun _ => leads_map ih

@[simp] theorem leads_optionMapM {f : α → Run β} (hf : ∀ a, Leads R (f a)) (a : Option α) :
    Leads R (a.mapM f) := by
  cases a with
  | none => exact leads_pure none
  | some a => exact leads_map (hf a)

theorem leads_forM_of_mem {f : α → Run PUnit} {as : List α} (hf : ∀ a ∈ as, Leads R (f a)) :
    Leads R (as.forM f) := by
  induction as with
  | nil => exact leads_pure ()
  | cons a rest ih =>
    exact leads_bind (hf a List.mem_cons_self) fun _ =>
      ih fun b hmem => hf b (List.mem_cons_of_mem _ hmem)

@[simp] theorem leads_forM {f : α → Run PUnit} (hf : ∀ a, Leads R (f a)) (as : List α) :
    Leads R (as.forM f) :=
  leads_forM_of_mem fun a _ => hf a

@[simp] theorem leads_foldlM {f : β → α → Run β} (hf : ∀ b a, Leads R (f b a)) (as : List α) :
    ∀ b, Leads R (as.foldlM f b) := by
  induction as with
  | nil => exact fun b => leads_pure b
  | cons a rest ih =>
    intro b
    rw [List.foldlM_cons]
    exact leads_bind (hf b a) ih

end Sequences

/-! ### What keeps everything -/

section Keeping

variable [Continued R]

@[simp] theorem leads_get : Leads R (get : Run Session) :=
  leads_of_kept fun _ => ⟨rfl, rfl, rfl, rfl, rfl⟩

@[simp] theorem leads_ofExcept (result : Except Failure α) : Leads R (ofExcept result) :=
  leads_of_kept fun s => by
    rw [on_ofExcept]
    exact ⟨rfl, rfl, rfl, rfl, rfl⟩

@[simp] theorem leads_heap : Leads R heap :=
  leads_of_kept fun _ => ⟨rfl, rfl, rfl, rfl, rfl⟩

@[simp] theorem leads_read (f : Heap → Except Failure α) : Leads R (read f) :=
  leads_bind leads_heap fun h => leads_ofExcept (f h)

@[simp] theorem leads_freshSerial : Leads R freshSerial :=
  leads_of_kept fun _ => ⟨rfl, rfl, rfl, rfl, rfl⟩

@[simp] theorem leads_freshSerials (count : Nat) : Leads R (freshSerials count) :=
  leads_of_kept fun _ => ⟨rfl, rfl, rfl, rfl, rfl⟩

@[simp] theorem leads_save (name : String) (v : Value) : Leads R (save name v) :=
  leads_of_kept fun _ => ⟨rfl, rfl, rfl, rfl, rfl⟩

@[simp] theorem leads_saved (name : String) : Leads R (saved name) := by
  unfold saved
  refine leads_bind leads_get fun s => ?_
  split <;> simp

@[simp] theorem leads_datum (v : Value) : Leads R (datum v) := by
  simp [datum]

@[simp] theorem leads_newDict (attributed : Bool) (entries : Entries) :
    Leads R (allocate fun h => h.newDict attributed entries) :=
  leads_of_kept fun _ => ⟨rfl, rfl, rfl, rfl, rfl⟩

@[simp] theorem leads_newConfig (sources : List Value) :
    Leads R (allocate fun h => h.newConfig sources) :=
  leads_of_kept fun _ => ⟨rfl, rfl, rfl, rfl, rfl⟩

@[simp] theorem leads_newContext (attributes : Entries) :
    Leads R (allocate fun h => h.newContext attributes) :=
  leads_of_kept fun _ => ⟨rfl, rfl, rfl, rfl, rfl⟩

/-- A receiver has carried out a step. -/
theorem leads_note_nested (result : Except Complaint Answer) : Leads R (note (.nested result)) :=
  leads_of_kept fun s => ⟨rfl, rfl, rfl, rfl, s.deliveries_noted_other rfl⟩

end Keeping

/-! ### Terms and answers -/

section Terms

variable [Continued R]

mutual

@[simp] theorem leads_eval (term : Term) : Leads R term.eval := by
  cases term <;> unfold Term.eval <;> repeat' with_reducible refine leads_bind ?_ fun _ => ?_
  all_goals first
    | exact leads_eval _
    | exact leads_evalAll _
    | exact leads_evalEntries _ _
    | exact leads_evalNamed _
    | simp

@[simp] theorem leads_evalAll (terms : List Term) : Leads R (Term.evalAll terms) := by
  cases terms with
  | nil => exact leads_pure []
  | cons term rest =>
    exact leads_bind (leads_eval term) fun _ =>
      leads_bind (leads_evalAll rest) fun _ => leads_pure _

@[simp] theorem leads_evalEntries (entries : Entries) (pairs : List (Term × Term)) :
    Leads R (Term.evalEntries entries pairs) := by
  match pairs with
  | [] => exact leads_pure entries
  | (key, value) :: rest =>
    exact leads_bind (leads_eval key) fun _ => leads_bind (leads_eval value) fun _ =>
      leads_bind (leads_ofExcept _) fun entries => leads_evalEntries entries rest

@[simp] theorem leads_evalNamed (named : List (String × Term)) :
    Leads R (Term.evalNamed named) := by
  match named with
  | [] => exact leads_pure []
  | (name, term) :: rest =>
    exact leads_bind (leads_eval term) fun _ =>
      leads_bind (leads_evalNamed rest) fun _ => leads_pure _

end

@[simp] theorem leads_evalOption (term : Option Term) : Leads R (Term.evalOption term) := by
  cases term with
  | none => exact leads_pure Value.none
  | some term => exact leads_eval term

@[simp] theorem leads_listed (vs : List Value) : Leads R (listed vs) := by
  simp [listed]

@[simp] theorem leads_collection (vs : List Value) : Leads R (collection vs) := by
  simp [collection]

@[simp] theorem leads_listedPairs (entries : List (Value × Value)) :
    Leads R (listedPairs entries) := by
  refine leads_bind (leads_mapM (fun e => ?_) entries) fun _ => leads_pure _
  exact leads_bind (leads_datum e.1) fun _ => leads_bind (leads_datum e.2) fun _ => leads_pure _

@[simp] theorem leads_answer (result : Result) : Leads R result.answer := by
  cases result <;> simp [Result.answer]

end Terms

/-! ### Changing the heap -/

section Heap

variable [Continued R]

/-- Reading something off the heap, with what is known about it when going on. -/
theorem leads_read_bind {f : Heap → Except Failure α} {next : α → Run β}
    (h : ∀ s a, f s.heap = .ok a → R s ((next a).on s).2) : Leads R (read f >>= next) := by
  intro s
  cases hf : f s.heap with
  | error failure =>
    rw [on_bind_error (by rw [on_read, hf])]
    exact Continued.of_kept ⟨rfl, rfl, rfl, rfl, rfl⟩
  | ok a =>
    rw [on_bind_ok (by rw [on_read, hf])]
    exact h s a hf

/-- Replacing the heap by one that spares stores and views. -/
theorem rel_setHeap {s : Session} {h : Heap} {next : Run α} (hspared : s.heap.Spared h)
    (hnext : Leads R next) : R s ((setHeap h >>= fun _ => next).on s).2 := by
  have hkept : Kept s { s with heap := h } :=
    ⟨hspared.stores, hspared.replaced, rfl, rfl, rfl⟩
  rw [on_bind_ok (on_setHeap h)]
  exact Continued.trans (Continued.of_kept hkept) (hnext _)

theorem leads_update {f : Heap → Except Failure Heap} {next : Run α}
    (hf : ∀ {h h'}, f h = .ok h' → h.Spared h') (hnext : Leads R next) :
    Leads R (read f >>= fun h => setHeap h >>= fun _ => next) :=
  leads_read_bind fun _ _ hok => rel_setHeap (hf hok) hnext

end Heap

/-! ### The trace and the log -/

section Log

variable [Course rule R]
include rule

@[simp] theorem leads_note (entry : TraceEntry) : Leads R (note entry) :=
  fun s => Course.noted s entry

@[simp] theorem leads_log (severity : Severity) (message : String) (cause : Option Category) :
    Leads R (log severity message cause) := by
  unfold log
  refine leads_bind leads_get fun s => ?_
  split_ifs <;> simp

@[simp] theorem leads_reportReceiver (event : String) (failure : Failure) :
    Leads R (reportReceiver event failure) :=
  leads_bind (leads_read _) fun _ => leads_log _ _ _

@[simp] theorem leads_setLevel (v : Value) : Leads R (setLevel v) := by
  unfold setLevel
  exact leads_bind (leads_read _) fun level s => Course.levelled s level

end Log

/-! ### Requests that do not concern stores -/

section Contexts

variable [Continued R]

@[simp] theorem leads_createContext (name : String) (data : Value) :
    Leads R (createContext name data) := by
  unfold createContext
  repeat' with_reducible refine leads_bind ?_ fun _ => ?_
  all_goals simp

@[simp] theorem leads_performContext (request : ContextRequest) :
    Leads R (performContext request) := by
  cases request with
  | setAttribute context name value =>
    exact leads_bind (leads_eval _) fun _ => leads_bind (leads_eval _) fun _ =>
      leads_bind (leads_eval _) fun _ => leads_update Heap.spared_setAttribute (leads_pure _)
  | removeAttribute context name =>
    refine leads_bind (leads_eval _) fun _ => leads_bind (leads_eval _) fun _ => ?_
    exact leads_read_bind fun s found hok =>
      rel_setHeap (Heap.spared_removeAttribute hok) (leads_pure _)
  | _ =>
    unfold performContext
    repeat' with_reducible refine leads_bind ?_ fun _ => ?_
    all_goals simp

end Contexts

section Views

variable [Continued R]

@[simp] theorem leads_viewed (v : Value) : Leads R (viewed v) := by
  unfold viewed
  split_ifs <;> simp

@[simp] theorem leads_otherMapping (term : Term) : Leads R (otherMapping term) := by
  unfold otherMapping
  repeat' with_reducible refine leads_bind ?_ fun _ => ?_
  all_goals simp

@[simp] theorem leads_operand (sign : String) (term : Term) : Leads R (operand sign term) := by
  unfold operand
  refine leads_bind (leads_eval _) fun _ => ?_
  split_ifs <;> simp

@[simp] theorem leads_mergeInto (view : Value) (address : Nat) :
    Leads R (mergeInto view address) := by
  unfold mergeInto
  repeat' with_reducible refine leads_bind ?_ fun _ => ?_
  all_goals simp

@[simp] theorem leads_createView (data : Option Term) : Leads R (createView data) := by
  unfold createView
  repeat' with_reducible refine leads_bind ?_ fun _ => ?_
  all_goals simp

end Views

section Requests

variable [Course rule R]
include rule

/-- The entries of a view are replaced only if the rule allows for it. -/
theorem leads_queryView {term : Term} {query : ViewQuery} (hrule : rule (.view term query))
    (view : Value) : Leads R (queryView view query) := by
  cases query with
  | hash =>
    cases hview : view.unhashable? <;> simp [queryView, hview]
  | merge other =>
    unfold queryView
    refine leads_bind (leads_eval _) fun other => ?_
    split <;> simp
  | setAttribute name value =>
    refine leads_bind (leads_eval _) fun _ => leads_bind (leads_eval _) fun value => ?_
    -- Only a view has an attribute that can be set: it stands for its entries.
    refine leads_read_bind fun s h hok => ?_
    obtain ⟨serial, rfl⟩ := Heap.setViewAttribute_eq_ok hok
    exact Course.replaced ⟨_, _, _, hrule⟩ s serial value
  | _ =>
    unfold queryView
    repeat' with_reducible refine leads_bind ?_ fun _ => ?_
    all_goals simp

@[simp] theorem leads_describe (setting : Setting) : Leads R (describe setting) := by
  simp [describe]

@[simp] theorem leads_configureLog (conf : Value) : Leads R (configureLog conf) := by
  simp [configureLog]

@[simp] theorem leads_limitsFrom (conf : Value) : Leads R (limitsFrom conf) := by
  unfold limitsFrom
  repeat' with_reducible refine leads_bind ?_ fun _ => ?_
  all_goals simp

@[simp] theorem leads_queryMapping (v : Value) (query : MappingQuery) :
    Leads R (queryMapping v query) := by
  cases query with
  | put key value =>
    exact leads_bind (leads_eval _) fun _ => leads_bind (leads_eval _) fun _ =>
      leads_update Heap.spared_putItem (leads_pure _)
  | delete key =>
    exact leads_bind (leads_eval _) fun _ => leads_update Heap.spared_deleteItem (leads_pure _)
  | pop key fallback =>
    refine leads_bind (leads_eval _) fun _ => leads_bind (leads_optionMapM leads_eval _) fun _ => ?_
    exact leads_read_bind fun s found hok =>
      rel_setHeap (Heap.spared_popItem hok) (leads_pure _)
  -- Asked for its layers, a configuration makes its own entries a dictionary, which is new.
  | layers =>
    exact leads_read_bind fun s found hok =>
      rel_setHeap (Heap.spared_layers hok) (leads_listed _)
  | clear => exact leads_update Heap.spared_clearItems (leads_pure _)
  | items =>
    unfold queryMapping
    split_ifs <;> simp
  | _ =>
    unfold queryMapping
    repeat' with_reducible refine leads_bind ?_ fun _ => ?_
    all_goals simp

@[simp] theorem leads_performConfig (request : ConfigRequest) :
    Leads R (performConfig request) := by
  cases request
  all_goals
    unfold performConfig
    repeat' with_reducible refine leads_bind ?_ fun _ => ?_
    all_goals simp

@[simp] theorem leads_levels : Leads R levels := by
  simp [levels]

@[simp] theorem leads_performLog (request : LogRequest) : Leads R (performLog request) := by
  cases request
  all_goals
    unfold performLog
    repeat' with_reducible refine leads_bind ?_ fun _ => ?_
    all_goals simp

end Requests

/-! ### Events -/

section Connecting

variable [Continued R]

@[simp] theorem leads_subscribers (event : String) : Leads R (subscribers event) := by
  simp [subscribers]

@[simp] theorem leads_hold (serial : Nat) : Leads R (hold serial) :=
  leads_of_kept fun _ => ⟨rfl, rfl, rfl, rfl, rfl⟩

end Connecting

section Events

variable [Course rule R]
include rule

/-- Other receivers of one event, who obey the rule or were there before. -/
theorem rel_setSubscribers (event : String) {subscriptions : List Subscription} {s : Session}
    (h : ∀ subscription ∈ subscriptions, subscription.reaction.Obeys rule ∨
      ∃ old ∈ s.connected event, old.reaction = subscription.reaction) :
    R s ((setSubscribers event subscriptions).on s).2 := by
  refine Course.connected rfl rfl rfl fun other subscription hmem => ?_
  by_cases heq : other = event
  · subst heq
    refine h subscription ?_
    simpa [setSubscribers, Session.connected, Table.get?_insert_self] using hmem
  · refine Or.inr ⟨subscription, ?_, rfl⟩
    simpa [setSubscribers, Session.connected, Table.get?_insert_of_ne _ _ heq] using hmem

@[simp] theorem leads_countReaction (event : String) (serial : Nat) :
    Leads R (countReaction event serial) := by
  intro s
  unfold countReaction
  rw [on_bind_ok (on_subscribers event)]
  refine rel_setSubscribers event fun subscription hmem => Or.inr ?_
  obtain ⟨old, hold, rfl⟩ := List.mem_map.mp hmem
  refine ⟨old, hold, ?_⟩
  split_ifs <;> rfl

@[simp] theorem leads_release (held : List Nat) : Leads R (release held) := by
  intro s
  refine Course.connected rfl rfl rfl fun event subscription hmem => Or.inr ?_
  rw [connected_release] at hmem
  exact ⟨subscription, List.mem_of_mem_filter hmem, rfl⟩

theorem leads_connect (event : String) {subscription : Subscription}
    (hobeys : subscription.reaction.Obeys rule) : Leads R (connect event subscription) := by
  intro s
  unfold connect
  rw [on_bind_ok on_get, on_bind_ok (on_subscribers event)]
  refine rel_bind (rel_setSubscribers event fun new hmem => ?_) fun _ => ?_
  · rcases List.mem_append.mp hmem with hmem | hmem
    · obtain ⟨old, hold, hkept⟩ := List.mem_filterMap.mp hmem
      refine Or.inr ⟨old, hold, ?_⟩
      split_ifs at hkept
      · rw [Option.some.inj hkept]
      · rw [← Option.some.inj hkept]
    · obtain rfl := List.mem_singleton.mp hmem
      exact Or.inl hobeys
  · split
    · split_ifs <;> simp
    · simp

variable {react : Reactor} (hreact : ∀ reaction, reaction.Obeys rule → Leads R (react reaction))
include hreact

theorem leads_deliver (event : Event) {subscription : Subscription}
    (hobeys : subscription.reaction.Obeys rule) :
    Leads R (deliver react event subscription) := by
  unfold deliver
  refine leads_bind (leads_datum _) fun _ => leads_bind leads_get fun _ =>
    leads_bind (leads_ofExcept _) fun _ => leads_bind (leads_note _) fun _ => ?_
  split_ifs
  · exact leads_pure "done"
  · exact leads_bind (leads_countReaction _ _) fun _ => leads_bind (hreact _ hobeys) fun _ =>
      leads_read _

theorem leads_deliverAll (event : Event) (subscriptions : List Subscription) :
    Leads R (deliverAll react event subscriptions) := by
  induction subscriptions with
  | nil => exact leads_pure []
  | cons subscription rest ih =>
    intro s
    refine Course.guarded fun hobeys => ?_
    unfold deliverAll
    rw [on_bind_ok (on_subscribers event.name)]
    cases hfind : (s.connected event.name).find? (·.serial == subscription.serial) with
    | none => exact ih s
    | some current =>
      have hcurrent := hobeys event.name current (List.mem_of_find?_eq_some hfind)
      exact leads_bind (leads_hold _) (fun _ => leads_bind (leads_deliver hreact _ hcurrent)
        fun _ => leads_bind ih fun _ => leads_pure _) s

theorem leads_send (event : Event) : Leads R (send react event) := by
  unfold send
  split_ifs
  · exact leads_throw _
  · refine leads_bind leads_get fun _ => leads_bind (leads_subscribers _) fun _ => ?_
    refine leads_bind (leads_attempt (leads_deliverAll hreact _ _)) fun _ => ?_
    exact leads_bind (leads_release _) fun _ => leads_ofExcept _

theorem leads_emit (event : Event) : Leads R (emit react event) := by
  unfold emit
  exact leads_tryCatch (leads_send hreact event) fun _ =>
    leads_bind (leads_reportReceiver _ _) fun _ => leads_pure []

theorem leads_giveNotice (address : Nat) (notice : Notice) :
    Leads R (giveNotice react address notice) := by
  cases notice with
  | log severity message => exact leads_log severity message none
  | change change => exact leads_bind (leads_emit hreact _) fun _ => leads_pure ()

theorem leads_performEvent {request : EventRequest} (hobeys : Request.Obeys rule (.event request)) :
    Leads R (performEvent react request) := by
  cases request with
  | connect event receiver sender reaction times =>
    refine leads_bind (leads_optionMapM leads_eval _) fun _ => ?_
    refine leads_bind leads_freshSerial fun _ => ?_
    exact leads_bind (leads_connect event hobeys.2) fun _ => leads_pure _
  | disconnect event receiver =>
    intro s
    unfold performEvent
    rw [on_bind_ok (on_subscribers event)]
    refine rel_bind (rel_setSubscribers event fun subscription hmem => ?_) fun _ => leads_pure _
    exact Or.inr ⟨subscription, List.mem_of_mem_filter hmem, rfl⟩
  | signal event => exact leads_bind (leads_subscribers _) fun _ => leads_pure _
  | emit event sender payload =>
    refine leads_bind (leads_eval _) fun _ => leads_bind (leads_evalNamed _) fun _ => ?_
    split_ifs <;> try exact leads_throw _
    exact leads_bind (leads_emit hreact _) fun _ => leads_pure _

end Events

/-! ### Stores -/

section Finding

variable [Continued R]

@[simp] theorem leads_storeAddress (name : String) : Leads R (storeAddress name) := by
  unfold storeAddress
  refine leads_bind (leads_saved name) fun _ => ?_
  split <;> simp

@[simp] theorem leads_scriptOf (context : Value) : Leads R (scriptOf context) := by
  simp [scriptOf]

@[simp] theorem leads_viewOf (vars : Vars) : Leads R (viewOf vars) := by
  unfold viewOf
  split_ifs <;> simp

/-- Making a store is up to what a new store counts for. -/
theorem leads_create (hnew : ∀ limits, Leads R (allocate fun h => h.newStore (.new limits)))
    (react : Reactor) (name : String) (limits : Option Term) :
    Leads R (performStore react name (.create limits)) := by
  unfold performStore
  repeat' with_reducible refine leads_bind ?_ fun _ => ?_
  all_goals first
    | exact hnew _
    | simp

theorem leads_setLimits (react : Reactor) (name : String) (value : Term) :
    Leads R (performStore react name (.setLimits value)) := by
  unfold performStore
  repeat' with_reducible refine leads_bind ?_ fun _ => ?_
  all_goals simp

end Finding

section Stores

variable [StoreCourse rule R]
include rule

@[simp] theorem leads_newStore (limits : Value) :
    Leads R (allocate fun h => h.newStore (.new limits)) :=
  fun s => StoreCourse.create s limits

variable {react : Reactor} (hreact : ∀ reaction, reaction.Obeys rule → Leads R (react reaction))
include hreact

/-- An operation changes the store first; then everything is up to its notices. -/
theorem leads_operate (address : Nat) (operation : Store.Operation) :
    Leads R (operate react address operation) := by
  intro s
  have hnotices : Leads R (do
      ((s.heap.store address).outcome operation).notices.forM (giveNotice react address)
      ofExcept ((s.heap.store address).outcome operation).result) :=
    leads_bind (leads_forM (leads_giveNotice hreact address) _) fun _ => leads_ofExcept _
  unfold operate
  rw [on_bind_ok on_heap, on_bind_ok (on_setHeap _)]
  exact Continued.trans (StoreCourse.operate s address operation) (hnotices _)

theorem leads_call (address : Nat) (call : Call) : Leads R (Run.call react address call) := by
  cases call with
  | update operation => exact leads_bind (leads_operate hreact _ _) fun _ => leads_pure _
  | updateFromContext context key value =>
    exact leads_bind (leads_scriptOf _) fun _ => leads_bind (leads_operate hreact _ _) fun _ =>
      leads_pure _
  | _ =>
    unfold Run.call
    repeat' with_reducible refine leads_bind ?_ fun _ => ?_
    all_goals simp

theorem leads_fillStep (address : Nat) (keyStart : String) (value : Value) (script : Option Value)
    (report : Nat × List (Int × Complaint)) (i : Int) :
    Leads R (fillStep react address keyStart value script report i) := by
  unfold fillStep
  refine leads_tryCatch ?_ fun _ => leads_bind leads_heap fun _ => leads_pure _
  exact leads_bind (leads_operate hreact _ _) fun _ => leads_pure _

theorem leads_performStore (name : String) (request : StoreRequest) :
    Leads R (performStore react name request) := by
  cases request with
  | create limits => exact leads_create leads_newStore react name limits
  | setLimits value => exact leads_setLimits react name value
  | fill keyStart first last value script =>
    unfold performStore
    repeat' with_reducible refine leads_bind ?_ fun _ => ?_
    all_goals first
      | simp
      | exact leads_foldlM (leads_fillStep hreact _ _ _ _) _ _
  | _ =>
    unfold performStore
    repeat' with_reducible refine leads_bind ?_ fun _ => ?_
    all_goals first
      | exact leads_call hreact _ _
      | simp

theorem leads_perform (store : String) {request : Request} (hobeys : request.Obeys rule) :
    Leads R (perform react store request) := by
  cases request with
  | store request => exact leads_performStore hreact store request
  | context request => exact leads_performContext request
  | newView data => exact leads_createView data
  | view view query =>
    exact leads_bind (leads_eval view) fun _ => leads_queryView hobeys.self _
  | config request => exact leads_performConfig request
  | log request => exact leads_performLog request
  | event request => exact leads_performEvent hreact hobeys

theorem leads_performStep {step : Step} (hobeys : step.Obeys rule) :
    Leads R (performStep react step) := by
  refine leads_bind (leads_perform hreact _ hobeys.request) fun result => ?_
  dsimp only
  split <;> simp

end Stores

/-- Whatever receivers do, as long as they obey the rule, it is part of the course. -/
theorem leads_react [StoreCourse rule R] (budget : Nat) (reaction : Reaction)
    (hobeys : reaction.Obeys rule) : Leads R (react budget reaction) := by
  induction budget generalizing reaction with
  | zero => cases reaction <;> simp [react]
  | succ budget ih =>
    cases reaction with
    | report steps =>
      refine leads_forM_of_mem fun step hmem => ?_
      have hstep := leads_performStep ih (Step.allObey_iff.mp hobeys step hmem)
      exact leads_bind (leads_attempt hstep) fun _ => leads_bind leads_heap fun _ => leads_note _
    | perform steps =>
      refine leads_forM_of_mem fun step hmem => ?_
      have hstep := leads_performStep ih (Step.allObey_iff.mp hobeys step hmem)
      exact leads_bind hstep fun _ => leads_pure ()
    | _ => simp [react]

end Run

namespace Session

/-- Something done in a session from outside: a step, or a call of a store with whatever values. -/
inductive Action where
  | step (step : Step)
  | call (address : Nat) (call : Call)

/-- An action obeys a rule if it is a step that does, or a call. -/
def Action.Obeys (rule : Rule) : Action → Prop
  | .step given => given.Obeys rule
  | .call .. => True

/-- The session after an action. -/
def act (budget : Nat) (s : Session) : Action → Session
  | .step step => (s.step budget step).2
  | .call address call => ((Run.call (Run.react budget) address call).on s).2

/-- The session after actions, one after another, whether or not they succeed. -/
def after (budget : Nat) (s : Session) (actions : List Action) : Session :=
  actions.foldl (act budget) s

variable {R : Session → Session → Prop} {rule : Rule} [StoreCourse rule R]

/-- A session keeps its course in every action that obeys the rule.  Steps begin a new trace. -/
theorem rel_act (hcleared : ∀ s : Session, R s { s with trace := [] }) (budget : Nat) (s : Session)
    {action : Action} (hobeys : action.Obeys rule) : R s (s.act budget action) := by
  cases action with
  | step step =>
    exact Continued.trans (hcleared s) (Run.leads_performStep (Run.leads_react budget) hobeys _)
  | call address call => exact Run.leads_call (Run.leads_react budget) address call s

/-- **A session keeps its course in whatever is done by the rule.** -/
theorem rel_actions (hcleared : ∀ s : Session, R s { s with trace := [] }) (budget : Nat)
    (s : Session) {actions : List Action} (hobeys : ∀ action ∈ actions, action.Obeys rule) :
    R s (s.after budget actions) := by
  induction actions generalizing s with
  | nil => exact Continued.of_kept ⟨rfl, rfl, rfl, rfl, rfl⟩
  | cons action rest ih =>
    exact Continued.trans (rel_act hcleared budget s (hobeys action List.mem_cons_self))
      (ih _ fun other hmem => hobeys other (List.mem_cons_of_mem _ hmem))

/-- **A session develops in whatever is done.** -/
theorem rel_after {R : Session → Session → Prop} [StoreDevelopment R] (budget : Nat) (s : Session)
    (actions : List Action) : R s (s.after budget actions) := by
  have hcleared (s : Session) : R s { s with trace := [] } := Development.of_stores_eq rfl
  refine rel_actions hcleared budget s fun action _ => ?_
  cases action with
  | step step => exact Step.obeys_of_forall (fun _ => trivial) step
  | call => trivial

end Session

end BoundedVars
