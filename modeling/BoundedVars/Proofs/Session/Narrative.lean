import BoundedVars.Proofs.Session.Explaining
import BoundedVars.Proofs.Session.History

/-!
# What histories tell

A `Session.Narrative` relates a history to the session in which it begins and the one in which it
ends.  `Account.Tells R` says that the history of something to carry out is so related wherever it
begins.  Sequences inherit this from their parts (`tells_bind`), and what has no history has it if
it leads to an `R []`-related session.

Something that is `Account.Calling` does nothing that receivers or stores would notice but make
calls, in whatever order and depending on whatever, like a request to a store
(`calling_performStore`).  What it does is told by its calls (`Calling.tells`), and whatever it
fails with has a wording (`Calling.explains`).
-/

namespace BoundedVars

namespace Session

variable {s t u : Session} {address : Nat}

/-- A session with the same receivers, level of the log and deliveries, and the same stores, but
that new ones may have been made. -/
structure Grown (s t : Session) : Prop where
  stores : ∃ made, t.heap.stores = s.heap.stores ++ made
  subscriptions : t.subscriptions = s.subscriptions
  level : t.level = s.level
  deliveries_eq : t.deliveries = s.deliveries

instance : Continued Grown where
  trans hst htu := by
    obtain ⟨made, hmade⟩ := hst.stores
    obtain ⟨more, hmore⟩ := htu.stores
    exact ⟨⟨made ++ more, by rw [hmore, hmade, Array.append_assoc]⟩,
      htu.subscriptions.trans hst.subscriptions, htu.level.trans hst.level,
      htu.deliveries_eq.trans hst.deliveries_eq⟩
  of_kept h := ⟨⟨#[], by rw [h.stores, Array.append_empty]⟩, h.subscriptions, h.level,
    h.deliveries_eq⟩

theorem grown_newStore (s : Session) (store : Store) :
    Grown s { s with heap := (s.heap.newStore store).2 } :=
  ⟨⟨#[store], Array.push_eq_append⟩, rfl, rfl, rfl⟩

theorem Grown.present (h : Grown s t) (haddress : address < s.heap.stores.size) :
    address < t.heap.stores.size := by
  obtain ⟨made, hmade⟩ := h.stores
  rw [hmade, Array.size_append]
  omega

theorem Grown.store_eq (h : Grown s t) (haddress : address < s.heap.stores.size) :
    t.heap.store address = s.heap.store address := by
  obtain ⟨made, hmade⟩ := h.stores
  rw [Heap.store, Heap.store, hmade, Array.getD_eq_getD_getElem?, Array.getD_eq_getD_getElem?,
    Array.getElem?_append_left haddress]

/-- A relation between a history and the sessions in which it begins and ends: histories can be
continued, and there is nothing to tell where a session has only grown. -/
class Narrative (R : List Happening → Session → Session → Prop) : Prop where
  trans : ∀ {before after s t u}, R before s t → R after t u → R (before ++ after) s u
  of_grown : ∀ {s t}, Grown s t → R [] s t

instance Narrative.continued {R : List Happening → Session → Session → Prop} [Narrative R] :
    Continued (R []) where
  trans hst htu := Narrative.trans hst htu
  of_kept h := Narrative.of_grown (Continued.of_kept h)

end Session

theorem Run.leads_of_call? {R : Session → Session → Prop} [Session.Continued R] {name : String}
    {request : StoreRequest} {prepare : Run (Nat × Call)}
    (hcall : request.call? name = some prepare) : Run.Leads R prepare := by
  cases request <;> cases hcall
  all_goals
    repeat' with_reducible refine Run.leads_bind ?_ fun _ => ?_
    all_goals simp

theorem Run.explains_of_call? {name : String} {request : StoreRequest}
    {prepare : Run (Nat × Call)} (hcall : request.call? name = some prepare) :
    Run.Explains prepare := by
  cases request <;> cases hcall
  all_goals
    repeat' with_reducible refine Run.explains_bind ?_ fun _ => ?_
    all_goals first
      | exact Run.explains_storeAddress name
      | exact Run.explains_eval _
      | exact Run.explains_pure _

namespace Account

open Session (Narrative)
open Run (Leads)

variable {R : List Happening → Session → Session → Prop} {α β : Type}

/-- Wherever something is carried out, its history tells how the session gets to where it ends. -/
def Tells (R : List Happening → Session → Session → Prop) (account : Account α) : Prop :=
  ∀ s, R (account.history s) s (account.run.on s).2

theorem tells_still {run : Run α} (h : Leads (R []) run) : Tells R (still run) := h

/-! ### Histories from one session -/

section Endings

variable {P : List Happening → Session → Prop} {s : Session}

/-- Carried out in a session, something ends in one that has to do with its history as it should. -/
def Ends (P : List Happening → Session → Prop) (account : Account α) (s : Session) : Prop :=
  P (account.history s) (account.run.on s).2

/-- Where the first part succeeds, the second goes on from there. -/
theorem ends_bind_ok {first : Account α} {next : α → Account β} {a : α} {t : Session}
    (hfirst : first.run.on s = (.ok a, t))
    (hnext : Ends (fun after => P (first.history s ++ after)) (next a) t) :
    Ends P (first >>= next) s := by
  rw [Ends, history_bind, run_bind, Run.on_bind, hfirst]
  exact hnext

/-- What has no history and succeeds does not matter but for where it leads. -/
theorem ends_still_bind {run : Run α} {next : α → Account β} {a : α} {t : Session}
    (hrun : run.on s = (.ok a, t)) (hnext : Ends P (next a) t) :
    Ends P (still run >>= next) s :=
  ends_bind_ok hrun hnext

variable (hP : ∀ {before after t u}, P before t → R after t u → P (before ++ after) u)
include hP

theorem ends_bind {first : Account α} {next : α → Account β} (hfirst : Ends P first s)
    (hnext : ∀ a, Tells R (next a)) : Ends P (first >>= next) s := by
  rw [Ends] at hfirst
  rw [Ends, history_bind, run_bind, Run.on_bind]
  cases hs : first.run.on s with
  | mk result t =>
    rw [hs] at hfirst
    cases result with
    | ok a => exact hP hfirst (hnext a t)
    | error failure =>
      dsimp only
      rw [List.append_nil]
      exact hfirst

theorem ends_handling {tried : Account α} {handle : Failure → Account α} (htried : Ends P tried s)
    (hhandle : ∀ failure, Tells R (handle failure)) : Ends P (handling tried handle) s := by
  rw [Ends] at htried
  rw [Ends, history_handling, run_handling, Run.on_tryCatch]
  cases hs : tried.run.on s with
  | mk result t =>
    rw [hs] at htried
    cases result with
    | ok a =>
      dsimp only
      rw [List.append_nil]
      exact htried
    | error failure => exact hP htried (hhandle failure t)

end Endings

/-! ### Histories from any session -/

section Sequences

variable [Narrative R]

theorem tells_pure (a : α) : Tells R (pure a) :=
  tells_still (Run.leads_pure a)

theorem tells_bind {first : Account α} {next : α → Account β} (hfirst : Tells R first)
    (hnext : ∀ a, Tells R (next a)) : Tells R (first >>= next) :=
  fun s => ends_bind (P := fun history t => R history s t) Narrative.trans (hfirst s) hnext

theorem tells_handling {tried : Account α} {handle : Failure → Account α} (htried : Tells R tried)
    (hhandle : ∀ failure, Tells R (handle failure)) : Tells R (handling tried handle) :=
  fun s => ends_handling (P := fun history t => R history s t) Narrative.trans (htried s) hhandle

theorem tells_attempt {tried : Account α} (htried : Tells R tried) : Tells R (attempt tried) :=
  tells_handling (tells_bind htried fun _ => tells_pure _) fun _ => tells_pure _

theorem tells_forM {f : α → Account PUnit} {as : List α} (hf : ∀ a ∈ as, Tells R (f a)) :
    Tells R (as.forM f) := by
  induction as with
  | nil => exact tells_pure _
  | cons a rest ih =>
    exact tells_bind (hf a List.mem_cons_self) fun _ =>
      ih fun b hb => hf b (List.mem_cons_of_mem _ hb)

end Sequences

/-! ### Making calls -/

/-- Something that makes calls, to which receivers react in a given way, and otherwise at most makes
stores and fails with something that has a wording. -/
inductive Calling (react : Reactor) : {α : Type} → Account α → Prop where
  | still {α : Type} {run : Run α} (h : Leads Session.Grown run) (hwords : Run.Explains run) :
    Calling react (still run)
  | call (address : Nat) (made : Call) : Calling react (Account.call react address made)
  | bind {α β : Type} {first : Account α} {next : α → Account β} (hfirst : Calling react first)
    (hnext : ∀ a, Calling react (next a)) : Calling react (first >>= next)
  | handling {α : Type} {tried : Account α} {handle : Failure → Account α}
    (htried : Calling react tried) (hhandle : ∀ failure, Calling react (handle failure)) :
    Calling react (handling tried handle)

variable {react : Reactor}

/-- **What makes calls is told by them.** -/
theorem Calling.tells [Narrative R] {account : Account α} (h : Calling react account)
    (hcall : ∀ address made, Tells R (Account.call react address made)) : Tells R account := by
  induction h with
  | still h _ => exact tells_still fun s => Narrative.of_grown (h s)
  | call address made => exact hcall address made
  | bind _ _ hfirst hnext => exact tells_bind hfirst hnext
  | handling _ _ htried hhandle => exact tells_handling htried hhandle

/-- What makes calls fails with something that has a wording. -/
theorem Calling.explains {account : Account α} (h : Calling react account) :
    Run.Explains account.run := by
  induction h with
  | still _ hwords => exact hwords
  | call address made =>
    rw [run_call]
    exact Run.explains_call _ address made
  | bind _ _ hfirst hnext => exact Run.explains_bind hfirst hnext
  | handling _ _ _ hhandle => exact Run.explains_tryCatch hhandle

theorem calling_pure (a : α) : Calling react (pure a) :=
  .still (Run.leads_pure a) (Run.explains_pure a)

theorem calling_attempt {tried : Account α} (htried : Calling react tried) :
    Calling react (attempt tried) :=
  .handling (.bind htried fun _ => calling_pure _) fun _ => calling_pure _

theorem calling_forM {f : α → Account PUnit} {as : List α} (hf : ∀ a ∈ as, Calling react (f a)) :
    Calling react (as.forM f) := by
  induction as with
  | nil => exact calling_pure _
  | cons a rest ih =>
    exact .bind (hf a List.mem_cons_self) fun _ => ih fun b hb => hf b (List.mem_cons_of_mem _ hb)

theorem calling_foldlM {f : β → α → Account β} (hf : ∀ b a, Calling react (f b a)) (as : List α)
    (b : β) : Calling react (as.foldlM f b) := by
  induction as generalizing b with
  | nil => exact calling_pure b
  | cons a rest ih => exact .bind (hf b a) fun b => ih b

theorem calling_fillStep (address : Nat) (keyStart : String) (value : Value)
    (script : Option Value) (report : Nat × List (Int × Complaint)) (i : Int) :
    Calling react (fillStep react address keyStart value script report i) :=
  .handling (.bind (.call address _) fun _ => calling_pure _) fun _ =>
    .bind (.still Run.leads_heap Run.explains_heap) fun _ => calling_pure _

/-- **A request to a store makes calls.** -/
theorem calling_performStore (react : Reactor) (name : String) (request : StoreRequest) :
    Calling react (performStore react name request) := by
  unfold performStore
  cases hrequest : request.call? name with
  | some prepare =>
    exact .bind (.still (Run.leads_of_call? hrequest) (Run.explains_of_call? hrequest))
      fun prepared => .call _ _
  -- What is no call fills a store by many calls, or makes a new store, or fails.
  | none =>
    cases request with
    | fill keyStart first last value script =>
      have heval (term : Term) : Calling react (still term.eval) :=
        .still (Run.leads_eval term) (Run.explains_eval term)
      refine .bind (.still (Run.leads_storeAddress name) (Run.explains_storeAddress name))
        fun address => ?_
      refine .bind (heval keyStart) fun keyStart => .bind (heval value) fun value => ?_
      refine .bind (.still (Run.leads_optionMapM Run.leads_eval script)
        (Run.explains_optionMapM Run.explains_eval script)) fun script => ?_
      exact .bind (calling_foldlM (fun report i => calling_fillStep _ _ _ _ report i) _ _)
        fun _ => calling_pure _
    | create limits =>
      have hnew (limits : Value) :
          Leads Session.Grown (Run.allocate fun h => h.newStore (.new limits)) :=
        fun s => Session.grown_newStore s (.new limits)
      exact .still (Run.leads_create hnew react.run name limits)
        (Run.explains_create react.run name limits)
    | setLimits value =>
      exact .still (Run.leads_setLimits react.run name value)
        (Run.explains_setLimits react.run name value)
    | _ => cases hrequest

theorem leads_finish {R : Session → Session → Prop} [Session.Continued R] (step : Step)
    (result : Result) : Leads R (finish step result) := by
  unfold finish
  dsimp only
  split <;> simp

theorem explains_finish (step : Step) (result : Result) : Run.Explains (finish step result) := by
  unfold finish
  dsimp only
  split
  · exact Run.explains_bind (Run.explains_save _ _) fun _ => Run.explains_answer _
  · exact Run.explains_answer _

end Account

end BoundedVars
