import BoundedVars.Proofs.Session.Failing
import BoundedVars.Proofs.Session.Narrative
import Mathlib.Data.List.Forall2

/-!
# Calls inside calls come one after another

Receivers may make calls while a change is announced, so calls are started before others have ended.
All the same, the calls of a store can be made once more one after another, in the order in which
they were started, of a store to which nobody listens, and the store ends up the same
(`calls_linearise`).  That is because an operation has changed its store before it gives its first
notice, and does not look at it again.

Each call comes to the same result, too, but for those that failed because announcing their changes
broke off (`Made.BrokeOff`): where nobody listens they succeed.
-/

namespace BoundedVars

/-- The call of the store at an address that has been started, if one has. -/
def Happening.madeAt? (address : Nat) : Happening → Option Made
  | .called made => if made.address = address then some made else none
  | .announced .. => none

/-- The calls of the store at an address, in the order in which they were started. -/
def callsAt (address : Nat) (history : List Happening) : List Made :=
  history.filterMap (·.madeAt? address)

/-- A session in which nobody is connected to anything. -/
def Session.muted (s : Session) : Session :=
  { s with subscriptions := .empty }

namespace Made

/-- A call made once more, of a store that is given and to which nobody listens: what comes of it,
and the store afterwards.  The level of the log and all else is as it was when the call was made. -/
def redo (made : Made) (store : Store) : Except Failure Result × Store :=
  let s := { made.start with heap := made.start.heap.setStore made.address store }.muted
  let ended := (Run.call (Run.react 0) made.address made.call).on s
  (ended.1, ended.2.heap.store made.address)

/-- Calls made once more, one after another: what comes of them, and the store afterwards. -/
def redoAll : List Made → Store → List (Except Failure Result) × Store
  | [], store => ([], store)
  | made :: rest, store =>
    let ended := made.redo store
    let others := redoAll rest ended.2
    (ended.1 :: others.1, others.2)

theorem redoAll_append (first second : List Made) (store : Store) :
    redoAll (first ++ second) store =
      ((redoAll first store).1 ++ (redoAll second (redoAll first store).2).1,
        (redoAll second (redoAll first store).2).2) := by
  induction first generalizing store with
  | nil => rfl
  | cons made rest ih =>
    rw [List.cons_append, redoAll, ih]
    rfl

end Made

namespace Made

/-- A call failed although its operation had been carried out: announcing its changes broke off. -/
def BrokeOff (made : Made) : Prop :=
  ∃ budget operation unshown u, made.call.operation? made.start.heap = some operation ∧
    made.result = .error unshown ∧
    Run.Interrupted (Run.react budget) made.address
      ((made.start.heap.store made.address).outcome operation)
      (Run.changed made.start made.address operation) unshown u

/-- What comes of a call made once more is what came of it, or success if announcing its changes
broke off. -/
inductive Accords (made : Made) : Except Failure Result → Prop where
  | same : made.Accords made.result
  | brokeOff (h : made.BrokeOff) : made.Accords (.ok .nothing)

end Made

theorem callsAt_append (address : Nat) (before after : List Happening) :
    callsAt address (before ++ after) = callsAt address before ++ callsAt address after :=
  List.filterMap_append

/-! ### One call -/

namespace Run

open Session

variable {s : Session} {address : Nat} {call : Call} {operation : Store.Operation}

theorem on_viewOf_muted (vars : Vars) : ((viewOf vars).on s.muted).1 = ((viewOf vars).on s).1 := by
  unfold viewOf
  split_ifs <;> rfl

/-- A call that carries out no operation comes to the same where nobody is connected. -/
theorem on_call_muted (react other : Reactor) (hread : call.operation? s.heap = none) :
    ((Run.call other address call).on s.muted).1 = ((Run.call react address call).on s).1 := by
  -- Who is connected makes no difference to the name of a script.
  have hscript (context : Value) (next : Value → Run Result)
      (hnext : ∀ name, ((next (.text name)).on s.muted).1 = ((next (.text name)).on s).1) :
      ((scriptOf context >>= next).on s.muted).1 = ((scriptOf context >>= next).on s).1 := by
    have hheap : s.muted.heap = s.heap := rfl
    rw [on_scriptOf_bind, on_scriptOf_bind, hheap]
    cases s.heap.scriptName context with
    | ok name => exact hnext name
    | error failure => rfl
  cases call with
  | update operation => cases hread
  | updateFromContext context key value =>
    have hheap : s.muted.heap = s.heap := rfl
    rw [on_call_resolved, on_call_resolved react, hheap]
    -- With a script the call would carry out an operation, so it has none.
    cases hresolved : (Call.updateFromContext context key value).resolved s.heap with
    | error failure => rfl
    | ok resolved =>
      obtain ⟨name, -, hok⟩ := Except.bind_eq_ok_iff.mp hresolved
      obtain rfl := Except.ok.inj hok
      rw [Call.operation?, hresolved] at hread
      cases hread
  | getFromContext context key => exact hscript context _ fun name => rfl
  | getVarsFromContext context => exact hscript context _ fun name => on_viewOf_muted _
  | getScriptVars script => exact on_viewOf_muted _
  | _ => rfl

end Run

namespace Made

variable {s : Session} {address : Nat} {call : Call} {operation : Store.Operation}
  {result : Except Failure Result}

/-- A call of a store as it was then is made once more where nobody is connected. -/
theorem redo_store (s : Session) (address : Nat) (call : Call) (result : Except Failure Result) :
    redo ⟨address, call, s, result⟩ (s.heap.store address) =
      (((Run.call (Run.react 0) address call).on s.muted).1,
        ((Run.call (Run.react 0) address call).on s.muted).2.heap.store address) := by
  rw [redo]
  dsimp only
  rw [Heap.setStore_store]

/-- A call that only reads reads the same. -/
theorem redo_of_no_operation (react : Reactor) (hread : call.operation? s.heap = none) :
    redo ⟨address, call, s, result⟩ (s.heap.store address) =
      (((Run.call react address call).on s).1,
        ((Run.call react address call).on s).2.heap.store address) := by
  have hread' : call.operation? s.muted.heap = none := hread
  obtain ⟨_, _, hcall, -⟩ := Run.on_call_of_no_operation react address hread
  obtain ⟨_, _, hmuted, -⟩ := Run.on_call_of_no_operation (Run.react 0) address hread'
  rw [redo_store, Run.on_call_muted react (Run.react 0) hread, hcall, hmuted]
  rfl

/-- **An operation does the same to its store and ends in the same**, whoever listens, unless
announcing its changes breaks off. -/
theorem redo_of_operation (budget : Nat) (haddress : address < s.heap.stores.size)
    (hoperation : call.operation? s.heap = some operation) :
    let made : Made := ⟨address, call, s, ((Run.call (Run.react budget) address call).on s).1⟩
    (made.redo (s.heap.store address)).2 = (Run.changed s address operation).heap.store address ∧
      made.Accords (made.redo (s.heap.store address)).1 := by
  intro made
  have hoperation' : call.operation? s.muted.heap = some operation := hoperation
  have hnote : s.muted.TakesNote := fun _ _ _ hmem => absurd hmem List.not_mem_nil
  have hcarried := Run.carried_call (Run.react_record 0) hnote address call
  rw [hoperation'] at hcarried
  rw [redo_store, hcarried.store haddress, Run.changed, Heap.store_setStore_self haddress]
  refine ⟨rfl, ?_⟩
  rw [Run.on_call_fst_of_takesNote (Run.react_record 0) hnote address hoperation']
  have hends := Run.on_call_fst (Run.react budget) address hoperation
  rcases hends with hends | ⟨unshown, u, hcall, hinterrupted⟩
  · -- Both end as the operation does.
    have hresult : made.result = _ := hends
    exact hresult ▸ .same
  · have hpasses :
        ((s.muted.heap.store address).outcome operation).resultAt s.muted.level = .ok () :=
      hinterrupted.passes
    rw [hpasses]
    exact .brokeOff
      ⟨budget, operation, unshown, u, hoperation, congrArg Prod.fst hcall, hinterrupted⟩

end Made

/-! ### All that happens -/

namespace Session

variable {address : Nat}

/-- The calls of a store in a history, made once more one after another, leave the same store and
come to the same, as far as announcing their changes has not broken off. -/
def Linearises (address : Nat) (history : List Happening) (s t : Session) : Prop :=
  address < s.heap.stores.size → address < t.heap.stores.size ∧
    (Made.redoAll (callsAt address history) (s.heap.store address)).2 = t.heap.store address ∧
    List.Forall₂ Made.Accords (callsAt address history)
      (Made.redoAll (callsAt address history) (s.heap.store address)).1

theorem Linearises.trans {before after : List Happening} {s t u : Session}
    (hst : Linearises address before s t) (htu : Linearises address after t u) :
    Linearises address (before ++ after) s u := by
  intro haddress
  obtain ⟨hpresent, hstore, hbefore⟩ := hst haddress
  obtain ⟨hpresent', hstore', hafter⟩ := htu hpresent
  refine ⟨hpresent', ?_⟩
  rw [callsAt_append, Made.redoAll_append, hstore]
  exact ⟨hstore', List.rel_append hbefore hafter⟩

theorem linearises_of_stores_eq {s t : Session} (h : t.heap.stores = s.heap.stores) :
    Linearises address [] s t := by
  intro haddress
  refine ⟨h ▸ haddress, ?_, .nil⟩
  rw [Heap.store, Heap.store, h]
  rfl

instance : Narrative (Linearises address) where
  trans := Linearises.trans
  of_grown h haddress := by
    refine ⟨h.present haddress, ?_, .nil⟩
    rw [h.store_eq haddress]
    rfl

instance : Development (Linearises address []) where
  trans := Linearises.trans
  of_stores_eq := linearises_of_stores_eq

/-- A call is started before all that happens inside it. -/
theorem linearises_call (budget : Nat) {place : Nat} {call : Call} {s t : Session}
    {inner : List Happening}
    (hread : call.operation? s.heap = none →
      inner = [] ∧ t = ((Run.call (Run.react budget) place call).on s).2)
    (hwrite : ∀ operation, call.operation? s.heap = some operation →
      Linearises address inner (Run.changed s place operation) t) :
    Linearises address
      (.called ⟨place, call, s, ((Run.call (Run.react budget) place call).on s).1⟩ :: inner)
      s t := by
  intro haddress
  cases hoperation : call.operation? s.heap with
  | none =>
    obtain ⟨rfl, rfl⟩ := hread hoperation
    obtain ⟨_, _, hcall, -⟩ := Run.on_call_of_no_operation (Run.react budget) place hoperation
    have hheap : ((Run.call (Run.react budget) place call).on s).2.heap = s.heap := by rw [hcall]
    refine ⟨hheap ▸ haddress, ?_⟩
    by_cases hplace : place = address
    · subst hplace
      rw [callsAt, List.filterMap_cons, Happening.madeAt?, if_pos rfl]
      dsimp only
      rw [Made.redoAll, Made.redo_of_no_operation (Run.react budget) hoperation]
      exact ⟨rfl, .cons .same .nil⟩
    · rw [callsAt, List.filterMap_cons, Happening.madeAt?, if_neg hplace, hheap]
      exact ⟨rfl, .nil⟩
  | some operation =>
    have hsize : (Run.changed s place operation).heap.stores.size = s.heap.stores.size :=
      Heap.size_setStore
    -- What happens inside begins in the session in which the store has changed already.
    obtain ⟨hpresent, hinner⟩ := hwrite operation hoperation (hsize.symm ▸ haddress)
    refine ⟨hpresent, ?_⟩
    by_cases hplace : place = address
    · subst hplace
      rw [callsAt, List.filterMap_cons, Happening.madeAt?, if_pos rfl]
      dsimp only
      obtain ⟨hstore, haccords⟩ := Made.redo_of_operation budget haddress hoperation
      rw [← callsAt, Made.redoAll, hstore]
      exact ⟨hinner.1, .cons haccords hinner.2⟩
    · rw [Run.changed, Heap.store_setStore_of_ne (Ne.symm hplace)] at hinner
      rw [callsAt, List.filterMap_cons, Happening.madeAt?, if_neg hplace]
      exact hinner

end Session

namespace Account

open Session (Linearises)

variable {address : Nat} {react : Reactor}
  (hreact : ∀ reaction, Tells (Linearises address) (react reaction))
include hreact

theorem linearises_deliver (event : Event) (subscription : Subscription) :
    Tells (Linearises address) (deliver react event subscription) := by
  unfold deliver
  refine tells_bind (tells_still (Run.leads_datum _)) fun _ => ?_
  refine tells_bind (tells_still Run.leads_get) fun _ => ?_
  refine tells_bind (tells_still (Run.leads_ofExcept _)) fun _ => ?_
  refine tells_bind (tells_still (Run.leads_note _)) fun _ => ?_
  split_ifs
  · exact tells_pure _
  · refine tells_bind (tells_still (Run.leads_countReaction _ _)) fun _ => ?_
    exact tells_bind (hreact _) fun _ => tells_still (Run.leads_read _)

theorem linearises_deliverAll (event : Event) (subscriptions : List Subscription) :
    Tells (Linearises address) (deliverAll react event subscriptions) := by
  induction subscriptions with
  | nil => exact tells_pure _
  | cons subscription rest ih =>
    unfold deliverAll
    refine tells_bind (tells_still (Run.leads_subscribers _)) fun _ => ?_
    split
    · exact ih
    · refine tells_bind (tells_still (Run.leads_hold _)) fun _ => ?_
      refine tells_bind (linearises_deliver hreact _ _) fun _ => ?_
      exact tells_bind ih fun _ => tells_pure _

theorem linearises_emit (event : Event) : Tells (Linearises address) (emit react event) := by
  refine tells_handling ?_ fun failure => ?_
  · unfold send
    split_ifs
    · exact tells_still (Run.leads_throw _)
    · refine tells_bind (tells_still Run.leads_get) fun _ => ?_
      refine tells_bind (tells_still (Run.leads_subscribers _)) fun _ => ?_
      refine tells_bind (tells_attempt (linearises_deliverAll hreact _ _)) fun _ => ?_
      exact tells_bind (tells_still (Run.leads_release _)) fun _ =>
        tells_still (Run.leads_ofExcept _)
  · exact tells_bind (tells_still (Run.leads_reportReceiver _ _)) fun _ => tells_pure _

theorem linearises_giveNotice (place : Nat) (notice : Notice) :
    Tells (Linearises address) (giveNotice react place notice) := by
  cases notice with
  | log severity message => exact tells_still (Run.leads_log _ _ _)
  | change change =>
    -- That a change is about to be announced is no call.
    exact tells_bind (linearises_emit hreact _) fun _ => tells_pure _

/-- **A call comes before the calls inside it**: its operation has been carried out by then. -/
theorem linearises_call {budget : Nat} (hrun : react.run = Run.react budget) (place : Nat)
    (made : Call) :
    Tells (Linearises address) (Account.call react place made) := by
  intro s
  have hconclude (o : Outcome) : Tells (Linearises address) (conclude react place o) :=
    tells_bind (tells_forM fun notice _ => linearises_giveNotice hreact place notice) fun _ =>
      tells_still (Run.leads_ofExcept _)
  rw [history_call, run_call, hrun]
  refine Session.linearises_call budget (fun hread => ?_) fun operation hoperation => ?_
  · exact ⟨history_answer_of_no_operation react place hread, rfl⟩
  · have h := hconclude ((s.heap.store place).outcome operation) (Run.changed s place operation)
    rw [run_conclude, hrun] at h
    rw [history_answer_of_operation react place hoperation, Run.on_call_snd (Run.react budget) place
      hoperation]
    exact h

theorem linearises_performEvent (request : EventRequest) :
    Tells (Linearises address) (performEvent react request) := by
  -- Connecting and disconnecting does not depend on how receivers react.
  have hconnects (request : EventRequest) :
      Run.Leads (Linearises address []) (Run.performEvent (fun _ => pure ()) request) :=
    Run.leads_performEvent (fun _ _ => Run.leads_pure ()) (Request.obeys_anything _)
  cases request with
  | emit event sender payload =>
    unfold performEvent
    refine tells_bind (tells_still (Run.leads_eval _)) fun _ => ?_
    refine tells_bind (tells_still (Run.leads_evalNamed _)) fun _ => ?_
    split_ifs
    · exact tells_still (Run.leads_throw _)
    · exact tells_still (Run.leads_throw _)
    · exact tells_bind (linearises_emit hreact _) fun _ => tells_pure _
  | connect event receiver sender reaction times =>
    exact tells_still (hconnects (.connect event receiver sender reaction times))
  | disconnect event receiver => exact tells_still (hconnects (.disconnect event receiver))
  | signal event => exact tells_still (hconnects (.signal event))

theorem linearises_perform {budget : Nat} (hrun : react.run = Run.react budget) (store : String)
    (request : Request) : Tells (Linearises address) (perform react store request) := by
  cases request with
  | store request =>
    exact (calling_performStore react store request).tells (linearises_call hreact hrun)
  | event request => exact linearises_performEvent hreact request
  | context request => exact tells_still (Run.leads_performContext request)
  | newView data => exact tells_still (Run.leads_createView data)
  | view view query =>
    have hrule : Rule.anything (.view view query) := trivial
    exact tells_still (Run.leads_bind (Run.leads_eval view) fun _ => Run.leads_queryView hrule _)
  | config request => exact tells_still (Run.leads_performConfig request)
  | log request => exact tells_still (Run.leads_performLog request)

theorem linearises_performStep {budget : Nat} (hrun : react.run = Run.react budget) (step : Step) :
    Tells (Linearises address) (performStep react step) :=
  tells_bind (linearises_perform hreact hrun _ _) fun result =>
    tells_still (leads_finish step result)

omit hreact in
/-- Reactions come one after another, however many take place inside each other. -/
theorem linearises_react (budget : Nat) (reaction : Reaction) :
    Tells (Linearises address) (Account.react budget reaction) := by
  have hstill (budget : Nat) (message : Term) :
      Run.Leads (Linearises address []) (Run.react budget (.raise message)) := by
    simp [Run.react]
  induction budget generalizing reaction with
  | zero =>
    cases reaction with
    | raise message => exact tells_still (hstill 0 message)
    | _ => exact tells_pure _
  | succ budget ih =>
    cases reaction with
    | record => exact tells_pure _
    | raise message => exact tells_still (hstill _ message)
    | report steps =>
      refine tells_forM fun step _ => ?_
      -- Each step is like a request from outside, with less of the budget left to receivers.
      have hstep := linearises_performStep ih (run_react budget) step
      exact tells_bind (tells_attempt hstep) fun _ =>
        tells_bind (tells_still Run.leads_heap) fun _ => tells_still (Run.leads_note _)
    | perform steps =>
      exact tells_forM fun step _ =>
        tells_bind (linearises_performStep ih (run_react budget) step) fun _ => tells_pure _

end Account

namespace Session

variable {s : Session} {address : Nat}

theorem linearises_act (budget : Nat) (s : Session) (action : Action) :
    Linearises address (s.happenings budget action) s (s.act budget action) := by
  have hreact : ∀ reaction, Account.Tells (Linearises address) (Account.react budget reaction) :=
    Account.linearises_react budget
  cases action with
  | step step =>
    have h := Account.linearises_performStep hreact (Account.run_react budget) step
      { s with trace := [] }
    rw [Account.run_performStep, Account.run_react] at h
    have hcleared : Linearises address [] s { s with trace := [] } := linearises_of_stores_eq rfl
    exact hcleared.trans h
  | call place call =>
    have h := Account.linearises_call hreact (Account.run_react budget) place call s
    rw [Account.run_call, Account.run_react] at h
    exact h

theorem linearises_after (budget : Nat) (s : Session) (actions : List Action) :
    Linearises address (s.history budget actions) s (s.after budget actions) := by
  induction actions generalizing s with
  | nil => exact linearises_of_stores_eq rfl
  | cons action rest ih => exact Linearises.trans (linearises_act budget s action) (ih _)

/-- **Calls inside calls come one after another**: whatever is done in a session, and whatever
receivers do when they are told of changes, all calls of a store can be made once more one after
another in the order in which they were started, of a store to which nobody listens and at the same
level of the log.  They leave the store as it is and come to the same results and failures, except
that those calls succeed that failed when their operations had been carried out, because announcing
their changes broke off. -/
theorem calls_linearise (budget : Nat) (haddress : address < s.heap.stores.size)
    (actions : List Action) :
    let calls := callsAt address (s.history budget actions)
    let again := Made.redoAll calls (s.heap.store address)
    again.2 = (s.after budget actions).heap.store address ∧
      List.Forall₂ Made.Accords calls again.1 :=
  (linearises_after budget s actions haddress).2

/-- A session with a store and a receiver that answers the first variable written by reading it and
writing another one. -/
def answering : Session :=
  let steps : List Step := [.mk (.store (.getGlobal (.text "a"))) "s" none,
    .mk (.store (.setGlobal (.text "b") (.text "2"))) "s" none]
  { withStore (Limits.default.toValue 0) with
    names := Table.ofList [("s", .store 0)]
    subscriptions := Table.ofList
      [(Change.setEvent, [⟨0, "receiver", none, .perform steps, 1, false⟩])] }

/-- The receiver reads what it is told of, and its calls come after the one that it is told of. -/
theorem calls_linearise_answering :
    let write : Call := .update (.setGlobal (.text "a") (.text "1"))
    let calls := callsAt 0 (answering.history 1 [.call 0 write])
    let again := Made.redoAll calls (answering.heap.store 0)
    calls.map (·.result) = [.ok .nothing, .ok (.ofText? (some "1")), .ok .nothing] ∧
      again.2 = (answering.after 1 [.call 0 write]).heap.store 0 ∧
      List.Forall₂ Made.Accords calls again.1 := by
  intro write
  dsimp only
  exact ⟨rfl, calls_linearise 1 (by decide) _⟩

/-- A call that fails although its operation has been carried out succeeds if it is made once more
where nobody listens. -/
theorem exists_brokeOff_muffled {n : Int} (hn : 10 ^ Numeral.maxDigits ≤ n.natAbs) :
    let write : Call := .update (.setGlobal (.text "k") (.text "v"))
    ∃ made ∈ callsAt 0 ((Run.muffled n).history 1 [.call 0 write]),
      made.result = .error .integerTooLong ∧
        (made.redo ((Run.muffled n).heap.store 0)).1 = .ok .nothing := by
  intro write
  obtain ⟨t, hcall, -⟩ := Run.on_call_muffled hn
  refine ⟨⟨0, write, Run.muffled n, .error .integerTooLong⟩, ?_, rfl, rfl⟩
  rw [history, happenings, Account.history_call, Account.run_react, hcall]
  exact List.mem_cons_self

end Session

end BoundedVars
