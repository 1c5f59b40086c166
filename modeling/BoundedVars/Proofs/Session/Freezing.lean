import BoundedVars.Proofs.Session.Calls
import BoundedVars.Proofs.Session.Development
import BoundedVars.Proofs.View

/-!
# Views stay as they were handed out

Stores hand out views of what they hold, and views can be made of what other values stand for
(`Session.HandsOut`).  The items of a view are its own, so nothing that is done later shows in it;
the only way around is to put something else in the place of all its items.  As long as neither the
steps of a session nor those of its receivers do that (`Request.SparesViews`), every view keeps the
items it was handed out with, and whatever would change it fails (`views_stay_as_handed_out`): the
view refuses, whatever the arguments are, unless one of them is given by the name under which the
view itself is (`Session.Mutates`).

Nor does anything but a write change a store: a step that neither writes to a store nor sends an
event leaves all stores as they were (`sameStores_performStep`).
-/

namespace BoundedVars

/-! ### Requests -/

/-- A request does not put anything in the place of the entries of a view. -/
def Request.SparesViews : Rule
  | .view _ (.setAttribute ..) => False
  | _ => True

/-- A request that can write to a store. -/
def StoreRequest.Writes : StoreRequest → Prop
  | .setGlobal .. | .clearGlobals | .setScript .. | .clearScript _ | .setFromContext .. | .clear
  | .fill .. => True
  | _ => False

/-- A request neither writes to a store nor sends an event. -/
def Request.LeavesStores : Rule
  | .store request => ¬request.Writes
  | .event (.emit ..) => False
  | _ => True

namespace Session

variable {s t u : Session} {v : Value} {items : List (Value × Value)} {react : Reactor}

/-! ### Replaced views -/

/-- A session in which no more views were replaced, if all receivers spare views; and then they
still do. -/
def ViewsSpared (s t : Session) : Prop :=
  s.Obeys Request.SparesViews →
    t.Obeys Request.SparesViews ∧ t.heap.replaced = s.heap.replaced

theorem obeys_congr {rule : Rule} (h : t.subscriptions = s.subscriptions) (hs : s.Obeys rule) :
    t.Obeys rule := by
  intro event
  rw [Session.connected, h]
  exact hs event

instance : StoreCourse Request.SparesViews ViewsSpared where
  trans hst htu hs := by
    obtain ⟨ht, hreplaced⟩ := hst hs
    obtain ⟨hu, hreplaced'⟩ := htu ht
    exact ⟨hu, hreplaced'.trans hreplaced⟩
  of_kept h hs := ⟨obeys_congr h.subscriptions hs, h.replaced⟩
  guarded h hs := h hs hs
  noted _ _ hs := ⟨hs, rfl⟩
  levelled _ _ hs := ⟨hs, rfl⟩
  connected hheap _ _ hobeys hs := by
    refine ⟨fun event subscription hmem => ?_, by rw [hheap]⟩
    rcases hobeys event subscription hmem with hobeys | ⟨old, hold, heq⟩
    · exact hobeys
    · exact heq ▸ hs event old hold
  replaced := by
    -- That is what the rule forbids.
    rintro ⟨view, name, value, hrule⟩
    exact absurd hrule id
  operate _ _ _ hs := ⟨hs, rfl⟩
  create _ _ hs := ⟨hs, rfl⟩

theorem viewsSpared_after (budget : Nat) (s : Session) {actions : List Action}
    (hobeys : ∀ action ∈ actions, action.Obeys Request.SparesViews) :
    ViewsSpared s (s.after budget actions) :=
  rel_actions (fun _ hs => ⟨hs, rfl⟩) budget s hobeys

/-! ### Views handed out -/

/-- A view with its items is handed out in a session: it shows what a store holds, or the entries
that some value stands for; or it is an item of a view handed out. -/
inductive HandsOut (react : Reactor) (s : Session) : Value → List (Value × Value) → Prop
  | globals {address : Nat} {v : Value}
      (hcall : ((Run.call react address .getGlobals).on s).1 = .ok (.value v)) :
      HandsOut react s v (s.heap.store address).globals.items
  | scriptVars {address : Nat} {script v : Value}
      (hcall : ((Run.call react address (.getScriptVars script)).on s).1 = .ok (.value v)) :
      HandsOut react s v ((s.heap.store address).scriptVars script).items
  | contextVars {address : Nat} {context v : Value} {name : String}
      (hname : s.heap.scriptName context = .ok name)
      (hcall : ((Run.call react address (.getVarsFromContext context)).on s).1 = .ok (.value v)) :
      HandsOut react s v ((s.heap.store address).vars (.script name)).items
  | snapshot {address serial : Nat} {items : List (Value × Value)}
      (hcall : ((Run.call react address .snapshot).on s).1 = .ok (.value (.view serial items))) :
      HandsOut react s (.view serial items) items
  | made {data : Option Term} {given v : Value} {t : Session} {entries : Entries}
      (hgiven : (Term.evalOption data).on s = (.ok given, t))
      (hentries : t.heap.copyEntries given = .ok entries)
      (hmade : ((Run.createView data).on s).1 = .ok (.value v)) :
      HandsOut react s v entries.entries
  | inner {v key : Value} {items inner : List (Value × Value)} {serial : Nat}
      (hview : HandsOut react s v items) (hmem : (key, .view serial inner) ∈ items) :
      HandsOut react s (.view serial inner) inner

/-- What is handed out is a view of the items. -/
theorem HandsOut.eq_view (h : HandsOut react s v items) : ∃ serial, v = .view serial items := by
  -- The view of a script may be the empty view that is there from the start.
  have hviewOf (vars : Vars) (hvars : ((Run.viewOf vars).on s).1 = .ok (.value v)) :
      ∃ serial, v = .view serial vars.items := by
    obtain ⟨serial, fresh, hon⟩ := Run.on_viewOf (s := s) vars
    rw [hon] at hvars
    exact ⟨serial, (Result.value.inj (Except.ok.inj hvars)).symm⟩
  cases h with
  | globals hcall => exact ⟨s.fresh, (Result.value.inj (Except.ok.inj hcall)).symm⟩
  | scriptVars hcall => exact hviewOf _ hcall
  | contextVars hname hcall =>
    rw [Run.on_call_resolved, Call.resolved, hname] at hcall
    exact hviewOf _ hcall
  | snapshot | inner => exact ⟨_, rfl⟩
  | @made data given _ t entries hgiven hentries hmade =>
    have hread : (Run.read fun h => h.copyEntries given).on t = (.ok entries, t) := by
      rw [Run.on_read, hentries]
    rw [Run.createView, Run.on_bind_ok hgiven, Run.on_bind_ok hread] at hmade
    exact ⟨t.fresh, (Result.value.inj (Except.ok.inj hmade)).symm⟩

/-! ### Stores -/

/-- A session with all the stores of another, and as they were. -/
structure SameStores (s t : Session) : Prop where
  size_le : s.heap.stores.size ≤ t.heap.stores.size
  store_eq : ∀ address < s.heap.stores.size, t.heap.store address = s.heap.store address

instance : Development SameStores where
  trans hst htu := by
    refine ⟨Nat.le_trans hst.size_le htu.size_le, fun address haddress => ?_⟩
    rw [htu.store_eq address (Nat.lt_of_lt_of_le haddress hst.size_le),
      hst.store_eq address haddress]
  of_stores_eq h := by
    refine ⟨Nat.le_of_eq (congrArg Array.size h).symm, fun address _ => ?_⟩
    rw [Heap.store, Heap.store, h]

theorem leads_newStore_sameStores (limits : Value) :
    Run.Leads SameStores (Run.allocate fun h => h.newStore (.new limits)) := by
  refine fun s => ⟨?_, fun address haddress => Heap.store_newStore_of_lt haddress⟩
  exact Nat.le_trans (Nat.le_succ _) (Nat.le_of_eq Heap.size_newStore.symm)

theorem leads_performStore_sameStores (react : Reactor) (name : String) {request : StoreRequest}
    (hreads : ¬request.Writes) : Run.Leads SameStores (Run.performStore react name request) := by
  cases request with
  | setGlobal | clearGlobals | setScript | clearScript | setFromContext | clear | fill =>
    exact absurd trivial hreads
  | create limits => exact Run.leads_create leads_newStore_sameStores react name limits
  | setLimits value => exact Run.leads_setLimits react name value
  | _ =>
    unfold Run.performStore Run.call
    repeat' with_reducible refine Run.leads_bind ?_ fun _ => ?_
    all_goals simp

theorem leads_performEvent_sameStores (react : Reactor) {request : EventRequest}
    (hleaves : Request.LeavesStores (.event request)) :
    Run.Leads SameStores (Run.performEvent react request) := by
  have hconnects (request : EventRequest) :
      Run.Leads SameStores (Run.performEvent (fun _ => pure ()) request) :=
    Run.leads_performEvent (fun _ _ => Run.leads_pure ()) (Request.obeys_anything _)
  -- Only sending an event depends on how receivers react.
  cases request with
  | emit => exact absurd hleaves id
  | connect event receiver sender reaction times =>
    exact hconnects (.connect event receiver sender reaction times)
  | disconnect event receiver => exact hconnects (.disconnect event receiver)
  | signal event => exact hconnects (.signal event)

/-- **A step that neither writes to a store nor sends an event leaves all stores as they were**,
even if it fails. -/
theorem sameStores_performStep (react : Reactor) {step : Step}
    (hleaves : step.request.LeavesStores) :
    Run.Leads SameStores (Run.performStep react step) := by
  have hperform : Run.Leads SameStores (Run.perform react step.store step.request) := by
    cases hrequest : step.request with
    | store request =>
      rw [hrequest] at hleaves
      exact leads_performStore_sameStores react step.store hleaves
    | event request =>
      rw [hrequest] at hleaves
      exact leads_performEvent_sameStores react hleaves
    -- Requests of the other kinds do not reach stores at all.
    | context request => exact Run.leads_performContext request
    | newView data => exact Run.leads_createView data
    | view view query =>
      have hrule : Rule.anything (.view view query) := trivial
      exact Run.leads_bind (Run.leads_eval view) fun _ => Run.leads_queryView hrule _
    | config request => exact Run.leads_performConfig request
    | log request => exact Run.leads_performLog request
  refine Run.leads_bind hperform fun result => ?_
  dsimp only
  split <;> simp

theorem sameStores_step (budget : Nat) (s : Session) {step : Step}
    (hleaves : step.request.LeavesStores) : SameStores s (s.step budget step).2 := by
  have hcleared : SameStores s { s with trace := [] } := Development.of_stores_eq rfl
  exact Continued.trans hcleared (sameStores_performStep (Run.react budget) hleaves _)

/-! ### Whole sessions -/

/-- A query would change a view.  Making its arguments leads from one session to another, and some
of them are given by these names. -/
inductive Mutates : ViewQuery → List String → Session → Session → Prop
  | put {key value : Term} {k v : Value} {first second last : Session}
      (hkey : key.eval.on first = (.ok k, second))
      (hvalue : value.eval.on second = (.ok v, last)) : Mutates (.put key value) [] first last
  | delete {key : Term} {k : Value} {first last : Session}
      (hkey : key.eval.on first = (.ok k, last)) : Mutates (.delete key) [] first last
  | mergeIn {other : Term} {v : Value} {first last : Session}
      (hother : other.eval.on first = (.ok v, last)) : Mutates (.mergeIn other) [] first last
  | change (mutator : Mutator) {given : List Term} {named : List (String × Term)}
      {vs : List Value} {args : List (String × Value)} {first second last : Session}
      (hgiven : (Term.evalAll given).on first = (.ok vs, second))
      (hnamed : (Term.evalNamed named).on second = (.ok args, last)) :
      Mutates (.change mutator given named) (args.map (·.1)) first last

/-- **Whatever would change a view fails**, and making its arguments is all that happens. -/
theorem Mutates.on_perform {query : ViewQuery} {names : List String} {term : Term}
    (h : Mutates query names t u) (react : Reactor) (store : String)
    (hview : term.eval.on s = (.ok v, t)) :
    (Run.perform react store (.view term query)).on s = (.error (refusal names), u) := by
  rw [Run.perform, Run.on_bind_ok hview]
  cases h with
  | put hkey hvalue =>
    rw [Run.queryView, Run.on_bind_ok hkey, Run.on_bind_ok hvalue]
    rfl
  | delete hkey =>
    rw [Run.queryView, Run.on_bind_ok hkey]
    rfl
  | mergeIn hother =>
    rw [Run.queryView, Run.on_bind_ok hother]
    rfl
  | change mutator hgiven hnamed =>
    rw [Run.queryView, Run.on_bind_ok hgiven, Run.on_bind_ok hnamed]
    rfl

/-- A view refuses to be changed because it is read-only, unless it was given once more. -/
theorem category_refusal (names : List String) :
    (refusal names).category =
      if viewParameter ∈ names then .type else .unsupportedOperation := by
  simp only [refusal, List.contains_iff_mem]
  split_ifs <;> rfl

/-- **Views stay as they were handed out** in every session that puts nothing in the place of their
entries.  What is handed out shows its items then and at any later time, as every view does, and
whatever would change it fails: the view refuses whatever it is given, but an argument given by the
name of the view itself is an argument too many.  Stores are changed by nothing but writes. -/
theorem views_stay_as_handed_out (budget : Nat) {before after : List Action}
    (hbefore : ∀ action ∈ before, action.Obeys Request.SparesViews)
    (hafter : ∀ action ∈ after, action.Obeys Request.SparesViews) :
    let s := start.after budget before
    let t := s.after budget after
    (∀ v items, HandsOut (Run.react budget) s v items →
      s.heap.Shows v items ∧ t.heap.Shows v items) ∧
    (∀ serial items, t.heap.Shows (.view serial items) items ∧
      t.heap.Refuses (.view serial items) ∧
      ∀ term query names store u w, term.eval.on t = (.ok (.view serial items), u) →
        Mutates query names u w →
        (Run.perform (Run.react budget) store (.view term query)).on t =
          (.error (refusal names), w)) ∧
    (∀ names, (refusal names).category =
      if viewParameter ∈ names then .type else .unsupportedOperation) ∧
    ∀ step : Step, step.request.LeavesStores → SameStores t (t.step budget step).2 := by
  intro s t
  have hstart : start.Obeys Request.SparesViews :=
    fun event subscription hmem => absurd hmem List.not_mem_nil
  -- No view was replaced at the start, so none is at either moment.
  obtain ⟨hs, hreplaced⟩ := viewsSpared_after budget start hbefore hstart
  obtain ⟨-, hreplaced'⟩ := viewsSpared_after budget s hafter hs
  have hshowsStart (serial : Nat) (items : List (Value × Value)) :
      s.heap.Shows (.view serial items) items := by
    refine Heap.shows_view ?_ items
    rw [Heap.replacement?, hreplaced]
    rfl
  have hshows (serial : Nat) (items : List (Value × Value)) :
      t.heap.Shows (.view serial items) items := by
    refine Heap.shows_view ?_ items
    rw [Heap.replacement?, hreplaced', hreplaced]
    rfl
  refine ⟨fun v items hhanded => ?_, fun serial items => ⟨hshows serial items,
    t.heap.refuses_view serial items, fun _ _ _ store _ _ hview hmutates => ?_⟩, category_refusal,
    fun step hleaves => sameStores_step budget t hleaves⟩
  · obtain ⟨serial, rfl⟩ := hhanded.eq_view
    exact ⟨hshowsStart serial items, hshows serial items⟩
  · exact hmutates.on_perform (Run.react budget) store hview

/-- A store is made and a variable written. -/
def opening : List Action :=
  [.step ⟨.store (.create none), "s", none⟩,
    .step ⟨.store (.setGlobal (.text "a") (.text "1")), "s", none⟩]

/-- The variable is overwritten and removed. -/
def closing : List Action :=
  [.step ⟨.store (.setGlobal (.text "a") (.text "2")), "s", none⟩,
    .step ⟨.store (.setGlobal (.text "a") .none), "s", none⟩]

/-- A view of a variable still shows it when it is gone from the store, and updating one fails in
either way. -/
theorem views_stay_as_handed_out_removed :
    (∀ action ∈ opening, action.Obeys Request.SparesViews) ∧
    (∀ action ∈ closing, action.Obeys Request.SparesViews) ∧
    (((start.after 0 opening).after 0 closing).heap.store 0).globals.entries = [] ∧
    ((start.after 0 opening).after 0 closing).heap.Shows
      (((start.after 0 opening).heap.store 0).globals.toView (start.after 0 opening).fresh)
      [(.text "a", .text "1")] ∧
    (∃ w, (Run.perform (Run.react 0) "s" (.view (.view .none)
      (.change .update [] [("a", .text "2")]))).on ((start.after 0 opening).after 0 closing) =
        (.error .readOnly, w)) ∧
    ∃ w, (Run.perform (Run.react 0) "s" (.view (.view .none)
      (.change .update [] [("self", .text "2")]))).on ((start.after 0 opening).after 0 closing) =
        (.error .viewTwice, w) := by
  have hopening : ∀ action ∈ opening, action.Obeys Request.SparesViews := by
    simp [opening, Action.Obeys, Step.Obeys, Request.Obeys, Request.SparesViews]
  have hclosing : ∀ action ∈ closing, action.Obeys Request.SparesViews := by
    simp [closing, Action.Obeys, Step.Obeys, Request.Obeys, Request.SparesViews]
  have hentries : ((start.after 0 opening).heap.store 0).globals.entries = [("a", "1")] := by decide
  have hitems : ((start.after 0 opening).heap.store 0).globals.items =
      [(.text "a", .text "1")] := by
    rw [Vars.items, hentries]
    rfl
  have hhanded : (start.after 0 opening).HandsOut (Run.react 0)
      (((start.after 0 opening).heap.store 0).globals.toView (start.after 0 opening).fresh)
      [(.text "a", .text "1")] := hitems ▸ .globals rfl
  obtain ⟨hshows, hviews, -⟩ := views_stay_as_handed_out 0 hopening hclosing
  -- A view of nothing is made with the next serial number.
  have hview (t : Session) : (Term.view .none).eval.on t =
      (.ok (.view t.fresh []), { t with fresh := t.fresh + 1 }) := by
    have hempty : t.heap.copyEntries .none = .ok .empty := by
      rw [Heap.copyEntries, Heap.isTruthy]
      cases t.heap.reach <;> rfl
    have hread : (Run.read fun h => h.copyEntries .none).on { t with fresh := t.fresh + 1 } =
        (.ok .empty, { t with fresh := t.fresh + 1 }) := by
      rw [Run.on_read, hempty]
    exact Run.on_bind_ok hread
  have hmutates (name : String) (u : Session) :
      Mutates (.change .update [] [(name, .text "2")]) [name] u u :=
    @Mutates.change .update [] _ [] [(name, .text "2")] u u u rfl rfl
  have hfails (name : String) := (hviews ((start.after 0 opening).after 0 closing).fresh []).2.2 _ _
    _ "s" _ _ (hview _) (hmutates name _)
  exact ⟨hopening, hclosing, by decide, (hshows _ _ hhanded).2, ⟨_, hfails "a"⟩, ⟨_, hfails "self"⟩⟩

end Session

end BoundedVars
