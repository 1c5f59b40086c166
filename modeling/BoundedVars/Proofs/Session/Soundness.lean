import BoundedVars.Proofs.Session.Development
import BoundedVars.Proofs.Session.Yielding

/-!
# Sessions stay sound

Whatever is requested of a session, and whatever receivers request of it in turn, it stays sound,
and what comes of a request is sound (`Run.yields_perform`).  So everything in the memory of a
session that began new is sound, no matter what has been done (`Session.sound_after_start`): no key
stands twice in a dictionary or in the copy that a view has, and nothing that cannot be a key.
-/

namespace BoundedVars

namespace Run

variable {v : Value}

/-- Something found in memory is answered. -/
theorem yields_answered {f : Heap → Except Failure Value}
    (hf : ∀ {h found}, Heap.AllSound h → f h = .ok found → found.Sound) :
    Yields Result.Sound (do return .value (← read f)) :=
  yields_bind (yields_read fun _ _ hsound hok => hf hsound hok) fun _ hfound => yields_pure hfound

/-- Something taken out of memory is answered. -/
theorem yields_taken {f : Heap → Except Failure (Value × Heap)}
    (hf : ∀ {h found h'}, Heap.AllSound h → f h = .ok (found, h') → found.Sound ∧ h'.AllSound) :
    Yields Result.Sound (do
      let (found, h) ← read f
      setHeap h
      return .value found) := by
  refine yields_bind (yields_read fun h a hsound hok => hf hsound hok) ?_
  rintro ⟨found, h⟩ ⟨hfound, hsound⟩
  exact staysSound_bind (staysSound_setHeap hsound) fun _ => yields_pure hfound

/-! ### Contexts -/

theorem yields_createContext (name : String) (hv : v.Sound) :
    Yields Result.Sound (createContext name v) := by
  refine yields_bind (yields_copyEntries hv) fun attributes hattributes => ?_
  refine yields_bind (yields_newContext hattributes) fun context hcontext => ?_
  exact staysSound_bind (staysSound_save name hcontext) fun _ => yields_pure Result.sound_nothing

theorem yields_performContext (request : ContextRequest) :
    Yields Result.Sound (performContext request) := by
  cases request with
  | create name attributes =>
    exact yields_bind (yields_evalOption attributes) fun v hv => yields_createContext name hv
  | createForScript name script =>
    refine yields_bind (yields_eval script) fun script hscript => ?_
    refine staysSound_bind staysSound_freshSerial fun _ => yields_createContext name ?_
    have hentries := Entries.sound_empty.insert (Value.hashable_text scriptNameAttribute) hscript
    exact Value.sound_view_iff.mpr hentries
  | getAttribute context name =>
    refine staysSound_bind (staysSound_eval context) fun context => ?_
    refine staysSound_bind (staysSound_eval name) fun name => ?_
    exact yields_answered fun hsound hok => hsound.getAttribute hok
  | setAttribute context name value =>
    refine staysSound_bind (staysSound_eval context) fun context => ?_
    refine staysSound_bind (staysSound_eval name) fun name => ?_
    refine yields_bind (yields_eval value) fun value hvalue => ?_
    exact yields_update (fun hsound hok => hsound.setAttribute hvalue hok)
      (yields_pure Result.sound_nothing)
  | removeAttribute context name =>
    refine staysSound_bind (staysSound_eval context) fun context => ?_
    refine staysSound_bind (staysSound_eval name) fun name => ?_
    exact yields_taken fun hsound hok => hsound.removeAttribute hok
  | lookup context name =>
    refine yields_bind (yields_eval context) fun context hcontext => ?_
    refine staysSound_bind (staysSound_eval name) fun name => ?_
    exact yields_answered fun hsound hok => hsound.lookup hcontext hok
  | _ =>
    unfold performContext
    repeat' with_reducible refine staysSound_bind ?_ fun _ => ?_
    all_goals simp

/-! ### Views -/

theorem yields_viewed (hv : v.Sound) : Yields Reading.Sound (viewed v) := by
  unfold viewed
  split_ifs
  · exact yields_bind yields_heap fun h hsound => yields_pure (hsound.reading hv)
  · exact yields_throw _

@[simp] theorem staysSound_viewed (v : Value) : StaysSound (viewed v) := by
  unfold viewed
  split_ifs
  · exact staysSound_bind staysSound_heap fun _ => yields_pure trivial
  · exact yields_throw _

@[simp] theorem staysSound_otherMapping (term : Term) : StaysSound (otherMapping term) := by
  unfold otherMapping
  repeat' with_reducible refine staysSound_bind ?_ fun _ => ?_
  all_goals simp

@[simp] theorem staysSound_operand (sign : String) (term : Term) :
    StaysSound (operand sign term) := by
  unfold operand
  refine staysSound_bind (staysSound_eval term) fun _ => ?_
  split_ifs <;> simp

@[simp] theorem yields_listed (vs : List Value) : Yields Result.Sound (listed vs) :=
  staysSound_bind (staysSound_mapM staysSound_datum vs) fun _ => yields_pure trivial

@[simp] theorem yields_collection (vs : List Value) : Yields Result.Sound (collection vs) :=
  staysSound_bind (staysSound_mapM staysSound_datum vs) fun _ => yields_pure trivial

@[simp] theorem yields_listedPairs (entries : List (Value × Value)) :
    Yields Result.Sound (listedPairs entries) := by
  refine staysSound_bind (staysSound_mapM (fun e => ?_) entries) fun _ => yields_pure trivial
  exact staysSound_bind (staysSound_datum e.1) fun _ =>
    staysSound_bind (staysSound_datum e.2) fun _ => yields_pure trivial

theorem yields_mergeInto (hv : v.Sound) (address : Nat) :
    Yields Value.Sound (mergeInto v address) := by
  refine yields_bind (yields_read fun h a hsound hok => hsound.layers hok) ?_
  rintro ⟨layers, h⟩ ⟨hlayers, hsound⟩
  refine yields_bind (yields_ofExcept fun entries hok => ?_) fun entries hentries =>
    yields_newDict hentries false
  obtain ⟨first, hfirst, hok⟩ := Except.bind_eq_ok_iff.mp hok
  refine Except.foldlM_induction (fun layer hlayer _ _ hentries hput => ?_)
    (hsound.putEntries hv Entries.sound_empty hfirst) hok
  exact hsound.putEntries (hlayers layer (List.mem_reverse.mp hlayer)) hentries hput

theorem yields_queryView (hv : v.Sound) (query : ViewQuery) :
    Yields Result.Sound (queryView v query) := by
  cases query with
  | item key =>
    refine yields_bind (yields_viewed hv) fun r hr => ?_
    refine staysSound_bind (staysSound_eval key) fun key => ?_
    exact yields_answered fun _ hok => hr.item hok
  | get key fallback =>
    refine yields_bind (yields_viewed hv) fun r hr => ?_
    refine staysSound_bind (staysSound_eval key) fun key => ?_
    refine yields_bind (yields_eval fallback) fun fallback hfallback => ?_
    exact yields_bind (yields_ofExcept fun found hok => hr.get hfallback hok) fun found hfound =>
      yields_pure hfound
  | toDict =>
    refine yields_bind (yields_read fun h entries hsound hok => ?_) fun entries hentries =>
      yields_bind (yields_newDict hentries false) fun dict hdict => yields_pure hdict
    exact hsound.putEntries hv Entries.sound_empty hok
  | toView =>
    refine yields_bind (yields_copyEntries hv) fun entries hentries => ?_
    exact staysSound_bind staysSound_freshSerial fun _ =>
      yields_pure (Value.sound_view_iff.mpr hentries)
  | hash => cases hview : v.unhashable? <;> simp [queryView, hview]
  | merge other =>
    refine staysSound_bind (staysSound_eval other) fun other => ?_
    split
    · exact yields_bind (yields_mergeInto hv _) fun dict hdict => yields_pure hdict
    · exact yields_throw _
  | setAttribute name value =>
    refine staysSound_bind (staysSound_eval name) fun name => ?_
    refine yields_bind (yields_eval value) fun value hvalue => ?_
    refine yields_update (fun hsound hok => ?_) (yields_pure Result.sound_nothing)
    obtain ⟨serial, rfl⟩ := Heap.setViewAttribute_eq_ok hok
    exact hsound.replaceView hvalue serial
  | _ =>
    unfold queryView
    repeat' with_reducible refine staysSound_bind ?_ fun _ => ?_
    all_goals simp

theorem yields_createView (data : Option Term) : Yields Result.Sound (createView data) := by
  refine yields_bind (yields_evalOption data) fun v hv => ?_
  refine yields_bind (yields_copyEntries hv) fun entries hentries => ?_
  exact staysSound_bind staysSound_freshSerial fun _ =>
    yields_pure (Value.sound_view_iff.mpr hentries)

/-! ### Configurations and the log -/

@[simp] theorem staysSound_describe (s : Setting) : StaysSound (describe s) :=
  staysSound_bind (staysSound_datum _) fun _ => yields_pure trivial

@[simp] theorem staysSound_setLevel (v : Value) : StaysSound (setLevel v) :=
  staysSound_bind (staysSound_read _) fun _ => staysSound_modify (fun _ => rfl) fun _ => rfl

@[simp] theorem staysSound_configureLog (conf : Value) : StaysSound (configureLog conf) :=
  staysSound_bind (staysSound_read _) fun _ => staysSound_setLevel _

theorem yields_limitsFrom (conf : Value) : Yields Value.Sound (limitsFrom conf) :=
  staysSound_bind (staysSound_read _) fun l => staysSound_bind staysSound_freshSerial fun serial =>
    yields_pure (l.hashable_toValue serial).sound

theorem yields_queryMapping (hv : v.Sound) (query : MappingQuery) :
    Yields Result.Sound (queryMapping v query) := by
  cases query with
  | item key =>
    refine staysSound_bind (staysSound_eval key) fun key => ?_
    exact yields_answered fun hsound hok => hsound.item hv hok
  | get key fallback =>
    refine staysSound_bind (staysSound_eval key) fun key => ?_
    refine yields_bind (yields_eval fallback) fun fallback hfallback => ?_
    exact yields_answered fun hsound hok => hsound.get hv hfallback hok
  | put key value =>
    refine staysSound_bind (staysSound_eval key) fun key => ?_
    refine yields_bind (yields_eval value) fun value hvalue => ?_
    exact yields_update (fun hsound hok => hsound.rewritten (hsound.rewritten_putItem hvalue hok))
      (yields_pure Result.sound_nothing)
  | delete key =>
    refine staysSound_bind (staysSound_eval key) fun key => ?_
    exact yields_update (fun hsound hok => hsound.rewritten (hsound.rewritten_deleteItem hok))
      (yields_pure Result.sound_nothing)
  | pop key fallback =>
    refine staysSound_bind (staysSound_eval key) fun key => ?_
    refine yields_bind (yields_optionMapM yields_eval fallback) fun fallback hfallback => ?_
    refine yields_taken fun hsound hok => ?_
    obtain ⟨hfound, hrewritten⟩ := hsound.rewritten_popItem hfallback hok
    exact ⟨hfound, hsound.rewritten hrewritten⟩
  | layers =>
    refine yields_bind (yields_read fun h a hsound hok => hsound.layers hok) ?_
    rintro ⟨layers, h⟩ ⟨-, hsound⟩
    exact staysSound_bind (staysSound_setHeap hsound) fun _ => yields_listed layers
  | clear =>
    exact yields_update (fun hsound hok => hsound.rewritten (Heap.rewritten_clearItems hok))
      (yields_pure Result.sound_nothing)
  | items =>
    unfold queryMapping
    split_ifs
    · exact staysSound_bind (staysSound_read _) fun _ => yields_listedPairs _
    · exact yields_throw _
  | _ =>
    unfold queryMapping
    repeat' with_reducible refine staysSound_bind ?_ fun _ => ?_
    all_goals simp

theorem yields_performConfig (request : ConfigRequest) :
    Yields Result.Sound (performConfig request) := by
  cases request with
  | readSetting setting source =>
    refine yields_bind (yields_eval source) fun source hsource => ?_
    refine staysSound_bind (staysSound_ofExcept _) fun setting => ?_
    exact yields_answered fun hsound hok => hsound.setting hsource hok
  | environment env =>
    refine staysSound_bind (staysSound_eval env) fun env => ?_
    refine yields_bind (yields_read fun h entries _ hok => ?_) fun entries hentries =>
      yields_bind (yields_newDict hentries false) fun dict hdict => yields_pure hdict
    exact Heap.sound_environmentOverrides hok
  | limitsFrom conf =>
    refine staysSound_bind (staysSound_eval conf) fun conf => ?_
    exact yields_bind (yields_limitsFrom conf) fun l hl => yields_pure hl
  | newLimits given named =>
    refine yields_bind (yields_evalAll given) fun given hgiven => ?_
    refine yields_bind (yields_evalNamed named) fun named hnamed => ?_
    refine staysSound_bind staysSound_freshSerial fun serial => ?_
    exact yields_bind (yields_ofExcept fun l hok => Value.sound_makeLimits hgiven hnamed hok)
      fun l hl => yields_pure hl
  | newConfig sources =>
    refine yields_bind (yields_evalAll sources) fun sources hsources => ?_
    exact yields_bind (yields_newConfig hsources) fun conf hconf => yields_pure hconf
  | host sources env =>
    refine yields_bind (yields_evalAll sources) fun sources hsources => ?_
    refine staysSound_bind (staysSound_eval env) fun env => ?_
    refine yields_bind (yields_read fun h entries _ hok => Heap.sound_environmentOverrides hok)
      fun entries hentries => ?_
    refine yields_bind (yields_newDict hentries false) fun overrides hoverrides => ?_
    have hall : ∀ source ∈ sources ++ [overrides], source.Sound :=
      List.forall_mem_append.mpr ⟨hsources, List.forall_mem_singleton.mpr hoverrides⟩
    refine staysSound_bind (yields_newConfig hall).staysSound fun conf => ?_
    refine staysSound_bind (staysSound_configureLog conf) fun _ => ?_
    exact yields_bind (yields_limitsFrom conf) fun l hl => yields_pure hl
  | value value => exact yields_bind (yields_eval value) fun v hv => yields_pure hv
  | mapping mapping query =>
    exact yields_bind (yields_eval mapping) fun v hv => yields_queryMapping hv query
  | _ =>
    unfold performConfig
    repeat' with_reducible refine staysSound_bind ?_ fun _ => ?_
    all_goals simp

theorem yields_levels : Yields Result.Sound levels :=
  staysSound_bind staysSound_get fun _ => yields_pure trivial

theorem yields_performLog (request : LogRequest) : Yields Result.Sound (performLog request) := by
  cases request with
  | configure conf =>
    refine staysSound_bind (staysSound_eval conf) fun conf => ?_
    exact staysSound_bind (staysSound_configureLog conf) fun _ => yields_levels
  | setLevel level =>
    refine staysSound_bind (staysSound_eval level) fun level => ?_
    exact staysSound_bind (staysSound_setLevel level) fun _ => yields_levels
  | level => exact yields_levels
  | write severity message =>
    unfold performLog
    repeat' with_reducible refine staysSound_bind ?_ fun _ => ?_
    all_goals simp

/-! ### Events -/

@[simp] theorem staysSound_subscribers (event : String) : StaysSound (subscribers event) :=
  staysSound_bind staysSound_get fun _ => yields_pure trivial

@[simp] theorem staysSound_setSubscribers (event : String) (subscriptions : List Subscription) :
    StaysSound (setSubscribers event subscriptions) :=
  staysSound_modify (fun _ => rfl) fun _ => rfl

theorem staysSound_countReaction (event : String) (serial : Nat) :
    StaysSound (countReaction event serial) :=
  staysSound_bind (staysSound_subscribers event) fun _ => staysSound_setSubscribers event _

theorem staysSound_hold (serial : Nat) : StaysSound (hold serial) :=
  staysSound_modify (fun _ => rfl) fun _ => rfl

theorem staysSound_release (held : List Nat) : StaysSound (release held) :=
  staysSound_modify (fun _ => rfl) fun _ => rfl

theorem staysSound_connect (event : String) (subscription : Subscription) :
    StaysSound (connect event subscription) := by
  unfold connect
  refine staysSound_bind staysSound_get fun _ => ?_
  refine staysSound_bind (staysSound_subscribers event) fun _ => ?_
  refine staysSound_bind (staysSound_setSubscribers event _) fun _ => ?_
  split
  · split_ifs <;> simp
  · exact yields_pure trivial

@[simp] theorem staysSound_storeAddress (name : String) : StaysSound (storeAddress name) := by
  unfold storeAddress
  refine staysSound_bind (staysSound_saved name) fun _ => ?_
  split <;> simp

@[simp] theorem staysSound_scriptOf (context : Value) : StaysSound (scriptOf context) :=
  staysSound_bind (staysSound_read _) fun _ => yields_pure trivial

theorem yields_viewOf {vars : Vars} (hvars : vars.keys.Nodup) :
    Yields Result.Sound (viewOf vars) := by
  unfold viewOf
  split_ifs
  · exact yields_pure (Value.sound_view_iff.mpr Entries.sound_empty)
  · exact staysSound_bind staysSound_freshSerial fun serial =>
      yields_pure (Vars.sound_toView hvars serial)

theorem staysSound_answer (result : Result) : StaysSound result.answer := by
  cases result with
  | value v => exact staysSound_bind (staysSound_datum v) fun _ => yields_pure trivial
  | datum | filled => exact yields_pure trivial

theorem staysSound_raise (message : Term) (budget : Nat) :
    StaysSound (react budget (.raise message)) := by
  cases budget
  all_goals
    refine staysSound_bind (staysSound_eval message) fun _ => ?_
    exact staysSound_bind (staysSound_read _) fun _ => yields_throw _

theorem staysSound_reportReceiver (event : String) (failure : Failure) :
    StaysSound (reportReceiver event failure) :=
  staysSound_bind (staysSound_read _) fun _ => staysSound_log _ _ _

section Receivers

variable {react : Reactor} (hreact : ∀ reaction, StaysSound (react reaction))
include hreact

theorem staysSound_deliver (event : Event) (subscription : Subscription) :
    StaysSound (deliver react event subscription) := by
  unfold deliver
  refine staysSound_bind (staysSound_datum _) fun _ => staysSound_bind staysSound_get fun _ => ?_
  refine staysSound_bind (staysSound_ofExcept _) fun _ => ?_
  refine staysSound_bind (staysSound_note _) fun _ => ?_
  split_ifs
  · exact yields_pure trivial
  · refine staysSound_bind (staysSound_countReaction _ _) fun _ => ?_
    exact staysSound_bind (hreact _) fun _ => staysSound_read _

theorem staysSound_deliverAll (event : Event) (subscriptions : List Subscription) :
    StaysSound (deliverAll react event subscriptions) := by
  induction subscriptions with
  | nil => exact yields_pure trivial
  | cons subscription rest ih =>
    unfold deliverAll
    refine staysSound_bind (staysSound_subscribers event.name) fun _ => ?_
    split
    · exact ih
    · refine staysSound_bind (staysSound_hold _) fun _ => ?_
      refine staysSound_bind (staysSound_deliver hreact event _) fun _ => ?_
      exact staysSound_bind ih fun _ => yields_pure trivial

theorem staysSound_emit (event : Event) : StaysSound (emit react event) := by
  have hsend : StaysSound (send react event) := by
    unfold send
    split_ifs
    · exact yields_throw _
    · refine staysSound_bind staysSound_get fun _ => ?_
      refine staysSound_bind (staysSound_subscribers _) fun _ => ?_
      refine staysSound_bind (staysSound_attempt (staysSound_deliverAll hreact event _)) fun _ => ?_
      exact staysSound_bind (staysSound_release _) fun _ => staysSound_ofExcept _
  exact yields_tryCatch hsend fun _ =>
    staysSound_bind (staysSound_reportReceiver _ _) fun _ => yields_pure trivial

theorem yields_performEvent (request : EventRequest) :
    Yields Result.Sound (performEvent react request) := by
  cases request with
  | connect event receiver sender reaction times =>
    refine staysSound_bind (yields_optionMapM yields_eval sender).staysSound fun _ => ?_
    refine staysSound_bind staysSound_freshSerial fun _ => ?_
    exact staysSound_bind (staysSound_connect event _) fun _ => yields_pure Result.sound_nothing
  | disconnect event receiver =>
    refine staysSound_bind (staysSound_subscribers event) fun _ => ?_
    exact staysSound_bind (staysSound_setSubscribers event _) fun _ =>
      yields_pure Result.sound_nothing
  | signal event =>
    exact staysSound_bind (staysSound_subscribers event) fun _ => yields_pure trivial
  | emit event sender payload =>
    refine staysSound_bind (staysSound_eval sender) fun sender => ?_
    refine staysSound_bind (yields_evalNamed payload).staysSound fun payload => ?_
    split_ifs <;> try exact yields_throw _
    exact staysSound_bind (staysSound_emit hreact _) fun _ => yields_pure trivial

/-! ### Stores -/

theorem staysSound_giveNotice (address : Nat) (notice : Notice) :
    StaysSound (giveNotice react address notice) := by
  cases notice with
  | log severity message => exact staysSound_log severity message none
  | change change => exact staysSound_bind (staysSound_emit hreact _) fun _ => yields_pure trivial

theorem staysSound_operate (address : Nat) (operation : Store.Operation) :
    StaysSound (operate react address operation) := by
  refine yields_bind yields_heap fun h hsound => ?_
  refine staysSound_bind (staysSound_setHeap (hsound.operate address operation)) fun _ => ?_
  exact staysSound_bind (staysSound_forM (staysSound_giveNotice hreact address) _) fun _ =>
    staysSound_ofExcept _

/-- **The answer of a store** is sound. -/
theorem yields_call (address : Nat) (call : Call) :
    Yields Result.Sound (Run.call react address call) := by
  cases call with
  | update operation =>
    exact staysSound_bind (staysSound_operate hreact address operation) fun _ =>
      yields_pure Result.sound_nothing
  | updateFromContext context key value =>
    refine staysSound_bind (staysSound_scriptOf context) fun _ => ?_
    exact staysSound_bind (staysSound_operate hreact address _) fun _ =>
      yields_pure Result.sound_nothing
  | limits =>
    exact yields_bind yields_heap fun h hsound => yields_pure (hsound.store address).limits
  | getGlobals =>
    refine yields_bind yields_heap fun h hsound => ?_
    exact staysSound_bind staysSound_freshSerial fun serial =>
      yields_pure (Vars.sound_toView (hsound.store address).globals serial)
  | getScriptVars script =>
    exact yields_bind yields_heap fun h hsound =>
      yields_viewOf ((hsound.store address).nodup_scriptVars script)
  | getVarsFromContext context =>
    refine staysSound_bind (staysSound_scriptOf context) fun script => ?_
    exact yields_bind yields_heap fun h hsound =>
      yields_viewOf ((hsound.store address).nodup_scriptVars script)
  | snapshot =>
    refine yields_bind yields_heap fun h hsound => ?_
    exact staysSound_bind (staysSound_freshSerials _) fun serial =>
      yields_pure ((hsound.store address).snapshot serial)
  | _ =>
    unfold Run.call
    repeat' with_reducible refine staysSound_bind ?_ fun _ => ?_
    all_goals simp

theorem staysSound_fillStep (address : Nat) (keyStart : String) (value : Value)
    (script : Option Value) (report : Nat × List (Int × Complaint)) (i : Int) :
    StaysSound (fillStep react address keyStart value script report i) :=
  yields_tryCatch (staysSound_bind (staysSound_operate hreact _ _) fun _ => yields_pure trivial)
    fun _ => staysSound_bind staysSound_heap fun _ => yields_pure trivial

theorem yields_performStore (name : String) (request : StoreRequest) :
    Yields Result.Sound (performStore react name request) := by
  cases request with
  | create limits =>
    refine yields_bind (yields_evalOption limits) fun limits hlimits => ?_
    refine staysSound_bind staysSound_freshSerial fun serial => ?_
    refine staysSound_bind (staysSound_read _) fun given => ?_
    have hchosen : (if given then limits else Limits.default.toValue serial).Sound := by
      split_ifs
      · exact hlimits
      · exact (Limits.hashable_toValue _ _).sound
    have hmake (h : Heap) (hsound : h.AllSound) := hsound.newStore (Store.sound_new hchosen)
    refine yields_bind (yields_allocate fun h hsound => ⟨Value.Hashable.sound rfl, hmake h hsound⟩)
      fun store hstore => ?_
    exact staysSound_bind (staysSound_save name hstore) fun _ => yields_pure hchosen
  | fill keyStart first last value script =>
    unfold performStore
    repeat' with_reducible refine staysSound_bind ?_ fun _ => ?_
    all_goals first
      | simp
      | exact staysSound_foldlM (staysSound_fillStep hreact _ _ _ _) _ _
  | _ =>
    unfold performStore
    repeat' with_reducible refine staysSound_bind ?_ fun _ => ?_
    all_goals first
      | exact yields_call hreact _ _
      | simp

/-! ### Steps -/

/-- **What comes of a request** is sound. -/
theorem yields_perform (store : String) (request : Request) :
    Yields Result.Sound (perform react store request) := by
  cases request with
  | store request => exact yields_performStore hreact store request
  | context request => exact yields_performContext request
  | newView data => exact yields_createView data
  | view view query => exact yields_bind (yields_eval view) fun v hv => yields_queryView hv query
  | config request => exact yields_performConfig request
  | log request => exact yields_performLog request
  | event request => exact yields_performEvent hreact request

theorem staysSound_performStep (step : Step) : StaysSound (performStep react step) := by
  refine yields_bind (yields_perform hreact step.store step.request) fun result hresult => ?_
  cases step.save with
  | none => exact staysSound_answer result
  | some name =>
    cases result with
    | value v => exact staysSound_bind (staysSound_save name hresult) fun _ => staysSound_answer _
    | datum | filled => exact staysSound_answer _

end Receivers

/-- **A reaction of a receiver** leaves a session sound.  The induction is on how many can take
place inside each other. -/
theorem staysSound_react (budget : Nat) (reaction : Reaction) :
    StaysSound (react budget reaction) := by
  induction budget generalizing reaction with
  | zero =>
    cases reaction with
    | raise message => exact staysSound_raise message 0
    | _ => exact yields_pure trivial
  | succ budget ih =>
    cases reaction with
    | record => exact yields_pure trivial
    | raise message => exact staysSound_raise message (budget + 1)
    | report steps =>
      refine staysSound_forM (fun step => ?_) steps
      exact staysSound_bind (staysSound_attempt (staysSound_performStep ih step)) fun _ =>
        staysSound_bind staysSound_heap fun _ => staysSound_note _
    | perform steps =>
      refine staysSound_forM (fun step => ?_) steps
      exact staysSound_bind (staysSound_performStep ih step) fun _ => yields_pure trivial

end Run

namespace Session

variable {s : Session}

/-- **A step** or a call of a store, with whatever values, **leaves a session sound**. -/
theorem Sound.act (hs : s.Sound) (budget : Nat) (action : Action) :
    (s.act budget action).Sound := by
  cases action with
  | step step =>
    have hcleared : Sound { s with trace := [] } := ⟨hs.heap, hs.names⟩
    exact (Run.staysSound_performStep (Run.staysSound_react budget) step _ hcleared).1
  | call address call => exact (Run.yields_call (Run.staysSound_react budget) address call s hs).1

/-- **Whatever is done in a session, it stays sound.** -/
theorem Sound.after (hs : s.Sound) (budget : Nat) (actions : List Action) :
    (s.after budget actions).Sound := by
  induction actions generalizing s with
  | nil => exact hs
  | cons action rest ih => exact ih (hs.act budget action)

/-- **In a session that began new everything is sound**, whatever has been done. -/
theorem sound_after_start (budget : Nat) (actions : List Action) :
    (start.after budget actions).heap.Sound :=
  (sound_start.after budget actions).heap.toSound

end Session

end BoundedVars
