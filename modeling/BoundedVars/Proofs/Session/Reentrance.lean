import BoundedVars.Proofs.Session.Watching
import BoundedVars.Proofs.Store.Effect

/-!
# Mirrors kept by receivers that make calls

A receiver that makes calls while it is told of a change (`Account.Reactor.OnlyCalls`) hears of what
they do before the announcement that it answers has come to an end.  All the same its mirror is in
order when no call is going on, because each operation changes its store in one step and announces
what has become of it next.

There is one exception.  That everything was cleared takes two announcements, and the one about the
scripts comes second, after whatever calls the receiver has made when it heard of the one about the
global variables.  What these have written to scripts then vanishes from the mirror
(`not_mirror_of_late_clear`), but that is all that can go wrong (`mirror_of_calling`).

What an operation announces is listed by `Store.Announces`; `Account.tracks_call` is the step, and
whatever makes calls follows from it.
-/

namespace BoundedVars

namespace Store

variable {s : Store} {o : Outcome}

/-- What an operation announces that has come to a store: nothing, a change that holds of it, or
that all was cleared, one tier after the other. -/
inductive Announces (t : Store) : List Change → Prop where
  | nothing : Announces t []
  | change {change : Change} (h : change.Holds t) : Announces t [change]
  | tiers (hglobals : Change.clearedGlobals.Holds t) (hscripts : Change.clearedScripts.Holds t) :
    Announces t [.clearedGlobals, .clearedScripts]

theorem announces_clear (s : Store) : Announces s.clear.store s.clear.changes := by
  have hglobals : Change.clearedGlobals.Holds s.clear.store := rfl
  have hscripts : Change.clearedScripts.Holds s.clear.store := rfl
  rw [Outcome.changes, clear, accept]
  split_ifs
  · exact .nothing
  · exact .change hscripts
  · exact .change hglobals
  · exact .tiers hglobals hscripts

theorem Step.announces (h : Step s o) : Announces o.store o.changes := by
  cases h with
  | writing hplace hwriting =>
    cases hwriting with
    | refused | rejected | idle => exact .nothing
    | written =>
      refine .change ?_
      rw [Change.Holds, accept, vars_withVars_self, Table.get?_insert_self]
    | removed =>
      refine .change ?_
      rw [Change.Holds, accept, vars_withVars_self, Table.get?_erase_self]
  | refused | idle => exact .nothing
  | clearedGlobals =>
    have hholds : Change.clearedGlobals.Holds { s with globals := .empty } := rfl
    exact .change hholds
  | clearedScript =>
    refine .change ?_
    rw [Change.Holds, accept, vars, Table.get?_erase_self]
    rfl
  | cleared => exact announces_clear s

/-- What an operation does to a store, the changes that it announces do to a mirror. -/
theorem Step.foldl_changes (h : Step s o) :
    o.changes.foldl Mirror.apply s.mirror = o.store.mirror := by
  rw [← h.mirror_eq, Outcome.changes, List.foldl_filterMap]
  congr 1
  funext m notice
  cases notice <;> rfl

end Store

namespace Session

variable {receiver : String} {address : Nat} {s t u : Session} {pending : List Change}
  {history : List Happening}

/-- A call that is started is not announced, so it makes no difference to a mirror. -/
theorem Follows.called (h : Follows receiver address pending history s t) (made : Made) :
    Follows receiver address pending (.called made :: history) s t where
  watched := h.watched
  present := h.present
  mirror_eq := h.mirror_eq
  holds _ _ hmem := h.holds_of_subset (List.subset_cons_self ..)
    ((List.mem_cons.mp hmem).resolve_left nofun)
  agrees S hS hcleared := h.agrees S hS fun moment hmem =>
    hcleared moment (List.mem_cons_of_mem _ hmem)

/-- An operation changes the store as its announcements will change the mirror. -/
theorem Follows.of_changed (operation : Store.Operation) (haddress : address < s.heap.stores.size)
    (h : Follows receiver address ((s.heap.store address).outcome operation).changes history
      (Run.changed s address operation) t) : Follows receiver address [] history s t where
  watched := h.watched
  present := h.present
  mirror_eq := h.mirror_eq
  holds := h.holds
  agrees S hS hcleared hagree := by
    refine h.agrees S hS hcleared ?_
    rw [Run.changed, Heap.store_setStore_self haddress,
      ← (Store.step_outcome _ operation).foldl_changes]
    exact hagree.foldl hS _

/-- An operation on another store does not matter. -/
theorem tracks_changed {place : Nat} (hne : place ≠ address) (operation : Store.Operation) :
    Tracks receiver address [] s (Run.changed s place operation) :=
  tracks_of_store_eq (by rw [Run.changed, Heap.size_setStore]; exact id)
    (fun _ => Heap.store_setStore_of_ne (Ne.symm hne)) rfl fun hw => hw.of_subscriptions_eq rfl rfl

end Session

namespace Account

open Session (Watched Follows Tracks Narrative)

variable {receiver : String} {address : Nat} {react : Reactor} {s : Session}

theorem tracks_conclude {place : Nat} {o : Outcome}
    (hnotices : ∀ notice ∈ o.notices, Tells (Tracks receiver address)
      (giveNotice react place notice)) :
    Tells (Tracks receiver address) (conclude react place o) :=
  tells_bind (tells_forM hnotices) fun _ => tells_still (Run.leads_ofExcept _)

/-- What a receiver fails with, if it only makes calls, has a wording. -/
theorem Reactor.OnlyCalls.explains (h : react.OnlyCalls) {reaction : Reaction}
    (hreaction : reaction.MakesCalls) : Run.Explains (react reaction).run := by
  cases h with
  | quiet h =>
    obtain ⟨run, hrun, -, hexplains⟩ := h reaction hreaction
    rw [hrun]
    exact hexplains
  | calling _ h => exact (h reaction hreaction).explains

/-- What an announcement to the only receiver fails with has a wording. -/
theorem worded_send (honly : react.OnlyCalls) (hw : Watched receiver s) (place : Nat)
    (change : Change) :
    Worded ((Run.send react.run (change.announcement place)).on s).1 := by
  obtain ⟨subscription, hconnected, hwatches⟩ := hw.connected _ change.event_mem_events
  have hdeliver : Run.Explains
      (Run.deliver react.run (change.announcement place) subscription) := by
    refine Run.explains_bind (Run.explains_datum _) fun _ => Run.explains_bind Run.explains_get
      fun s => ?_
    rw [change.shownFields_announcement]
    refine Run.explains_bind (Run.explains_pure _) fun _ =>
      Run.explains_bind (Run.explains_note _) fun _ => ?_
    split_ifs
    · exact Run.explains_pure _
    · -- It is active, so it makes its calls and acknowledges the change.
      refine Run.explains_bind (Run.explains_modify _) fun _ => ?_
      refine Run.explains_bind (honly.explains hwatches.2.2.2) fun _ =>
        Run.explains_read fun h => ?_
      obtain ⟨said, hsaid⟩ := change.acknowledgement_announcement place h subscription.receiver
      rw [hsaid]
      exact Except.failsOnly_ok said
  -- The only receiver connected is told, so sending fails as delivering to it does.
  have hconnected' : s.connected (change.announcement place).name = [subscription] := hconnected
  unfold Run.send
  rw [change.unnamed_announcement, if_neg Bool.false_ne_true, Run.on_bind_ok Run.on_get,
    Run.on_bind_ok (Run.on_subscribers _), hconnected', hwatches.filter_listensTo,
    Run.on_bind_ok (Run.on_attempt _ _), Run.release, Run.on_bind_ok (Run.on_modify _),
    Run.on_ofExcept]
  unfold Run.deliverAll
  rw [Run.on_bind_ok (Run.on_subscribers _), hconnected', subscription.find?_serial]
  exact Run.explains_bind (Run.explains_modify _)
    (fun _ => Run.explains_bind hdeliver fun _ =>
      Run.explains_bind (Run.explains_pure _) fun _ => Run.explains_pure _) s

/-- Announcing a change succeeds if the only receiver does nothing but make calls. -/
theorem on_announce_of_watched (honly : react.OnlyCalls) (hw : Watched receiver s) (place : Nat)
    (change : Change) : ∃ t, (announce react place change).run.on s = (.ok (), t) := by
  rw [run_announce]
  obtain ⟨t, hannounce | ⟨unshown, -, failure, hsend, hmessage⟩⟩ :=
    Run.on_giveNotice_change react.run place s change
  · exact ⟨t, hannounce⟩
  · -- There would have to be a failure without wording, but all failures of calls have one.
    obtain ⟨wording, hwording⟩ := t.heap.exists_message
      (worded_send honly hw place change failure (congrArg Prod.fst hsend))
    cases hmessage.symm.trans hwording

section Calls

variable (honly : react.OnlyCalls)
  (hreact : ∀ reaction, reaction.MakesCalls → Tells (Tracks receiver address) (react reaction))
include honly hreact

/-- **Announcing the changes of an operation makes up for them**, one after another. -/
theorem follows_changes (hw : Watched receiver s) (haddress : address < s.heap.stores.size)
    {changes : List Change} (h : Store.Announces (s.heap.store address) changes) :
    Ends (fun history => Follows receiver address changes history s)
      ((changes.map .change).forM (giveNotice react address)) s := by
  cases h with
  | nothing =>
    have hpure : Tells (Tracks receiver address) (pure ()) := tells_pure ()
    exact hpure s hw haddress
  | @change change hholds =>
    obtain ⟨inner, hhistory, hhears⟩ := hears_announce hreact hw haddress address change
    refine ends_bind (R := Tracks receiver address) (fun h htu => h.trans (htu h.watched h.present))
      ?_ fun _ => tells_pure _
    rw [giveNotice, Ends, hhistory]
    exact hhears.follows hholds
  | tiers hglobals hscripts =>
    obtain ⟨inner, hhistory, hhears⟩ := hears_announce hreact hw haddress address .clearedGlobals
    -- The first announcement comes to an end, so there is a second one.
    obtain ⟨t, hannounce⟩ := on_announce_of_watched honly hw address .clearedGlobals
    rw [hannounce] at hhears
    have hfollows := hhears.follows hglobals
    refine ends_bind_ok hannounce ?_
    refine ends_bind (R := Tracks receiver address) (fun h htu => ?_) ?_ fun _ => tells_pure _
    · rw [← List.append_assoc]
      exact h.trans (htu h.watched h.present)
    · -- By now there may be scripts again.
      obtain ⟨inner', hhistory', hhears'⟩ := hears_announce hreact hfollows.watched hfollows.present
        address .clearedScripts
      rw [giveNotice, giveNotice, Ends, hhistory, hhistory']
      exact hhears'.follows_second hfollows
        ⟨react, s, honly, List.mem_cons_self, hscripts, by rw [hannounce]⟩

theorem follows_conclude (hw : Watched receiver s) (haddress : address < s.heap.stores.size)
    {store : Store} {o : Outcome} (hconduct : Store.Conduct store o)
    (h : Store.Announces (s.heap.store address) o.changes) :
    Ends (fun history => Follows receiver address o.changes history s)
      (conclude react address o) s := by
  cases hconduct with
  | silent result =>
    have hconclude : Tells (Tracks receiver address) (conclude react address ⟨store, [], result⟩) :=
      tracks_conclude fun notice hmem => absurd hmem List.not_mem_nil
    exact hconclude s hw haddress
  | warns message failure =>
    have hconclude : Tells (Tracks receiver address)
        (conclude react address ⟨store, [.log .warning message], .error failure⟩) :=
      tracks_conclude fun notice hmem => by
        rw [List.mem_singleton.mp hmem]
        exact tracks_log _ _ _
    exact hconclude s hw haddress
  | @reports after message changes =>
    rw [Outcome.changes_report] at h ⊢
    -- Below the level of the log the message leaves no trace.
    have hlog : (Run.log .debug message none).on s = (.ok (), s) := by
      rw [Run.on_log, hw.quiet]
      rfl
    refine ends_bind (R := Tracks receiver address) (fun h htu => h.trans (htu h.watched h.present))
      ?_ fun _ => tells_still (Run.leads_ofExcept _)
    exact ends_still_bind hlog (follows_changes honly hreact hw haddress h)

/-- **A call keeps the mirror in order**, whatever calls the receiver makes when it hears of it. -/
theorem tracks_call (place : Nat) (made : Call) :
    Tells (Tracks receiver address) (Account.call react place made) := by
  intro s hw haddress
  rw [history_call, run_call]
  refine Follows.called ?_ _
  cases hoperation : made.operation? s.heap with
  | none =>
    obtain ⟨_, fresh, hcall, -⟩ := Run.on_call_of_no_operation react.run place hoperation
    have hkept : Session.Kept s { s with fresh := fresh } := ⟨rfl, rfl, rfl, rfl, rfl⟩
    rw [history_answer_of_no_operation react place hoperation, hcall]
    exact Narrative.of_grown (R := Tracks receiver address) (Session.Continued.of_kept hkept) hw
      haddress
  | some operation =>
    rw [history_answer_of_operation react place hoperation,
      Run.on_call_snd react.run place hoperation, ← run_conclude]
    by_cases hplace : place = address
    · -- First the store changes, so that the changes are pending, and then they are announced.
      subst hplace
      have hstep := Store.step_outcome (s.heap.store place) operation
      have hstore : (Run.changed s place operation).heap.store place =
          ((s.heap.store place).outcome operation).store := Heap.store_setStore_self haddress
      refine Follows.of_changed operation haddress ?_
      refine follows_conclude (s := Run.changed s place operation) honly hreact
        (hw.of_subscriptions_eq rfl rfl) ?_ hstep.conduct ?_
      · rw [Run.changed, Heap.size_setStore]
        exact haddress
      · rw [hstore]
        exact hstep.announces
    · have hconclude : Tells (Tracks receiver address)
          (conclude react place ((s.heap.store place).outcome operation)) :=
        tracks_conclude fun notice _ => by
          cases notice with
          | log severity message => exact tracks_log _ _ _
          | change change => exact tracks_announce hreact hplace change
      have htracks := Narrative.trans (R := Tracks receiver address)
        (Session.tracks_changed (s := s) hplace operation) (hconclude _)
      exact htracks hw haddress

end Calls

/-! ### Receivers -/

theorem Reactor.OnlyCalls.tracks (h : react.OnlyCalls) {reaction : Reaction}
    (hreaction : reaction.MakesCalls) : Tells (Tracks receiver address) (react reaction) := by
  induction h generalizing reaction with
  | quiet h =>
    obtain ⟨run, hrun, hgrown, -⟩ := h reaction hreaction
    rw [hrun]
    exact tells_still fun s => Narrative.of_grown (hgrown s)
  | calling hinner h ih =>
    exact (h reaction hreaction).tells (tracks_call hinner fun reaction => ih)

theorem calling_performStep {step : Step} {request : StoreRequest}
    (hrequest : step.request = .store request) : Calling react (performStep react step) := by
  rw [performStep, hrequest]
  exact .bind (calling_performStore _ _ _) fun result =>
    .still (leads_finish step result) (explains_finish step result)

/-- The reactions of a session make calls if that is what their steps are. -/
theorem onlyCalls_react (budget : Nat) : Reactor.OnlyCalls (Account.react budget) := by
  have hraise (budget : Nat) (message : Term) :
      Run.Leads Session.Grown (Run.react budget (.raise message)) := by
    simp [Run.react]
  induction budget with
  | zero =>
    -- With nothing left of the budget, receivers do nothing but fail or take note.
    refine .quiet fun reaction _ => ?_
    cases reaction with
    | raise message => exact ⟨_, rfl, hraise 0 message, Run.explains_raise message 0⟩
    | _ => exact ⟨_, rfl, Run.leads_pure (), Run.explains_pure ()⟩
  | succ budget ih =>
    refine .calling ih fun reaction hcalls => ?_
    cases reaction with
    | record => exact calling_pure ()
    | raise message => exact .still (hraise _ message) (Run.explains_raise message _)
    | report steps =>
      refine calling_forM fun step hstep => ?_
      obtain ⟨request, hrequest⟩ := hcalls step hstep
      refine .bind (calling_attempt (calling_performStep hrequest)) fun result => ?_
      exact .bind (.still Run.leads_heap Run.explains_heap) fun h =>
        .still (Run.leads_note_nested _) (Run.explains_note _)
    | perform steps =>
      refine calling_forM fun step hstep => ?_
      obtain ⟨request, hrequest⟩ := hcalls step hstep
      exact .bind (calling_performStep hrequest) fun _ => calling_pure ()

end Account

namespace Session

variable {receiver : String} {address : Nat} {s : Session} {react : Account.Reactor} {α : Type}
  {account : Account α}

/-- Whatever makes calls keeps the mirror in order. -/
theorem follows_of_calling (hreact : react.OnlyCalls) (haccount : Account.Calling react account)
    (hw : Watched receiver s) (haddress : address < s.heap.stores.size) :
    Follows receiver address [] (account.history s) s (account.run.on s).2 :=
  haccount.tells (R := Tracks receiver address)
    (Account.tracks_call hreact fun _ => hreact.tracks) s hw haddress

/-- A session with a store and a receiver that makes a request when it first hears of variables
cleared. -/
def answeringClear (request : StoreRequest) : Session :=
  let reaction : Reaction := .report [.mk (.store request) "s" none]
  { withStore (Limits.default.toValue 0) with
    names := Table.ofList [("s", .store 0)]
    subscriptions := Table.ofList [(Change.setEvent, [⟨0, "receiver", none, .record, 1, false⟩]),
      (Change.removedEvent, [⟨1, "receiver", none, .record, 1, false⟩]),
      (Change.clearedEvent, [⟨2, "receiver", none, reaction, 1, false⟩])] }

theorem watched_answeringClear (request : StoreRequest) :
    Watched "receiver" (answeringClear request) where
  connected event hevent := by
    simp only [Change.events, List.mem_cons, List.not_mem_nil, or_false] at hevent
    rcases hevent with rfl | rfl | rfl
    · exact ⟨_, rfl, rfl, rfl, rfl, trivial⟩
    · exact ⟨_, rfl, rfl, rfl, rfl, trivial⟩
    · refine ⟨_, rfl, rfl, rfl, rfl, fun step hstep => ⟨request, ?_⟩⟩
      rw [List.mem_singleton.mp hstep]
      rfl
  quiet := by
    have hquiet : Log.records Log.outerLevel .debug = false := by decide
    exact hquiet

/-- Both tiers of the store get a variable, and then all is cleared. -/
def fillingAndClearing (react : Account.Reactor) : Account Unit :=
  [.setGlobal (.text "a") (.text "1"), .setScript (.text "s") (.text "b") (.text "1"), .clear].forM
    fun operation => do
      let _ ← Account.call react 0 (.update operation)

theorem calling_fillingAndClearing (react : Account.Reactor) :
    Account.Calling react (fillingAndClearing react) :=
  Account.calling_forM fun _ _ => .bind (.call 0 _) fun _ => Account.calling_pure ()

/-- That all scripts of the store at an address were cleared is announced late: there are some. -/
def isLate (address : Nat) : Happening → Bool
  | .announced place .clearedScripts moment =>
    place == address && !(moment.heap.store address).scripts.isEmpty
  | _ => false

theorem isLate_iff {happening : Happening} : isLate address happening = true ↔
    ∃ moment, happening = .announced address .clearedScripts moment ∧
      ¬Change.clearedScripts.Holds (moment.heap.store address) := by
  have hempty (store : Store) :
      (!store.scripts.isEmpty) = true ↔ ¬Change.clearedScripts.Holds store := by
    rw [Bool.not_eq_true', ← Bool.not_eq_true]
    exact not_congr ⟨Table.eq_empty_of_isEmpty, fun h => by rw [h]; rfl⟩
  constructor
  · intro hlate
    unfold isLate at hlate
    split at hlate
    · rw [Bool.and_eq_true, beq_iff_eq, hempty] at hlate
      obtain ⟨rfl, hholds⟩ := hlate
      exact ⟨_, rfl, hholds⟩
    · cases hlate
  · rintro ⟨moment, rfl, hholds⟩
    rw [isLate, beq_self_eq_true, Bool.true_and, hempty]
    exact hholds

end Session

end BoundedVars
