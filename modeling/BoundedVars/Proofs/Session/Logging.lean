import BoundedVars.Proofs.Session.Calls
import BoundedVars.Proofs.Session.Notices
import BoundedVars.Proofs.Store.Messages

/-!
# What logging does to writing

Operations are meant to do the same whether or not they are logged.  `Run.SameEffect` says what the
same is: the same result or failure, the same stores, and the same deliveries.  Messages are
rendered while the operation is going on, and a message that cannot be rendered ends it; then a
variable that was written is not announced, and a failure for want of room turns into another one.

For variables of scripts this can happen, and `sameEffect_iff_not_logFails` says exactly when: when
the message is recorded and the key and the name of the script clash in it.
-/

namespace BoundedVars

open Markup

/-- A call that writes a variable of a script, which is named or the one of a context. -/
inductive Call.WritesScript (h : Heap) (name key : String) (value : Value) : Call → Prop where
  | named : WritesScript h name key value (.update (.setScript (.text name) (.text key) value))
  | ofContext {context : Value} (hname : h.scriptName context = .ok name) :
    WritesScript h name key value (.updateFromContext context (.text key) value)

/-- Logging gets in the way of writing a variable of a script: the outcome has a message that is
recorded, and in this message key and name clash. -/
def Store.LogFails (level : Int) (name key : String) (outcome : Outcome) : Prop :=
  (Log.records level .debug = true ∧ (∃ change, .change change ∈ outcome.notices) ∧
    Clash key "' of script '" name) ∨
  (Log.records level .warning = true ∧
    (∃ shown, outcome.result = .error (.full (.script name) shown)) ∧
    Clash key "': " ("script '" ++ name ++ "'"))

namespace Run

open Session

variable {α : Type} {react : Reactor} {address : Nat} {s t : Session}

/-- Carrying something out comes to the same on two sessions. -/
structure SameEffect (run : Run α) (s t : Session) : Prop where
  result : (run.on s).1 = (run.on t).1
  stores : (run.on s).2.heap.stores = (run.on t).2.heap.stores
  deliveries : (run.on s).2.deliveries = (run.on t).2.deliveries

/-! ### One message and what follows -/

/-- A change and the message about it, where that does no harm: all that comes of it is that the
receivers get to know of the change. -/
theorem on_logged_change (hreact : react .record = pure ()) {severity : Severity} {message : String}
    {change : Change} {sender : Datum}
    (hpasses : Log.records s.level severity = true → Log.check message = .ok ())
    (hshows : (change.announcement address).Shows s sender change.shownFields)
    (hrecorded : s.Recorded change.event) :
    ∃ t, ([.log severity message, .change change].forM (giveNotice react address)).on s =
        (.ok (), t) ∧ t.heap = s.heap ∧
      t.deliveries = s.deliveries ++ (audience s (change.announcement address)).map
        ((change.announcement address).entry sender change.shownFields) := by
  obtain ⟨t, hlog, hlogged⟩ := on_log_of_passes react address hpasses
  have hconnected : t.connected = s.connected := by
    funext event
    rw [connected, connected, hlogged.subscriptions]
  obtain ⟨u, hannounce, htold, -⟩ := on_announce hreact (hshows.congr hlogged.heap hlogged.names)
    ((recorded_congr hlogged.subscriptions).mpr hrecorded)
  -- The message changes nothing about who is connected.
  have haudience : audience t (change.announcement address) =
      audience s (change.announcement address) := by
    rw [audience, audience, reached, reached, hconnected]
  refine ⟨u, (on_bind_ok hlog).trans (on_bind_ok hannounce), htold.heap.trans hlogged.heap, ?_⟩
  rw [htold.deliveries_eq, hlogged.deliveries_eq, haudience]

/-! ### Writing a variable of a script -/

/-- What receivers get to know when notices are given. -/
def heard (s : Session) (address : Nat) (sender : Datum) (notices : List Notice) :
    List TraceEntry :=
  notices.flatMap fun
    | .log .. => []
    | .change change => (audience s (change.announcement address)).map
        ((change.announcement address).entry sender change.shownFields)

/-- Who gets to know depends on the receivers only. -/
theorem heard_congr (h : t.subscriptions = s.subscriptions) (address : Nat) (sender : Datum)
    (notices : List Notice) : heard t address sender notices = heard s address sender notices := by
  have hconnected : t.connected = s.connected := by
    funext event
    rw [connected, connected, h]
  simp only [heard, audience, reached, hconnected]

section Writing

variable {store : Store} {name key : String} {outcome : Outcome} {sender : Datum}
  (hwriting : Store.Writing store (.script name) (.text key) outcome)
include hwriting

/-- Where logging does not get in the way, the outcome takes its course. -/
theorem on_conclude (hreact : react .record = pure ())
    (hset : s.Recorded Change.setEvent) (hremoved : s.Recorded Change.removedEvent)
    (hsender : s.datum (.store address) = .ok sender)
    (hpasses : ¬Store.LogFails s.level name key outcome) :
    ∃ t, (conclude react address outcome).on s = (outcome.result, t) ∧ t.heap = s.heap ∧
      t.deliveries = s.deliveries ++ heard s address sender outcome.notices := by
  cases hwriting with
  | refused | idle => exact ⟨s, rfl, rfl, (List.append_nil _).symm⟩
  | @rejected key bound shown hshown =>
    have hcheck : Log.records s.level .warning = true →
        Log.check (Store.rejectedMessage (.script name) key shown) = .ok () := by
      intro hrecords
      rw [Store.check_rejectedMessage _ _ hshown]
      exact fun hclash => hpasses (Or.inr ⟨hrecords, ⟨shown, rfl⟩, hclash⟩)
    -- The rejection is not announced, so the message is all there is.
    obtain ⟨t, hlog, hlogged⟩ := on_log_of_passes react address hcheck
    exact ⟨t, on_bind_ok (on_bind_ok hlog), hlogged.heap,
      hlogged.deliveries_eq.trans (List.append_nil _).symm⟩
  | @written key value hkey hvalue hroom =>
    have hcheck : Log.records s.level .debug = true →
        Log.check (Store.setMessage (.script name) key) = .ok () := by
      intro hrecords
      rw [Store.check_setMessage_script]
      exact fun hclash => hpasses (Or.inl ⟨hrecords, ⟨_, List.mem_cons_of_mem _ List.mem_cons_self⟩,
        hclash⟩)
    obtain ⟨t, hnotices, hheap, hdeliveries⟩ := on_logged_change hreact hcheck
      (Change.shows_announcement (.set (.script name) key value) hsender) hset
    exact ⟨t, on_bind_ok hnotices, hheap, hdeliveries.trans (by simp [heard, Store.accept])⟩
  | @removed key h =>
    have hcheck : Log.records s.level .debug = true →
        Log.check (Store.removedMessage (.script name) key) = .ok () := by
      intro hrecords
      rw [Store.check_removedMessage_script]
      exact fun hclash => hpasses (Or.inl ⟨hrecords, ⟨_, List.mem_cons_of_mem _ List.mem_cons_self⟩,
        hclash⟩)
    obtain ⟨t, hnotices, hheap, hdeliveries⟩ := on_logged_change hreact hcheck
      (Change.shows_announcement (.removed (.script name) key) hsender) hremoved
    exact ⟨t, on_bind_ok hnotices, hheap, hdeliveries.trans (by simp [heard, Store.accept])⟩

/-- Where logging gets in the way, the failure is one of the message. -/
theorem on_conclude_of_logFails (react : Reactor) (address : Nat)
    (hfails : Store.LogFails s.level name key outcome) :
    ∃ fault t, (conclude react address outcome).on s = (.error (.markup fault), t) := by
  -- The first notice is the message that fails.
  have hfirst : ∀ {severity message rest result store}, Log.records s.level severity = true →
      Log.check message ≠ .ok () → ∃ fault t,
        (conclude react address ⟨store, .log severity message :: rest, result⟩).on s =
          (.error (.markup fault), t) := by
    intro severity message rest result store hrecords hcheck
    obtain ⟨fault, t, hlog⟩ := on_log_of_fails react address hrecords hcheck
    exact ⟨fault, t, on_bind_error (on_bind_error hlog)⟩
  rcases hfails with ⟨hrecords, ⟨change, hchange⟩, hclash⟩ | ⟨hrecords, ⟨shown, hfull⟩, hclash⟩
  · cases hwriting with
    | refused | idle => cases hchange
    | rejected => simp at hchange
    | written =>
      exact hfirst hrecords fun hok => (Store.check_setMessage_script _ _).mp hok hclash
    | removed =>
      exact hfirst hrecords fun hok => (Store.check_removedMessage_script _ _).mp hok hclash
  · cases hwriting with
    | refused h =>
      obtain rfl := Except.error.inj hfull
      exact absurd trivial h
    | rejected key hshown =>
      exact hfirst hrecords fun hok => (Store.check_rejectedMessage _ _ hshown).mp hok hclash
    | idle | written | removed => cases hfull

/-- Logging gets in the way of what was done already or of a failure for want of room. -/
theorem result_of_logFails {level : Int} (hfails : Store.LogFails level name key outcome) :
    outcome.result = .ok () ∨ ∃ shown, outcome.result = .error (.full (.script name) shown) := by
  rcases hfails with ⟨-, ⟨change, hchange⟩, -⟩ | ⟨-, hfull, -⟩
  · cases hwriting with
    | refused | idle => cases hchange
    | rejected => simp at hchange
    | written | removed => exact Or.inl rfl
  · exact Or.inr hfull

end Writing

/-! ### With and without the log -/

/-- What a call that writes a variable of a script does, with a script named or that of a
context. -/
theorem on_call_of_writesScript {name key : String} {value : Value} {call : Call}
    (hcall : call.WritesScript s.heap name key value) {result : Except Failure Unit}
    (hoperate : (operate react address (.setScript (.text name) (.text key) value)).on s =
      (result, t)) :
    (Run.call react address call).on s = (result.map fun _ => Result.nothing, t) := by
  have hresolved : call.resolved s.heap =
      .ok (.update (.setScript (.text name) (.text key) value)) := by
    cases hcall with
    | named => rfl
    | ofContext hname =>
      rw [Call.resolved, hname]
      rfl
  rw [on_call_resolved, hresolved]
  dsimp only
  rw [on_update, hoperate]

/-- Where logging does not get in the way, the call does what its outcome says. -/
theorem on_call_of_not_logFails (hreact : react .record = pure ()) {name key : String}
    {value : Value} {call : Call} {sender : Datum} (hcall : call.WritesScript s.heap name key value)
    (hset : s.Recorded Change.setEvent) (hremoved : s.Recorded Change.removedEvent)
    (hsender : (changed s address (.setScript (.text name) (.text key) value)).datum
      (.store address) = .ok sender)
    (hpasses : ¬Store.LogFails s.level name key
      ((s.heap.store address).setScript (.text name) (.text key) value)) :
    ∃ t, (Run.call react address call).on s =
        (((s.heap.store address).setScript (.text name) (.text key) value).result.map
          fun _ => Result.nothing, t) ∧
      t.heap = (changed s address (.setScript (.text name) (.text key) value)).heap ∧
      t.deliveries = s.deliveries ++ heard s address sender
        ((s.heap.store address).setScript (.text name) (.text key) value).notices := by
  have hsubscriptions := subscriptions_changed (s := s) address
    (.setScript (.text name) (.text key) value)
  have hset' := (recorded_congr hsubscriptions).mpr hset
  have hremoved' := (recorded_congr hsubscriptions).mpr hremoved
  rw [← level_changed address (.setScript (.text name) (.text key) value)] at hpasses
  obtain ⟨t, hconclude, hheap, hdeliveries⟩ := on_conclude
    (Store.writing_setScript (s.heap.store address) name (.text key) value) hreact hset' hremoved'
    hsender hpasses
  rw [heard_congr hsubscriptions] at hdeliveries
  exact ⟨t, on_call_of_writesScript hcall ((on_operate react address _).trans hconclude), hheap,
    hdeliveries⟩

/-- Where logging gets in the way, the call fails with the fault of the message. -/
theorem on_call_of_logFails (react : Reactor) {name key : String} {value : Value} {call : Call}
    (hcall : call.WritesScript s.heap name key value)
    (hfails : Store.LogFails s.level name key
      ((s.heap.store address).setScript (.text name) (.text key) value)) :
    ∃ fault t, (Run.call react address call).on s = (.error (.markup fault), t) := by
  rw [← level_changed address (.setScript (.text name) (.text key) value)] at hfails
  obtain ⟨fault, t, hconclude⟩ := on_conclude_of_logFails
    (Store.writing_setScript (s.heap.store address) name (.text key) value) react address hfails
  exact ⟨fault, t, on_call_of_writesScript hcall ((on_operate react address _).trans hconclude)⟩

/-- **Logging changes what a call that writes a variable of a script does exactly when it gets in
the way.**  With the log switched off by a level that records nothing, the call does the same,
unless the message about its outcome is recorded and key and name clash in it; then the call fails
with the fault of the message. -/
theorem sameEffect_iff_not_logFails (budget : Nat) {name key : String} {value : Value} {call : Call}
    {off : Int} (hcall : call.WritesScript s.heap name key value)
    (hset : s.Recorded Change.setEvent) (hremoved : s.Recorded Change.removedEvent)
    (hoff : ∀ severity, Log.records off severity = false) :
    let outcome := (s.heap.store address).outcome (.setScript (.text name) (.text key) value)
    (SameEffect (Run.call (Run.react budget) address call) s { s with level := off } ↔
      ¬Store.LogFails s.level name key outcome) ∧
    (Store.LogFails s.level name key outcome →
      ∃ fault, ((Run.call (Run.react budget) address call).on s).1 = .error (.markup fault)) := by
  intro outcome
  have hreact := react_record budget
  obtain ⟨sender, hsender⟩ := (changed s address
    (.setScript (.text name) (.text key) value)).exists_datum_store address
  -- Without the log there is nothing in the way.
  have hquiet : ¬Store.LogFails off name key outcome := by
    rintro (⟨hrecords, -⟩ | ⟨hrecords, -⟩) <;>
    · rw [hoff] at hrecords
      cases hrecords
  obtain ⟨u, hcallOff, hheapOff, hdeliveriesOff⟩ := on_call_of_not_logFails hreact
    (s := { s with level := off }) hcall hset hremoved hsender hquiet
  refine ⟨⟨fun hsame hfails => ?_, fun hpasses => ?_⟩, fun hfails => ?_⟩
  · obtain ⟨fault, t, hcallOn⟩ := on_call_of_logFails (Run.react budget) hcall hfails
    have hresult := hsame.result
    rw [hcallOn, hcallOff] at hresult
    have hwriting := Store.writing_setScript (s.heap.store address) name (.text key) value
    rcases result_of_logFails hwriting hfails with hok | ⟨shown, hfull⟩
    · rw [hok] at hresult
      cases hresult
    · rw [hfull] at hresult
      cases hresult
  · obtain ⟨t, hcallOn, hheap, hdeliveries⟩ :=
      on_call_of_not_logFails hreact hcall hset hremoved hsender hpasses
    constructor
    · rw [hcallOn, hcallOff]
    · rw [hcallOn, hcallOff, hheap, hheapOff]
      simp only [changed]
    · rw [hcallOn, hcallOff, hdeliveries, hdeliveriesOff,
        heard_congr (s := s) (t := { s with level := off }) rfl]
      rfl
  · obtain ⟨fault, t, hcallOn⟩ := on_call_of_logFails (Run.react budget) hcall hfails
    exact ⟨fault, by rw [hcallOn]⟩

/-- A session with a receiver, and with a store that has room for one variable of each script and
holds one of the script `s]`. -/
def fullScript : Session :=
  let limits : Limits := ⟨1, 1, 9, 9⟩
  let store := (Store.new (limits.toValue 0)).withVars (.script "s]") (Table.ofList [("a", "1")])
  { Session.start with
    heap := (Heap.empty.newStore store).2
    subscriptions := Table.ofList [(Change.setEvent, [⟨0, "receiver", none, .record, 1, false⟩])] }

/-- At its usual level the log gets in the way: writing a variable `[/k` of the script `s]`, for
which there is no room, does not fail as it would without the log. -/
theorem not_sameEffect_fullScript :
    ¬SameEffect (Run.call (Run.react 0) 0
      (.update (.setScript (.text "s]") (.text "[/k") (.text "1")))) fullScript
      { fullScript with level := 50 } := by
  have hset : fullScript.Recorded Change.setEvent := by
    intro subscription hmem
    rw [List.mem_singleton.mp hmem]
  have hremoved : fullScript.Recorded Change.removedEvent := by
    intro subscription hmem
    cases hmem
  have hoff : ∀ severity, Log.records 50 severity = false := by
    intro severity
    cases severity <;> decide
  have hclash : Clash "[/k" "': " "script 's]'" :=
    ⟨[], ['/', 'k'], "script 's".toList, ['\x27'], by decide, by decide, by decide, by decide,
      by decide, Or.inl rfl⟩
  intro hsame
  refine (sameEffect_iff_not_logFails 0 .named hset hremoved hoff).1.mp hsame (Or.inr ?_)
  exact ⟨by decide, ⟨"1", rfl⟩, hclash⟩

end Run

end BoundedVars
