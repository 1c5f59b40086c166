import BoundedVars.Proofs.Session.Notices
import BoundedVars.Proofs.Store.Step
import Mathlib.Data.List.Nodup

/-!
# Who hears of changes

Here the receivers of the three events by which stores announce changes are known by name, connected
to stay, listen to everybody and only take note (`Session.HeardBy`); there may be none.  Then giving
notice leaves the session as it is but for the trace, to which every change adds one delivery for
each receiver (`on_notices`), and so an operation comes to its outcome and nothing else
(`on_operate_of_passes`).  Where the log records warnings but not every change, the result may be
another, but the rest is the same (`on_operate_of_quiet`).
-/

namespace BoundedVars

/-- The events by which stores announce changes. -/
def Change.events : List String :=
  [setEvent, removedEvent, clearedEvent]

theorem Change.event_mem_events (change : Change) : change.event ∈ events := by
  cases change <;> simp [event, events]

namespace Session

variable {s t u : Session} {receivers : List String} {event : String}

/-- Exactly these receivers hear of an event: each of them is connected to stay, listens to
everybody and only takes note. -/
structure HeardBy (receivers : List String) (s : Session) (event : String) : Prop where
  receivers_eq : (s.connected event).map (·.receiver) = receivers
  serials : ((s.connected event).map (·.serial)).Nodup
  plain : ∀ subscription ∈ s.connected event,
    subscription.sender = none ∧ subscription.reaction = .record ∧
      subscription.isReplaced = false

/-- Exactly these receivers hear of changes. -/
def HearsChanges (receivers : List String) (s : Session) : Prop :=
  ∀ event ∈ Change.events, HeardBy receivers s event

theorem hearsChanges_withStore (limits : Value) : HearsChanges [] (withStore limits) :=
  fun _ _ => ⟨rfl, List.nodup_nil, fun _ hmem => absurd hmem List.not_mem_nil⟩

theorem HeardBy.recorded (h : HeardBy receivers s event) : s.Recorded event :=
  fun subscription hmem => (h.plain subscription hmem).2.1

theorem HeardBy.congr (h : HeardBy receivers s event)
    (hfixed : (t.connected event).map Subscription.fixed =
      (s.connected event).map Subscription.fixed) : HeardBy receivers t event where
  receivers_eq := by
    have hreceivers := congrArg (List.map Subscription.receiver) hfixed
    rw [List.map_map, List.map_map] at hreceivers
    exact hreceivers.trans h.receivers_eq
  serials := by
    have hserials := congrArg (List.map Subscription.serial) hfixed
    rw [List.map_map, List.map_map] at hserials
    exact (congrArg List.Nodup hserials).mpr h.serials
  plain subscription hmem := by
    -- What stays of a connection is all that is asked of it here.
    have hmem' := List.mem_map_of_mem (f := Subscription.fixed) hmem
    rw [hfixed, List.mem_map] at hmem'
    obtain ⟨other, hother, heq⟩ := hmem'
    obtain ⟨hsender, hreaction, hreplaced⟩ := h.plain other hother
    have hsender' : other.fixed.sender = subscription.fixed.sender := congrArg _ heq
    have hreaction' : other.fixed.reaction = subscription.fixed.reaction := congrArg _ heq
    have hreplaced' : other.fixed.isReplaced = subscription.fixed.isReplaced := congrArg _ heq
    exact ⟨hsender'.symm.trans hsender, hreaction'.symm.trans hreaction,
      hreplaced'.symm.trans hreplaced⟩

/-- Ending a delivery leaves such receivers connected. -/
theorem HeardBy.of_leavesReceivers (h : HeardBy receivers s event)
    (hleaves : Run.LeavesReceivers s t) : HeardBy receivers t event := by
  refine h.congr ((hleaves event).trans (List.filter_eq_self.mpr fun fixed hfixed => ?_))
  obtain ⟨subscription, hmem, rfl⟩ := List.mem_map.mp hfixed
  have hreplaced : subscription.fixed.isReplaced = false := (h.plain subscription hmem).2.2
  rw [Run.stays, hreplaced]
  rfl

theorem HearsChanges.congr (hears : HearsChanges receivers s)
    (h : t.subscriptions = s.subscriptions) : HearsChanges receivers t :=
  fun event hevent => (hears event hevent).congr (by rw [connected, connected, h])

theorem receiverOf_of_mem {subscriptions : List Subscription}
    (hserials : (subscriptions.map (·.serial)).Nodup) {subscription : Subscription}
    (hmem : subscription ∈ subscriptions) :
    receiverOf subscriptions subscription.serial = some subscription.receiver := by
  obtain ⟨found, hfound⟩ : ∃ found,
      subscriptions.find? (·.serial == subscription.serial) = some found := by
    rw [← Option.isSome_iff_exists, List.find?_isSome]
    exact ⟨subscription, hmem, beq_self_eq_true _⟩
  have hserial : found.serial = subscription.serial := by
    simpa using List.find?_some hfound
  rw [receiverOf, hfound,
    List.inj_on_of_nodup_map hserials (List.mem_of_find?_eq_some hfound) hmem hserial]
  rfl

/-- All of them get to know of an event, in the order in which they were connected. -/
theorem HeardBy.audience_eq {e : Event} (h : HeardBy receivers s e.name) :
    Run.audience s e = receivers := by
  have hlistens : (s.connected e.name).filter (·.listensTo e.sender) = s.connected e.name := by
    rw [List.filter_eq_self]
    intro subscription hmem
    rw [Subscription.listensTo, (h.plain subscription hmem).1]
  rw [Run.audience, hlistens, Run.reached, ← h.receivers_eq]
  rw [← List.filterMap_eq_map]
  exact List.filterMap_congr fun subscription hmem => receiverOf_of_mem h.serials hmem

end Session

namespace Run

open Session

variable {react : Reactor} {address : Nat} {s t : Session} {receivers : List String}
  {sender : Datum}

/-- What receivers are told by a notice. -/
def told (receivers : List String) (address : Nat) (sender : Datum) : Notice → List TraceEntry
  | .log .. => []
  | .change change =>
    receivers.map ((change.announcement address).entry sender change.shownFields)

/-- A session after notices: what stands in it has not changed, the same receivers hear of changes,
and there are new deliveries. -/
structure Noticed (receivers : List String) (entries : List TraceEntry) (s t : Session) : Prop where
  heap : t.heap = s.heap
  names : t.names = s.names
  level : t.level = s.level
  hears : HearsChanges receivers t
  deliveries_eq : t.deliveries = s.deliveries ++ entries

theorem Noticed.trans {u : Session} {entries more : List TraceEntry}
    (hst : Noticed receivers entries s t) (htu : Noticed receivers more t u) :
    Noticed receivers (entries ++ more) s u where
  heap := htu.heap.trans hst.heap
  names := htu.names.trans hst.names
  level := htu.level.trans hst.level
  hears := htu.hears
  deliveries_eq := by rw [htu.deliveries_eq, hst.deliveries_eq, List.append_assoc]

theorem noticed_of_logged (h : Logged s t)
    (hears : HearsChanges receivers s) : Noticed receivers [] s t where
  heap := h.heap
  names := h.names
  level := h.level
  hears := hears.congr h.subscriptions
  deliveries_eq := h.deliveries_eq.trans (List.append_nil _).symm

/-- One notice, if it is no message that is recorded and cannot be rendered. -/
theorem on_giveNotice (hreact : react .record = pure ()) (hears : HearsChanges receivers s)
    (hsender : s.datum (.store address) = .ok sender) (notice : Notice)
    (hpasses : ∀ severity message, notice = .log severity message →
      Log.records s.level severity = true → Log.check message = .ok ()) :
    ∃ t, (giveNotice react address notice).on s = (.ok (), t) ∧
      Noticed receivers (told receivers address sender notice) s t := by
  cases notice with
  | log severity message =>
    obtain ⟨t, hlog, hlogged⟩ := on_log_of_passes react address (hpasses severity message rfl)
    exact ⟨t, hlog, noticed_of_logged hlogged hears⟩
  | change change =>
    have hheard := fun event hevent => (hears event hevent).recorded
    obtain ⟨t, hannounce, htold, hleaves⟩ := on_announce hreact
      (change.shows_announcement hsender) (hheard _ change.event_mem_events)
    -- None of them was replaced, so they all stay and all are reached.
    have hdeliveries := htold.deliveries_eq
    rw [HeardBy.audience_eq (hears _ change.event_mem_events)] at hdeliveries
    exact ⟨t, hannounce, htold.heap, htold.names, htold.level,
      fun event hevent => (hears event hevent).of_leavesReceivers hleaves, hdeliveries⟩

/-- **Notices tell every receiver of every change**, in order, if their messages do no harm. -/
theorem on_notices (hreact : react .record = pure ()) (notices : List Notice)
    (hears : HearsChanges receivers s) (hsender : s.datum (.store address) = .ok sender)
    (hpasses : ∀ severity message, .log severity message ∈ notices →
      Log.records s.level severity = true → Log.check message = .ok ()) :
    ∃ t, (notices.forM (giveNotice react address)).on s = (.ok (), t) ∧
      Noticed receivers (notices.flatMap (told receivers address sender)) s t := by
  induction notices generalizing s with
  | nil => exact ⟨s, rfl, rfl, rfl, rfl, hears, (List.append_nil _).symm⟩
  | cons notice rest ih =>
    obtain ⟨t, hnotice, hnoticed⟩ := on_giveNotice hreact hears hsender notice
      fun severity message heq => hpasses severity message (heq ▸ List.mem_cons_self)
    -- Heap and names are as before, so the sender looks the same to the rest.
    obtain ⟨u, hrest, hnoticed'⟩ := ih hnoticed.hears
      ((datum_congr hnoticed.heap hnoticed.names _).trans hsender) fun severity message hmem => by
        rw [hnoticed.level]
        exact hpasses severity message (List.mem_cons_of_mem _ hmem)
    exact ⟨u, (on_bind_ok hnotice).trans hrest, hnoticed.trans hnoticed'⟩

/-- **An operation comes to its outcome**, and every receiver gets to know of every change, if its
messages do no harm. -/
theorem on_operate_of_passes (hreact : react .record = pure ()) (operation : Store.Operation)
    (hears : HearsChanges receivers s)
    (hsender : (changed s address operation).datum (.store address) = .ok sender)
    (hpasses : ∀ severity message,
      .log severity message ∈ ((s.heap.store address).outcome operation).notices →
        Log.records s.level severity = true → Log.check message = .ok ()) :
    ∃ t, (operate react address operation).on s =
        (((s.heap.store address).outcome operation).result, t) ∧
      Noticed receivers (((s.heap.store address).outcome operation).notices.flatMap
        (told receivers address sender)) (changed s address operation) t := by
  rw [← level_changed address operation] at hpasses
  obtain ⟨t, hnotices, hnoticed⟩ := on_notices hreact _
    (hears.congr (subscriptions_changed address operation)) hsender hpasses
  refine ⟨t, ?_, hnoticed⟩
  rw [on_operate, conclude, on_bind_ok hnotices, on_ofExcept]

/-- A warning may end in a failure, but that is all. -/
theorem on_operate_of_warning (react : Reactor) (operation : Store.Operation)
    (hears : HearsChanges receivers s) {message : String}
    (halone : ((s.heap.store address).outcome operation).notices = [.log .warning message]) :
    ∃ result t, (operate react address operation).on s = (result, t) ∧
      Noticed receivers [] (changed s address operation) t := by
  obtain ⟨t, hlog, hlogged⟩ := on_giveNotice_log react address
    (s := changed s address operation) .warning message
  have hnoticed := noticed_of_logged hlogged (hears.congr (subscriptions_changed address operation))
  rw [on_operate, conclude, halone]
  -- Whether the warning is recorded makes no difference: its check passes or fails.
  generalize (if Log.records (changed s address operation).level .warning then
    Log.check message else .ok ()) = check at hlog
  cases check with
  | ok =>
    have hnotice : ([.log .warning message].forM (giveNotice react address)).on
        (changed s address operation) = (.ok (), t) := on_bind_ok hlog
    refine ⟨((s.heap.store address).outcome operation).result, t, ?_, hnoticed⟩
    rw [on_bind_ok hnotice, on_ofExcept]
  | error => exact ⟨_, t, on_bind_error (on_bind_error hlog), hnoticed⟩

/-- **Receivers get to know of every change**, also where the log records warnings, which may turn
out not to be renderable: then there is no change. -/
theorem on_operate_of_quiet (hreact : react .record = pure ()) (operation : Store.Operation)
    (hears : HearsChanges receivers s)
    (hsender : (changed s address operation).datum (.store address) = .ok sender)
    (hquiet : Log.records s.level .debug = false) :
    ∃ result t, (operate react address operation).on s = (result, t) ∧
      Noticed receivers (((s.heap.store address).outcome operation).notices.flatMap
        (told receivers address sender)) (changed s address operation) t := by
  by_cases hpasses : ∀ severity message,
      .log severity message ∈ ((s.heap.store address).outcome operation).notices →
        Log.records s.level severity = true → Log.check message = .ok ()
  · obtain ⟨t, hoperate, hnoticed⟩ := on_operate_of_passes hreact operation hears hsender hpasses
    exact ⟨_, t, hoperate, hnoticed⟩
  · push Not at hpasses
    obtain ⟨severity, message, hmem, hrecords, -⟩ := hpasses
    -- A message that does harm here is about a variable rejected, so it is all there is to tell.
    rcases (Store.step_outcome _ operation).severity_eq hmem with rfl | ⟨-, halone⟩
    · rw [hquiet] at hrecords
      cases hrecords
    · rw [halone]
      exact on_operate_of_warning react operation hears halone

end Run

end BoundedVars
