import BoundedVars.Proofs.Session.Running
import BoundedVars.Proofs.Table
import Mathlib.Tactic.SplitIfs

/-!
# Receivers that only take note

An event whose receivers only take note is delivered to all of them, nothing fails on the way, and
all that comes of it is one entry in the trace for each receiver (`on_emit`).  The receivers stay
connected, those apart that were replaced while the event was being delivered; only how often they
will still react has changed.
-/

namespace BoundedVars

/-- A subscription but for how often the receiver will still react. -/
def Subscription.fixed (subscription : Subscription) : Subscription :=
  { subscription with remaining := 0 }

namespace Session

variable {s t u : Session} {entries more : List TraceEntry}

/-- The subscriptions to an event. -/
def connected (s : Session) (event : String) : List Subscription :=
  (s.subscriptions.get? event).getD []

/-- All receivers connected to an event only take note. -/
def Recorded (s : Session) (event : String) : Prop :=
  ∀ subscription ∈ s.connected event, subscription.reaction = .record

/-- A session that has come about by adding entries to the trace; what values look like in it has
not changed. -/
structure Told (entries : List TraceEntry) (s t : Session) : Prop where
  heap : t.heap = s.heap
  names : t.names = s.names
  level : t.level = s.level
  trace : t.trace = s.trace ++ entries

/-- The same receivers are connected. -/
def SameReceivers (s t : Session) : Prop :=
  ∀ event, (t.connected event).map Subscription.fixed = (s.connected event).map Subscription.fixed

theorem Told.refl (s : Session) : Told [] s s :=
  ⟨rfl, rfl, rfl, (List.append_nil _).symm⟩

theorem Told.trans (hst : Told entries s t) (htu : Told more t u) : Told (entries ++ more) s u where
  heap := htu.heap.trans hst.heap
  names := htu.names.trans hst.names
  level := htu.level.trans hst.level
  trace := by rw [htu.trace, hst.trace, List.append_assoc]

theorem SameReceivers.trans (hst : SameReceivers s t) (htu : SameReceivers t u) :
    SameReceivers s u :=
  fun event => (htu event).trans (hst event)

/-- The name of the receiver of a subscription, found by its serial. -/
def receiverOf (subscriptions : List Subscription) (serial : Nat) : Option String :=
  (subscriptions.find? (·.serial == serial)).map (·.receiver)

theorem receiverOf_map_fixed (subscriptions : List Subscription) (serial : Nat) :
    receiverOf (subscriptions.map Subscription.fixed) serial = receiverOf subscriptions serial := by
  rw [receiverOf, List.find?_map, Option.map_map, receiverOf]
  rfl

theorem SameReceivers.receiverOf_eq (h : SameReceivers s t) (event : String) (serial : Nat) :
    receiverOf (t.connected event) serial = receiverOf (s.connected event) serial := by
  rw [← receiverOf_map_fixed, h event, receiverOf_map_fixed]

theorem recorded_of_map_fixed_subset {event : String}
    (h : (t.connected event).map Subscription.fixed ⊆ (s.connected event).map Subscription.fixed)
    (hs : s.Recorded event) : t.Recorded event := by
  intro subscription hmem
  obtain ⟨other, hother, heq⟩ := List.mem_map.mp (h (List.mem_map_of_mem hmem))
  have hreaction : other.fixed.reaction = subscription.fixed.reaction :=
    congrArg Subscription.reaction heq
  exact hreaction.symm.trans (hs other hother)

theorem recorded_congr {event : String} (h : t.subscriptions = s.subscriptions) :
    t.Recorded event ↔ s.Recorded event := by
  rw [Recorded, Recorded, connected, connected, h]

theorem SameReceivers.recorded {event : String} (h : SameReceivers s t) (hs : s.Recorded event) :
    t.Recorded event :=
  recorded_of_map_fixed_subset (h event ▸ List.Subset.refl _) hs

/-- What values look like depends on the heap and the names only. -/
theorem datum_congr (hheap : t.heap = s.heap) (hnames : t.names = s.names) (v : Value) :
    t.datum v = s.datum v := by
  have hname : t.nameOf = s.nameOf := by
    funext v
    rw [nameOf, nameOf, hnames]
  rw [datum, datum, hheap, hname]

end Session

/-- What is seen of an event: who sends it and its fields.  No receiver has any trouble with it. -/
structure Event.Shows (event : Event) (s : Session) (sender : Datum)
    (fields : List (String × FieldDatum)) : Prop where
  sender_eq : s.datum event.sender = .ok sender
  fields_eq : event.shownFields s = .ok fields
  key_ok : ∀ receiver, ∃ said, event.acknowledgement s.heap receiver = .ok said
  unnamed : event.fields.any (·.1 == nameField) = false

namespace Event

variable {event : Event} {s t : Session} {sender : Datum} {fields : List (String × FieldDatum)}

theorem Shows.congr (h : event.Shows s sender fields) (hheap : t.heap = s.heap)
    (hnames : t.names = s.names) : event.Shows t sender fields where
  sender_eq := by rw [Session.datum_congr hheap hnames, h.sender_eq]
  fields_eq := by
    have hdatum : t.datum = s.datum := funext (Session.datum_congr hheap hnames)
    rw [← h.fields_eq, shownFields, shownFields, hdatum]
  key_ok := by
    rw [hheap]
    exact h.key_ok
  unnamed := h.unnamed

/-- The entry in the trace for a delivery of the event. -/
def entry (event : Event) (sender : Datum) (fields : List (String × FieldDatum))
    (receiver : String) : TraceEntry :=
  .delivered receiver event.sender.identity sender fields

end Event

namespace Run

open Session

variable {react : Reactor} {event : Event} {s : Session} {sender : Datum}
  {fields : List (String × FieldDatum)}

@[simp] theorem on_datum (v : Value) : (datum v).on s = (s.datum v, s) := by
  rw [datum, on_bind_ok on_get, on_ofExcept]

@[simp] theorem on_subscribers (event : String) :
    (subscribers event).on s = (.ok (s.connected event), s) := rfl

/-- Counting a reaction changes nothing but the count. -/
theorem on_countReaction (event : String) (serial : Nat) :
    ∃ t, (countReaction event serial).on s = (.ok (), t) ∧ Told [] s t ∧ SameReceivers s t := by
  refine ⟨_, rfl, ⟨rfl, rfl, rfl, (List.append_nil _).symm⟩, fun other => ?_⟩
  by_cases h : other = event
  · subst h
    simp only [connected, Table.get?_insert_self, Option.getD_some, List.map_map]
    apply List.map_congr_left
    intro subscription _
    simp only [Function.comp_apply]
    split_ifs <;> rfl
  · simp only [connected, Table.get?_insert_of_ne _ _ h]

/-- One delivery to a receiver that only takes note. -/
theorem on_deliver (hreact : react .record = pure ()) (hshows : event.Shows s sender fields)
    {subscription : Subscription} (hrecord : subscription.reaction = .record) :
    ∃ said t, (deliver react event subscription).on s = (.ok said, t) ∧
      Told [event.entry sender fields subscription.receiver] s t ∧ SameReceivers s t := by
  have hsender : (datum event.sender).on s = (.ok sender, s) := by
    rw [on_datum, hshows.sender_eq]
  have hfields : (ofExcept (event.shownFields s)).on s = (.ok fields, s) := by
    rw [on_ofExcept, hshows.fields_eq]
  unfold deliver
  rw [on_bind_ok hsender, on_bind_ok on_get, on_bind_ok hfields, on_bind_ok (on_note _)]
  split_ifs
  · -- Its active deliveries are used up, but the note has been taken.
    exact ⟨"done", _, rfl, ⟨rfl, rfl, rfl, rfl⟩, fun _ => rfl⟩
  · obtain ⟨t, hcount, htold, hsame⟩ := on_countReaction (s := { s with
      trace := s.trace ++ [event.entry sender fields subscription.receiver] })
      event.name subscription.serial
    -- What it acknowledges with is read from the event and cannot fail.
    obtain ⟨said, hsaid⟩ := (hshows.congr htold.heap htold.names).key_ok subscription.receiver
    have hread : (read fun h => event.acknowledgement h subscription.receiver).on t =
        (.ok said, t) := by
      rw [on_read, hsaid]
    rw [hrecord, hreact]
    refine ⟨said, t, ?_, ⟨htold.heap, htold.names, htold.level, ?_⟩, hsame⟩
    · exact (on_bind_ok hcount).trans ((on_bind_ok (on_pure ())).trans hread)
    · rw [htold.trace, List.append_nil]

/-- The names of the receivers that a delivery to these subscriptions reaches, in order. -/
def reached (s : Session) (event : String) (subscriptions : List Subscription) : List String :=
  subscriptions.filterMap fun subscription => receiverOf (s.connected event) subscription.serial

theorem reached_congr {t : Session} (h : SameReceivers s t) (event : String)
    (subscriptions : List Subscription) :
    reached t event subscriptions = reached s event subscriptions := by
  unfold reached
  congr 1
  funext subscription
  exact h.receiverOf_eq event subscription.serial

theorem on_deliverAll (hreact : react .record = pure ()) (hshows : event.Shows s sender fields)
    (hrecorded : s.Recorded event.name) (subscriptions : List Subscription) :
    ∃ said t, (deliverAll react event subscriptions).on s = (.ok said, t) ∧
      Told ((reached s event.name subscriptions).map (event.entry sender fields)) s t ∧
      SameReceivers s t := by
  -- Receivers are looked up by serials, which deliveries do not change; the rest of the list
  -- therefore reaches the same receivers from the later session.
  induction subscriptions generalizing s with
  | nil => exact ⟨[], s, rfl, Told.refl s, fun _ => rfl⟩
  | cons subscription rest ih =>
    unfold deliverAll
    rw [on_bind_ok (on_subscribers event.name), reached, List.filterMap_cons, receiverOf]
    cases hfind : (s.connected event.name).find? (·.serial == subscription.serial) with
    | none => exact ih hshows hrecorded
    | some current =>
      have hrecord := hrecorded current (List.mem_of_find?_eq_some hfind)
      -- Holding a subscription is no more than a remark; what counts is the delivery.
      obtain ⟨said, t, hdeliver, htold, hsame⟩ := on_deliver hreact
        (s := { s with held := current.serial :: s.held }) ⟨hshows.sender_eq, hshows.fields_eq,
          hshows.key_ok, hshows.unnamed⟩ hrecord
      have hsame' : SameReceivers s t := hsame
      obtain ⟨others, u, hrest, htold', hsame''⟩ :=
        ih (hshows.congr htold.heap htold.names) (hsame'.recorded hrecorded)
      refine ⟨_, u, (on_bind_ok rfl).trans ((on_bind_ok hdeliver).trans ((on_bind_ok hrest).trans
        (on_pure _))), ?_, hsame'.trans hsame''⟩
      rw [reached_congr hsame'] at htold'
      exact ⟨htold'.heap.trans htold.heap, htold'.names.trans htold.names,
        htold'.level.trans htold.level, by rw [htold'.trace, htold.trace]; simp [reached]⟩

/-- The receivers that get to know of an event, in order. -/
def audience (s : Session) (event : Event) : List String :=
  reached s event.name ((s.connected event.name).filter (·.listensTo event.sender))

/-- The subscriptions that stay when the delivery of an event has ended. -/
def stays (held : List Nat) (subscription : Subscription) : Bool :=
  !subscription.isReplaced || held.contains subscription.serial

/-- The receivers are those connected before, but for replaced ones that nothing holds. -/
def LeavesReceivers (s t : Session) : Prop :=
  ∀ event, (t.connected event).map Subscription.fixed =
    ((s.connected event).map Subscription.fixed).filter (stays s.held)

theorem LeavesReceivers.recorded {t : Session} {event : String} (h : LeavesReceivers s t)
    (hs : s.Recorded event) : t.Recorded event :=
  recorded_of_map_fixed_subset (h event ▸ List.filter_subset_self _) hs

theorem connected_release (held : List Nat) (t : Session) (event : String) :
    (((release held).on t).2.connected event) = (t.connected event).filter (stays held) := by
  simp only [release, on_modify, connected, Table.get?_mapValues]
  cases t.subscriptions.get? event <;> rfl

theorem leavesReceivers_release {t : Session} (h : SameReceivers s t) :
    LeavesReceivers s ((release s.held).on t).2 := by
  intro event
  rw [connected_release, ← h event, List.filter_map]
  rfl

/-- **An event whose receivers only take note** reaches all of them, and nothing fails. -/
theorem on_emit (hreact : react .record = pure ()) (hshows : event.Shows s sender fields)
    (hrecorded : s.Recorded event.name) :
    ∃ said t, (emit react event).on s = (.ok said, t) ∧
      Told ((audience s event).map (event.entry sender fields)) s t ∧ LeavesReceivers s t := by
  obtain ⟨said, t, hdeliver, htold, hsame⟩ := on_deliverAll hreact hshows hrecorded
    ((s.connected event.name).filter (·.listensTo event.sender))
  have hattempt : (attempt (deliverAll react event
      ((s.connected event.name).filter (·.listensTo event.sender)))).on s =
        (.ok (.ok said), t) := by
    rw [on_attempt, hdeliver]
  -- No field of the event collides with the name of the event, so it is sent.
  have hsend : (send react event).on s = (.ok said, ((release s.held).on t).2) := by
    unfold send
    rw [if_neg (by rw [hshows.unnamed]; exact Bool.false_ne_true), on_bind_ok on_get,
      on_bind_ok (on_subscribers event.name), on_bind_ok hattempt]
    rfl
  refine ⟨said, ((release s.held).on t).2, ?_, ⟨htold.heap, htold.names, htold.level, htold.trace⟩,
    leavesReceivers_release hsame⟩
  rw [emit, on_tryCatch, hsend]

end Run

end BoundedVars
