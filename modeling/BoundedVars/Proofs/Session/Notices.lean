import BoundedVars.Proofs.Session.Recording
import BoundedVars.Proofs.Store.Messages

/-!
# Giving notice

What the notices of an operation come to in a session: a message is recorded or not and may turn out
not to be renderable (`on_log`); a change is announced by an event that every receiver can cope with
(`shows_announcement`), and receivers that only take note all get to know of it (`on_announce`).
-/

namespace BoundedVars

/-- Something that a receiver got to know. -/
def TraceEntry.isDelivery : TraceEntry → Bool
  | .delivered .. => true
  | _ => false

/-- The deliveries in the trace of a session. -/
def Session.deliveries (s : Session) : List TraceEntry :=
  s.trace.filter (·.isDelivery)

theorem Session.deliveries_noted (s : Session) (entry : TraceEntry) :
    Session.deliveries { s with trace := s.trace ++ [entry] } =
      s.deliveries ++ [entry].filter (·.isDelivery) :=
  List.filter_append ..

theorem Session.deliveries_noted_other (s : Session) {entry : TraceEntry}
    (h : entry.isDelivery = false) :
    Session.deliveries { s with trace := s.trace ++ [entry] } = s.deliveries := by
  rw [deliveries_noted, List.filter_singleton, h]
  exact List.append_nil _

/-- A session in which nothing has changed but for messages in the trace. -/
structure Session.Logged (s t : Session) : Prop where
  heap : t.heap = s.heap
  names : t.names = s.names
  subscriptions : t.subscriptions = s.subscriptions
  level : t.level = s.level
  deliveries_eq : t.deliveries = s.deliveries

/-- The event by which the store at an address announces a change. -/
def Change.announcement (change : Change) (address : Nat) : Event :=
  ⟨change.event, .store address, change.payload⟩

/-- What is seen of a text or of nothing. -/
def Value.plainDatum : Value → Datum
  | .text s => .text s
  | _ => .none

/-- The fields of the event that announces a change, as receivers see them. -/
def Change.shownFields (change : Change) : List (String × FieldDatum) :=
  ((Event.nameField, FieldDatum.datum (.text change.event))
    :: change.payload.map (fun field => (field.1, FieldDatum.datum field.2.plainDatum))
    ++ [(Event.timeField, FieldDatum.now)]).mergeSort fun a b => a.1 ≤ b.1

/-- What was told to receivers was delivered to them. -/
theorem Session.Told.deliveries_eq {s t : Session} {event : Event} {sender : Datum}
    {fields : List (String × FieldDatum)} {receivers : List String}
    (h : Session.Told (receivers.map (event.entry sender fields)) s t) :
    t.deliveries = s.deliveries ++ receivers.map (event.entry sender fields) := by
  have hall : (receivers.map (event.entry sender fields)).filter (·.isDelivery) =
      receivers.map (event.entry sender fields) := by
    rw [List.filter_eq_self]
    intro entry hentry
    obtain ⟨receiver, -, rfl⟩ := List.mem_map.mp hentry
    rfl
  rw [deliveries, h.trace, List.filter_append, hall, deliveries]

/-- Whatever a store holds, only its name is seen, or else its kind. -/
theorem Session.datum_store (s : Session) (address : Nat) :
    s.datum (.store address) =
      match s.nameOf (.store address) with
      | some name => .ok (.named name)
      | none => .ok (.object (Value.kind (.store address))) := rfl

/-- A store is seen, by its name or as an object. -/
theorem Session.exists_datum_store (s : Session) (address : Nat) :
    ∃ sender, s.datum (.store address) = .ok sender := by
  rw [datum_store]
  cases s.nameOf (.store address) with
  | some name => exact ⟨.named name, rfl⟩
  | none => exact ⟨.object _, rfl⟩

namespace Change

variable {s : Session}

theorem shownFields_announcement (change : Change) (address : Nat) :
    (change.announcement address).shownFields s = .ok change.shownFields := by
  cases change with
  | set place key value => cases place <;> rfl
  | removed place key => cases place <;> rfl
  | _ => rfl

theorem acknowledgement_announcement (change : Change) (address : Nat) (h : Heap)
    (receiver : String) :
    ∃ said, (change.announcement address).acknowledgement h receiver = .ok said := by
  cases change <;> exact ⟨_, rfl⟩

/-- No change uses the name of the field that the event itself adds. -/
theorem unnamed_announcement (change : Change) (address : Nat) :
    (change.announcement address).fields.any (·.1 == Event.nameField) = false := by
  cases change <;> rfl

/-- No receiver has any trouble with the announcement of a change. -/
theorem shows_announcement (change : Change) {address : Nat} {sender : Datum}
    (hsender : s.datum (.store address) = .ok sender) :
    (change.announcement address).Shows s sender change.shownFields where
  sender_eq := hsender
  fields_eq := shownFields_announcement change address
  key_ok := acknowledgement_announcement change address s.heap
  unnamed := unnamed_announcement change address

end Change

namespace Run

open Session

variable {react : Reactor} {s : Session}

theorem on_log (severity : Severity) (message : String) (cause : Option Category) :
    (log severity message cause).on s =
      if Log.records s.level severity then
        (Log.check message, { s with trace := s.trace ++ [.logged severity message cause] })
      else (.ok (), s) := by
  unfold log
  rw [on_bind_ok on_get]
  split_ifs
  · rw [on_bind_ok (on_note _), on_ofExcept]
  · rfl

theorem logged_log (severity : Severity) (message : String) (cause : Option Category)
    (s : Session) : Logged s ((log severity message cause).on s).2 := by
  rw [on_log]
  split_ifs
  · exact ⟨rfl, rfl, rfl, rfl, s.deliveries_noted_other rfl⟩
  · exact ⟨rfl, rfl, rfl, rfl, rfl⟩

/-- A message may end in a failure, but does nothing else. -/
theorem on_giveNotice_log (react : Reactor) (address : Nat) (severity : Severity)
    (message : String) :
    ∃ t, (giveNotice react address (.log severity message)).on s =
        (if Log.records s.level severity then Log.check message else .ok (), t) ∧ Logged s t := by
  refine ⟨_, ?_, logged_log severity message none s⟩
  rw [giveNotice, on_log]
  split_ifs <;> rfl

/-- A message that is not recorded or can be rendered does nothing. -/
theorem on_log_of_passes (react : Reactor) (address : Nat) {severity : Severity} {message : String}
    (h : Log.records s.level severity = true → Log.check message = .ok ()) :
    ∃ t, (giveNotice react address (.log severity message)).on s = (.ok (), t) ∧ Logged s t := by
  obtain ⟨t, hlog, hlogged⟩ := on_giveNotice_log react address (s := s) severity message
  refine ⟨t, hlog.trans ?_, hlogged⟩
  split_ifs with hrecords
  · rw [h hrecords]
  · rfl

/-- A message that is recorded and cannot be rendered is a failure. -/
theorem on_log_of_fails (react : Reactor) (address : Nat) {severity : Severity} {message : String}
    (hrecords : Log.records s.level severity = true) (hcheck : Log.check message ≠ .ok ()) :
    ∃ fault t, (giveNotice react address (.log severity message)).on s =
      (.error (.markup fault), t) := by
  obtain ⟨fault, hfault⟩ := Log.check_eq_error hcheck
  obtain ⟨t, hlog, -⟩ := on_giveNotice_log react address (s := s) severity message
  exact ⟨fault, t, by rw [hlog, if_pos hrecords, hfault]⟩

/-- Announcing a change to receivers that only take note. -/
theorem on_announce (hreact : react .record = pure ()) {change : Change} {address : Nat}
    {sender : Datum} (hshows : (change.announcement address).Shows s sender change.shownFields)
    (hrecorded : s.Recorded change.event) :
    ∃ t, (giveNotice react address (.change change)).on s = (.ok (), t) ∧
      Told ((audience s (change.announcement address)).map
        ((change.announcement address).entry sender change.shownFields)) s t ∧
      LeavesReceivers s t := by
  obtain ⟨said, t, hemit, htold, hleaves⟩ := on_emit hreact hshows hrecorded
  exact ⟨t, on_bind_ok hemit, htold, hleaves⟩

/-- The session in which an operation has changed its store but not yet given notice. -/
def changed (s : Session) (address : Nat) (operation : Store.Operation) : Session :=
  { s with heap := s.heap.setStore address ((s.heap.store address).outcome operation).store }

@[simp] theorem level_changed (address : Nat) (operation : Store.Operation) :
    (changed s address operation).level = s.level := rfl

@[simp] theorem subscriptions_changed (address : Nat) (operation : Store.Operation) :
    (changed s address operation).subscriptions = s.subscriptions := rfl

/-- The notices of an outcome, and then its result. -/
def conclude (react : Reactor) (address : Nat) (outcome : Outcome) : Run Unit := do
  outcome.notices.forM (giveNotice react address)
  ofExcept outcome.result

theorem on_operate (react : Reactor) (address : Nat) (operation : Store.Operation) :
    (operate react address operation).on s =
      (conclude react address ((s.heap.store address).outcome operation)).on
        (changed s address operation) :=
  rfl

end Run

end BoundedVars
