import BoundedVars.Proofs.Session.Development
import BoundedVars.Proofs.Session.Sequential
import BoundedVars.Proofs.Store.Effect

/-!
# Receivers in turn

When a change is announced, those who listen to the store are called one after another, in whatever
order they are connected, and each of them at most once.  A receiver may do anything when its turn
comes: fail, or carry out steps that announce changes of their own.  One that is no longer connected
when its turn comes is passed over.

A receiver that fails ends the announcement: those who would have come after it are not called.  All
others are, and then the next change is announced (`Session.GoesRound`).  The call of the store
returns normally whatever the receivers do, as long as it can be said how they have failed
(`calls_receivers_in_turn`).  So a receiver that fails can cost others the event
(`failing_receiver_costs_event`).
-/

namespace BoundedVars

namespace Session

/-- What was delivered stays delivered. -/
def Remembers (s t : Session) : Prop :=
  s.deliveries <+: t.deliveries

theorem Remembers.of_deliveries_eq {s t : Session} (h : t.deliveries = s.deliveries) :
    Remembers s t :=
  ⟨[], (List.append_nil _).trans h.symm⟩

instance : StoreCourse Rule.anything Remembers where
  trans := List.IsPrefix.trans
  of_kept h := .of_deliveries_eq h.deliveries_eq
  guarded h := h (obeys_of_forall (fun _ => trivial) _)
  noted s entry := ⟨_, (deliveries_noted s entry).symm⟩
  levelled _ _ := .of_deliveries_eq rfl
  connected _ _ htrace _ := .of_deliveries_eq (by rw [deliveries, deliveries, htrace])
  replaced _ _ _ _ := .of_deliveries_eq rfl
  operate _ _ _ := .of_deliveries_eq rfl
  create _ _ := .of_deliveries_eq rfl

/-- The receivers that listen to the sender of an event, in the order of their connection. -/
def listeners (s : Session) (event : Event) : List Subscription :=
  (s.connected event.name).filter (·.listensTo event.sender)

/-- What receivers see of a store: the name under which it is saved, or else what it is. -/
def storeDatum (s : Session) (address : Nat) : Datum :=
  match s.nameOf (.store address) with
  | some name => .named name
  | none => .object (Value.kind (.store address))

theorem datum_eq_storeDatum (s : Session) (address : Nat) :
    s.datum (.store address) = .ok (s.storeDatum address) := by
  rw [datum_store, storeDatum]
  cases s.nameOf (.store address) <;> rfl

/-- The turn of a receiver. -/
structure Turn where
  subscription : Subscription
  /-- The session when its turn comes. -/
  moment : Session

namespace Turn

variable (react : Reactor) (address : Nat) (change : Change) (turn : Turn)

/-- What the receiver is told. -/
def entry : TraceEntry :=
  (change.announcement address).entry (turn.moment.storeDatum address) change.shownFields
    turn.subscription.receiver

/-- The session when the receiver has been told and not yet reacted. -/
def told : Session :=
  { turn.moment with
    held := turn.subscription.serial :: turn.moment.held
    trace := turn.moment.trace ++ [turn.entry address change] }

/-- What the receiver does, unless it has reacted as often as it should. -/
def reacting : Run Unit :=
  if turn.subscription.remaining = 0 then pure () else do
    Run.countReaction change.event turn.subscription.serial
    react turn.subscription.reaction

/-- The session when the turn is over. -/
def after : Session :=
  ((turn.reacting react change).on (turn.told address change)).2

/-- What comes of it: whether the receiver fails, and how. -/
def result : Except Failure Unit :=
  ((turn.reacting react change).on (turn.told address change)).1

/-- All that is delivered in the turn, to this receiver and to others because of what it does. -/
def heard : List TraceEntry :=
  (turn.after react address change).deliveries.drop turn.moment.deliveries.length

end Turn

/-- Those to be called, each with its turn unless it was passed over. -/
abbrev Roll := List (Subscription × Option Turn)

/-- The turns that came about. -/
def Roll.turns (roll : Roll) : List Turn :=
  roll.filterMap (·.2)

/-- Receivers are called in turn.  One whose subscription is gone is passed over, each of the others
finds the session as the one before has left it. -/
inductive CallsRoll (react : Reactor) (address : Nat) (change : Change) :
    Session → Roll → Session → Prop where
  | nil (s : Session) : CallsRoll react address change s [] s
  | gone {s t : Session} {listener : Subscription} {rest : Roll}
      (hgone : ∀ subscription ∈ s.connected change.event, subscription.serial ≠ listener.serial)
      (hrest : CallsRoll react address change s rest t) :
      CallsRoll react address change s ((listener, none) :: rest) t
  | told {t : Session} {listener : Subscription} {turn : Turn} {rest : Roll}
      (hmem : turn.subscription ∈ turn.moment.connected change.event)
      (hserial : turn.subscription.serial = listener.serial)
      (hrest : CallsRoll react address change (turn.after react address change) rest t) :
      CallsRoll react address change turn.moment ((listener, some turn) :: rest) t

/-- Nobody failed and nobody was missed, or the last one called failed, and only that one. -/
inductive Ended (react : Reactor) (address : Nat) (change : Change) :
    Roll → List Subscription → Except Failure Unit → Prop where
  | all {roll : Roll} (hfine : ∀ turn ∈ roll.turns, turn.result react address change = .ok ()) :
      Ended react address change roll [] (.ok ())
  | cut {earlier : Roll} {listener : Subscription} {last : Turn} {failure : Failure}
      (missed : List Subscription)
      (hfine : ∀ turn ∈ earlier.turns, turn.result react address change = .ok ())
      (hfails : last.result react address change = .error failure) :
      Ended react address change (earlier ++ [(listener, some last)]) missed (.error failure)

/-- Receivers who listen are called in turn until one fails: those called or passed over come first,
and then those who were missed.  What comes of it is up to the last one called. -/
structure Called (react : Reactor) (address : Nat) (change : Change) (s : Session)
    (listeners : List Subscription) (roll : Roll) (missed : List Subscription)
    (result : Except Failure Unit) (t : Session) : Prop where
  listeners_eq : listeners = roll.map (·.1) ++ missed
  calls : CallsRoll react address change s roll t
  ended : Ended react address change roll missed result

/-- A session in which nothing has changed but who is connected, and messages in the trace. -/
structure LetGo (s t : Session) : Prop where
  heap : t.heap = s.heap
  names : t.names = s.names
  level : t.level = s.level
  deliveries_eq : t.deliveries = s.deliveries

theorem Logged.letGo {s t : Session} (h : Logged s t) : LetGo s t :=
  ⟨h.heap, h.names, h.level, h.deliveries_eq⟩

theorem LetGo.trans {s t u : Session} (hst : LetGo s t) (htu : LetGo t u) : LetGo s u where
  heap := htu.heap.trans hst.heap
  names := htu.names.trans hst.names
  level := htu.level.trans hst.level
  deliveries_eq := htu.deliveries_eq.trans hst.deliveries_eq

/-- A change was announced to those who listen to the store, up to the first that failed. -/
structure Announced (react : Reactor) (address : Nat) (change : Change) (roll : Roll)
    (missed : List Subscription) (result : Except Failure Unit) (s t : Session) : Prop where
  called : ∃ u, LetGo u t ∧
    Called react address change s (s.listeners (change.announcement address)) roll missed result u
  /-- Each turn began with telling the receiver. -/
  told : ∀ turn ∈ roll.turns, ∃ others,
    turn.heard react address change = turn.entry address change :: others
  /-- Nothing else was delivered. -/
  deliveries_eq : t.deliveries = s.deliveries ++ roll.turns.flatMap (·.heard react address change)

/-- Changes were announced, one after another.  It does not matter whether a receiver failed, unless
its failure has no wording: then no more changes are announced, and what comes of it is the failure
to find one. -/
inductive GoesRound (react : Reactor) (address : Nat) :
    Session → List Change → Except Failure Unit → Session → Prop where
  | nil (s : Session) : GoesRound react address s [] (.ok ()) s
  | cons {s t u : Session} {change : Change} {rest : List Change} {roll : Roll}
      {missed : List Subscription} {result ended : Except Failure Unit}
      (hannounced : Announced react address change roll missed result s t)
      (hworded : ∀ failure, result = .error failure →
        ∃ wording, t.heap.message failure = .ok wording)
      (hrest : GoesRound react address t rest ended u) :
      GoesRound react address s (change :: rest) ended u
  | stuck {s t : Session} {change : Change} {roll : Roll} {missed : List Subscription}
      {failure unshown : Failure}
      (hannounced : Announced react address change roll missed (.error failure) s t)
      (hunshown : t.heap.message failure = .error unshown) (rest : List Change) :
      GoesRound react address s (change :: rest) (.error unshown) t

section Rolls

variable {react : Reactor} {address : Nat} {change : Change} {s t : Session} {roll : Roll}
  {missed : List Subscription} {result : Except Failure Unit}

theorem Ended.cons (h : Ended react address change roll missed result) (listener : Subscription)
    (turn? : Option Turn)
    (hfine : ∀ turn, turn? = some turn → turn.result react address change = .ok ()) :
    Ended react address change ((listener, turn?) :: roll) missed result := by
  have hcons {earlier : Roll}
      (h : ∀ turn ∈ earlier.turns, turn.result react address change = .ok ()) :
      ∀ turn ∈ Roll.turns ((listener, turn?) :: earlier),
        turn.result react address change = .ok () := by
    intro turn hmem
    obtain ⟨called, hcalled, hturn⟩ := List.mem_filterMap.mp hmem
    rcases List.mem_cons.mp hcalled with rfl | hcalled
    · exact hfine turn hturn
    · exact h turn (List.mem_filterMap.mpr ⟨called, hcalled, hturn⟩)
  cases h with
  | all hothers => exact .all (hcons hothers)
  | cut missed hothers hfails => exact .cut missed (hcons hothers) hfails

namespace Called

variable {listener : Subscription} {rest : List Subscription} {turn : Turn}

theorem nil (react : Reactor) (address : Nat) (change : Change) (s : Session) :
    Called react address change s [] [] [] (.ok ()) s :=
  ⟨rfl, .nil s, .all nofun⟩

theorem gone (hgone : ∀ subscription ∈ s.connected change.event,
    subscription.serial ≠ listener.serial)
    (h : Called react address change s rest roll missed result t) :
    Called react address change s (listener :: rest) ((listener, none) :: roll) missed result
      t where
  listeners_eq := congrArg (listener :: ·) h.listeners_eq
  calls := .gone hgone h.calls
  ended := h.ended.cons listener none nofun

theorem told (hmem : turn.subscription ∈ turn.moment.connected change.event)
    (hserial : turn.subscription.serial = listener.serial)
    (hfine : turn.result react address change = .ok ())
    (h : Called react address change (turn.after react address change) rest roll missed result t) :
    Called react address change turn.moment (listener :: rest) ((listener, some turn) :: roll)
      missed result t where
  listeners_eq := congrArg (listener :: ·) h.listeners_eq
  calls := .told hmem hserial h.calls
  ended := h.ended.cons listener (some turn) fun _ heq => Option.some.inj heq ▸ hfine

/-- Who fails is the last one called. -/
theorem failed (hmem : turn.subscription ∈ turn.moment.connected change.event)
    (hserial : turn.subscription.serial = listener.serial) {failure : Failure}
    (hfails : turn.result react address change = .error failure) (rest : List Subscription) :
    Called react address change turn.moment (listener :: rest) [(listener, some turn)] rest
      (.error failure) (turn.after react address change) where
  listeners_eq := rfl
  calls := .told hmem hserial (.nil _)
  ended := by
    rw [← List.nil_append [(listener, some turn)]]
    exact .cut rest nofun hfails

end Called

variable (hreact : ∀ reaction, Run.Leads Remembers (react reaction))
include hreact

/-- A turn begins with telling the receiver, and what was delivered before stays delivered. -/
theorem Turn.deliveries_after (turn : Turn) (address : Nat) (change : Change) :
    ∃ others, (turn.after react address change).deliveries =
      turn.moment.deliveries ++ turn.entry address change :: others := by
  have hreacting : Run.Leads Remembers (turn.reacting react change) := by
    unfold Turn.reacting
    split_ifs
    · exact Run.leads_pure ()
    · exact Run.leads_bind (Run.leads_countReaction _ _) fun _ => hreact _
  obtain ⟨others, hothers⟩ := hreacting (turn.told address change)
  refine ⟨others, hothers.symm.trans ?_⟩
  have htold : (turn.told address change).deliveries =
      turn.moment.deliveries ++ [turn.entry address change] := deliveries_noted turn.moment _
  rw [htold, List.append_assoc, List.singleton_append]

theorem Turn.heard_eq (turn : Turn) (address : Nat) (change : Change) :
    ∃ others, turn.heard react address change = turn.entry address change :: others := by
  obtain ⟨others, hothers⟩ := turn.deliveries_after hreact address change
  exact ⟨others, by rw [heard, hothers, List.drop_left]⟩

/-- What is delivered in all is what is delivered in the turns. -/
theorem CallsRoll.deliveries_eq (h : CallsRoll react address change s roll t) :
    t.deliveries = s.deliveries ++ roll.turns.flatMap (·.heard react address change) := by
  induction h with
  | nil s => exact (List.append_nil _).symm
  | gone hgone hrest ih => exact ih
  | @told t listener turn rest hmem hserial hrest ih =>
    -- What a turn delivers comes after everything delivered before it.
    obtain ⟨others, hothers⟩ := turn.deliveries_after hreact address change
    have hheard : (turn.after react address change).deliveries =
        turn.moment.deliveries ++ turn.heard react address change := by
      rw [Turn.heard, hothers, List.drop_left]
    rw [ih, hheard, List.append_assoc]
    rfl

end Rolls

end Session

namespace Run

open Session

variable {react : Reactor} {address : Nat} {change : Change} {s : Session}

/-- Something is read off the heap once everything else is done. -/
theorem on_bind_read {α : Type} {run : Run Unit} {f : Heap → Except Failure α} {a : α}
    (h : f (run.on s).2.heap = .ok a) :
    (do run; read f).on s = ((run.on s).1.map fun _ => a, (run.on s).2) := by
  rw [on_bind]
  rcases hrun : run.on s with ⟨failure | _, t⟩
  · rfl
  · rw [hrun] at h
    dsimp only
    rw [on_read, h]
    rfl

/-- Delivering an event to a receiver is its turn. -/
theorem on_deliver_turn (react : Reactor) (address : Nat) (change : Change) (turn : Turn) :
    ∃ said, (deliver react (change.announcement address) turn.subscription).on
        { turn.moment with held := turn.subscription.serial :: turn.moment.held } =
      ((turn.result react address change).map fun _ => said, turn.after react address change) := by
  generalize hs : { turn.moment with held := turn.subscription.serial :: turn.moment.held } = s
  have hsender : (datum (change.announcement address).sender).on s =
      (.ok (turn.moment.storeDatum address), s) := by
    subst hs
    exact (on_datum _).trans (congrArg (·, _) (datum_eq_storeDatum _ address))
  have hfields : (ofExcept ((change.announcement address).shownFields s)).on s =
      (.ok change.shownFields, s) := by
    rw [change.shownFields_announcement, on_ofExcept]
  have hnote : (note (turn.entry address change)).on s = (.ok (), turn.told address change) :=
    hs ▸ rfl
  unfold deliver
  rw [on_bind_ok hsender, on_bind_ok on_get, on_bind_ok hfields]
  refine Exists.imp (fun said => (on_bind_ok hnote).trans) ?_
  by_cases hremaining : turn.subscription.remaining = 0
  · refine ⟨"done", ?_⟩
    rw [Turn.after, Turn.result, Turn.reacting, if_pos hremaining, if_pos hremaining]
    rfl
  · -- What the receiver says comes after its reaction, and it can always say something.
    obtain ⟨said, hsaid⟩ := change.acknowledgement_announcement address
      (turn.after react address change).heap turn.subscription.receiver
    refine ⟨said, ?_⟩
    rw [Turn.after, Turn.reacting, if_neg hremaining] at hsaid
    rw [Turn.after, Turn.result, Turn.reacting, if_neg hremaining]
    rw [if_neg hremaining, ← bind_assoc]
    exact on_bind_read hsaid

/-- Delivering an event to receivers is calling them in turn. -/
theorem called_deliverAll (react : Reactor) (address : Nat) (change : Change) (s : Session)
    (listeners : List Subscription) :
    let ended := (deliverAll react (change.announcement address) listeners).on s
    ∃ roll missed,
      Called react address change s listeners roll missed (ended.1.map fun _ => ()) ended.2 := by
  intro ended
  subst ended
  induction listeners generalizing s with
  | nil => exact ⟨[], [], .nil react address change s⟩
  | cons listener rest ih =>
    unfold deliverAll
    rw [on_bind_ok (on_subscribers _)]
    cases hfind : (s.connected (change.announcement address).name).find?
        (·.serial == listener.serial) with
    | none =>
      have hgone : ∀ subscription ∈ s.connected change.event,
          subscription.serial ≠ listener.serial := fun subscription hmem heq =>
        List.find?_eq_none.mp hfind subscription hmem (beq_iff_eq.mpr heq)
      obtain ⟨roll, missed, hcalled⟩ := ih s
      exact ⟨_, missed, .gone hgone hcalled⟩
    | some current =>
      -- What comes next is the turn of the receiver, whose subscription is held from now on.
      obtain ⟨turn, rfl, rfl⟩ : ∃ turn : Turn, turn.moment = s ∧ turn.subscription = current :=
        ⟨⟨current, s⟩, rfl, rfl⟩
      have hserial : turn.subscription.serial = listener.serial := by
        simpa using List.find?_some hfind
      have hmem : turn.subscription ∈ turn.moment.connected change.event :=
        List.mem_of_find?_eq_some hfind
      obtain ⟨said, hdeliver⟩ := on_deliver_turn react address change turn
      dsimp only [hold]
      rw [on_bind_ok (on_modify _)]
      cases hresult : turn.result react address change with
      | error failure =>
        rw [hresult] at hdeliver
        rw [on_bind_error hdeliver]
        exact ⟨_, rest, .failed hmem hserial hresult rest⟩
      | ok =>
        rw [hresult] at hdeliver
        rw [on_bind_ok hdeliver]
        obtain ⟨roll, missed, hcalled⟩ := ih (turn.after react address change)
        have htold := hcalled.told hmem hserial hresult
        refine ⟨(listener, some turn) :: roll, missed, ?_⟩
        rw [on_bind]
        rcases hrest : (deliverAll react (change.announcement address) rest).on
          (turn.after react address change) with ⟨failure | others, t⟩ <;>
        · rw [hrest] at htold
          exact htold

/-- Sending the event of a change is calling those who listen, and letting go of them. -/
theorem letGo_send (react : Reactor) (address : Nat) (change : Change) (s : Session) :
    let called := (deliverAll react (change.announcement address)
      (s.listeners (change.announcement address))).on s
    ∃ t, (send react (change.announcement address)).on s = (called.1, t) ∧ LetGo called.2 t := by
  unfold send
  rw [change.unnamed_announcement, if_neg Bool.false_ne_true, on_bind_ok on_get,
    on_bind_ok (on_subscribers _), on_bind_ok (on_attempt _ _), release, on_bind_ok (on_modify _),
    on_ofExcept]
  exact ⟨_, rfl, rfl, rfl, rfl, rfl⟩

section Announcing

variable (hreact : ∀ reaction, Leads Remembers (react reaction))
include hreact

/-- Calling those who listen and letting go of them is all there is to announcing a change, but for
a message. -/
theorem announced_of_called {called : Except Failure (List (String × String)) × Session}
    {t : Session} (hdeliver : (deliverAll react (change.announcement address)
      (s.listeners (change.announcement address))).on s = called) (hletGo : LetGo called.2 t) :
    ∃ roll missed,
      Announced react address change roll missed (called.1.map fun _ => ()) s t := by
  obtain ⟨roll, missed, hcalled⟩ := called_deliverAll react address change s
    (s.listeners (change.announcement address))
  rw [hdeliver] at hcalled
  exact ⟨roll, missed, ⟨_, hletGo, hcalled⟩, fun turn _ => turn.heard_eq hreact address change,
    hletGo.deliveries_eq.trans (hcalled.calls.deliveries_eq hreact)⟩

/-- **A change is announced to those who listen**, in turn, up to the first that fails.  That one is
reported, if its failure has a wording. -/
theorem on_announce_in_turn (address : Nat) (change : Change) (s : Session) :
    ∃ roll missed result t, Announced react address change roll missed result s t ∧
      (((giveNotice react address (.change change)).on s = (.ok (), t) ∧
          ∀ failure, result = .error failure → ∃ wording, t.heap.message failure = .ok wording) ∨
        ∃ failure unshown, (giveNotice react address (.change change)).on s = (.error unshown, t) ∧
          result = .error failure ∧ t.heap.message failure = .error unshown) := by
  obtain ⟨t, hsend, hletGo⟩ := letGo_send react address change s
  rcases hdeliver : (deliverAll react (change.announcement address)
    (s.listeners (change.announcement address))).on s with ⟨failure | said, u⟩
  · rw [hdeliver] at hsend hletGo
    rw [on_giveNotice_of_send_error hsend]
    cases hmessage : t.heap.message failure with
    -- The failure is reported, and a report is no delivery.
    | ok wording =>
      obtain ⟨v, hreport, hlogged⟩ := on_reportReceiver_ok change hmessage
      obtain ⟨roll, missed, hannounced⟩ :=
        announced_of_called hreact hdeliver (hletGo.trans hlogged.letGo)
      refine ⟨roll, missed, _, v, hannounced, Or.inl ⟨hreport, fun other hother => ?_⟩⟩
      obtain rfl := Except.error.inj hother
      exact ⟨wording, hlogged.heap ▸ hmessage⟩
    -- The report fails in the place of the receiver.
    | error unshown =>
      obtain ⟨roll, missed, hannounced⟩ := announced_of_called hreact hdeliver hletGo
      exact ⟨roll, missed, _, t, hannounced, Or.inr ⟨failure, unshown,
        on_reportReceiver_error change.event hmessage, rfl, hmessage⟩⟩
  · rw [hdeliver] at hsend hletGo
    obtain ⟨roll, missed, hannounced⟩ := announced_of_called hreact hdeliver hletGo
    exact ⟨roll, missed, _, t, hannounced, Or.inl ⟨on_giveNotice_of_send_ok hsend, nofun⟩⟩

theorem goesRound_changes (address : Nat) (s : Session) (changes : List Change) :
    ∃ result t, ((changes.map .change).forM (giveNotice react address)).on s = (result, t) ∧
      GoesRound react address s changes result t := by
  induction changes generalizing s with
  | nil => exact ⟨.ok (), s, rfl, .nil s⟩
  | cons change rest ih =>
    obtain ⟨roll, missed, _, t, hannounced,
      ⟨hannounce, hworded⟩ | ⟨failure, unshown, hannounce, rfl, hunshown⟩⟩ :=
        on_announce_in_turn hreact address change s
    · obtain ⟨result, u, hrest, hgoes⟩ := ih t
      exact ⟨result, u, (on_bind_ok hannounce).trans hrest, .cons hannounced hworded hgoes⟩
    · exact ⟨.error unshown, t, on_bind_error hannounce, .stuck hannounced hunshown rest⟩

/-- An outcome comes with at most a message.  If it ends in a failure, that is all; otherwise its
changes are announced. -/
theorem goesRound_conclude (address : Nat) (s : Session) {store : Store} {o : Outcome}
    (h : Store.Conduct store o) :
    ∃ t, Logged s t ∧
      ((∃ failure, o.resultAt s.level = .error failure ∧
          (conclude react address o).on s = (.error failure, t)) ∨
        o.resultAt s.level = .ok () ∧ ∃ result u, (conclude react address o).on s = (result, u) ∧
          GoesRound react address t o.changes result u) := by
  cases h with
  | silent result =>
    refine ⟨s, ⟨rfl, rfl, rfl, rfl, rfl⟩, ?_⟩
    rw [on_conclude_nil, Outcome.resultAt_nil]
    cases result with
    | error failure => exact Or.inl ⟨failure, rfl, rfl⟩
    | ok => exact Or.inr ⟨rfl, .ok (), s, rfl, .nil s⟩
  | warns message failure =>
    obtain ⟨t, hlogged, hconclude⟩ := on_conclude_log react address s store .warning message []
      (.error failure)
    refine ⟨t, hlogged, Or.inl ?_⟩
    rw [hconclude, on_conclude_nil, Outcome.resultAt_cons, Outcome.resultAt_nil]
    cases (Notice.log .warning message).checkAt s.level with
    | error fault => exact ⟨fault, rfl, rfl⟩
    | ok => exact ⟨failure, rfl, rfl⟩
  | @reports after message changes =>
    obtain ⟨t, hlogged, hconclude⟩ := on_conclude_log react address s after .debug message
      (changes.map .change) (.ok ())
    obtain ⟨result, u, hchanges, hgoes⟩ := goesRound_changes hreact address t changes
    refine ⟨t, hlogged, ?_⟩
    rw [hconclude, Outcome.changes_report, Outcome.resultAt_cons, Outcome.resultAt_changes]
    -- The message comes before the changes, so if it cannot be rendered nobody is called.
    cases (Notice.log .debug message).checkAt s.level with
    | error fault => exact Or.inl ⟨fault, rfl, rfl⟩
    | ok =>
      have hrest : (conclude react address ⟨after, changes.map .change, .ok ()⟩).on t =
          (result, u) := by
        cases result with
        | ok => exact on_bind_ok hchanges
        | error unshown => exact on_bind_error hchanges
      exact Or.inr ⟨rfl, result, u, hrest, hgoes⟩

end Announcing

/-- A session with a store and two receivers, of whom the first fails. -/
def heckled : Session :=
  { withStore (Limits.default.toValue 0) with
    subscriptions := Table.ofList [(Change.setEvent,
      [⟨0, "heckler", none, .raise (.text "no"), 1, false⟩,
        ⟨1, "listener", none, .record, 1, false⟩])] }

end Run

end BoundedVars
