import BoundedVars.Proofs.Agreement
import BoundedVars.Proofs.Session.Mirroring
import BoundedVars.Proofs.Session.Narrative

/-!
# A receiver that makes calls itself

Here all changes are announced to one receiver, which takes note of each announcement first and then
may make calls, so that others are announced before it has come to an end (`Session.Watched`).

`Session.Follows` says what has become of the mirror of such a receiver after some history, with
changes that were still to be announced when the history began.  Announcing a change makes up for
it: the receiver takes note of it, and then comes what its calls do (`Account.hears_announce`).
But if it is announced late that all scripts were cleared, when there are scripts again, the mirror
loses them.  So the mirror agrees with the store as far as that does not matter (`Mirror.Agree`).
-/

namespace BoundedVars

/-- A reaction that makes calls of stores, if it does anything at all, and may fail. -/
def Reaction.MakesCalls : Reaction → Prop
  | .record | .raise _ => True
  | .report steps | .perform steps => ∀ step ∈ steps, ∃ request, step.request = .store request

/-- A way of carrying out reactions that does nothing but make calls.  When receivers are told of
what these do, they may make calls in turn, and so on, but finitely often. -/
inductive Account.Reactor.OnlyCalls : Account.Reactor → Prop where
  | quiet {react : Account.Reactor} (h : ∀ reaction, reaction.MakesCalls →
    ∃ run, react reaction = Account.still run ∧ Run.Leads Session.Grown run ∧ Run.Explains run) :
    OnlyCalls react
  | calling {react inner : Account.Reactor} (hinner : OnlyCalls inner)
    (h : ∀ reaction, reaction.MakesCalls → Account.Calling inner (react reaction)) :
    OnlyCalls react

/-- What a change says holds of a store. -/
def Change.Holds (store : Store) : Change → Prop
  | .set place key value => (store.vars place).get? key = some value
  | .removed place key => (store.vars place).get? key = none
  | .clearedGlobals => store.globals = .empty
  | .clearedScript name => store.vars (.script name) = .empty
  | .clearedScripts => store.scripts = .empty

/-! ### Announced changes -/

/-- The change of the store at an address that is announced, if one is. -/
def Happening.changeAt? (address : Nat) : Happening → Option Change
  | .called _ => none
  | .announced place change _ => if place = address then some change else none

/-- The changes of the store at an address that were announced, in order. -/
def changesAt (address : Nat) (history : List Happening) : List Change :=
  history.filterMap (·.changeAt? address)

theorem changesAt_append (address : Nat) (before after : List Happening) :
    changesAt address (before ++ after) = changesAt address before ++ changesAt address after :=
  List.filterMap_append

theorem changesAt_announced (address : Nat) (change : Change) (moment : Session)
    (history : List Happening) :
    changesAt address (.announced address change moment :: history) =
      change :: changesAt address history := by
  rw [changesAt, List.filterMap_cons, Happening.changeAt?, if_pos rfl]
  rfl

theorem changesAt_announced_of_ne {address place : Nat} (hne : place ≠ address) (change : Change)
    (moment : Session) (history : List Happening) :
    changesAt address (.announced place change moment :: history) = changesAt address history := by
  rw [changesAt, List.filterMap_cons, Happening.changeAt?, if_neg hne]
  rfl

/-! ### Receivers -/

/-- A receiver is connected to stay, listens to everybody and does nothing but make calls. -/
def Subscription.Watches (receiver : String) (subscription : Subscription) : Prop :=
  subscription.receiver = receiver ∧ subscription.sender = none ∧
    subscription.isReplaced = false ∧ subscription.reaction.MakesCalls

theorem Subscription.Watches.filter_listensTo {receiver : String} {subscription : Subscription}
    (h : subscription.Watches receiver) (sender : Value) :
    [subscription].filter (·.listensTo sender) = [subscription] := by
  rw [List.filter_cons, listensTo, h.2.1]
  rfl

theorem Subscription.find?_serial (subscription : Subscription) :
    [subscription].find? (·.serial == subscription.serial) = some subscription :=
  List.find?_cons_of_pos (beq_self_eq_true _)

namespace Session

variable {receiver : String} {address place : Nat} {change : Change} {s t u : Session}

/-- One receiver hears of all changes and does nothing but make calls; the log does not record every
change. -/
structure Watched (receiver : String) (s : Session) : Prop where
  connected : ∀ event ∈ Change.events,
    ∃ subscription, s.connected event = [subscription] ∧ subscription.Watches receiver
  quiet : Log.records s.level .debug = false

/-- How often the receiver will still react does not matter. -/
theorem Watched.congr (h : Watched receiver s)
    (hfixed : ∀ event ∈ Change.events, (t.connected event).map Subscription.fixed =
      (s.connected event).map Subscription.fixed) (hlevel : t.level = s.level) :
    Watched receiver t where
  connected event hevent := by
    obtain ⟨subscription, hconnected, hwatches⟩ := h.connected event hevent
    have hmap := hfixed event hevent
    rw [hconnected, List.map_singleton, List.map_eq_singleton_iff] at hmap
    obtain ⟨other, hother, heq⟩ := hmap
    have hwatches' : other.fixed.Watches receiver := heq ▸ hwatches
    exact ⟨other, hother, hwatches'⟩
  quiet := hlevel ▸ h.quiet

theorem Watched.of_subscriptions_eq (h : Watched receiver s)
    (hsubscriptions : t.subscriptions = s.subscriptions) (hlevel : t.level = s.level) :
    Watched receiver t :=
  h.congr (fun event _ => by rw [Session.connected, Session.connected, hsubscriptions]) hlevel

/-- What a receiver has in its mirror of the store at an address. -/
def mirror (receiver : String) (address : Nat) (s : Session) : Mirror :=
  Mirror.of receiver (.store address) s.deliveries

theorem mirror_eq_of_deliveries_eq (h : t.deliveries = s.deliveries) :
    t.mirror receiver address = s.mirror receiver address := by
  rw [mirror, mirror, h]

/-! ### What becomes of the mirror -/

/-- The moment of the second announcement of a clearing, about the scripts: the first one, about the
global variables, began when there were no scripts, and has just ended. -/
def SecondTier (address : Nat) (history : List Happening) (moment : Session) : Prop :=
  ∃ react earlier, Account.Reactor.OnlyCalls react ∧
    .announced address .clearedGlobals earlier ∈ history ∧
    Change.clearedScripts.Holds (earlier.heap.store address) ∧
    moment = ((Account.announce react address .clearedGlobals).run.on earlier).2

theorem SecondTier.mono {history more : List Happening} {moment : Session}
    (h : SecondTier address history moment) (hsubset : history ⊆ more) :
    SecondTier address more moment := by
  obtain ⟨react, earlier, hreact, hmem, hholds, hmoment⟩ := h
  exact ⟨react, earlier, hreact, hsubset hmem, hholds, hmoment⟩

/-- What has become of the mirror of a store after a history.  All that was announced is in it.
Whatever was announced held at that moment, but that all scripts were cleared may have been
announced second.  And if the mirror would have agreed with the store after the changes that were
still to be announced, it agrees with it now, as far as an empty mirror would have whenever it was
announced that all scripts were cleared. -/
structure Follows (receiver : String) (address : Nat) (pending : List Change)
    (history : List Happening) (s t : Session) : Prop where
  watched : Watched receiver t
  present : address < t.heap.stores.size
  mirror_eq : t.mirror receiver address =
    (changesAt address history).foldl Mirror.apply (s.mirror receiver address)
  holds : ∀ change moment, .announced address change moment ∈ history →
    change.Holds (moment.heap.store address) ∨
      change = .clearedScripts ∧ SecondTier address history moment
  agrees : ∀ S : Table String Vars → Table String Vars → Prop, Mirror.Stable S →
    (∀ moment, .announced address .clearedScripts moment ∈ history →
      S .empty (moment.heap.store address).scripts) →
    Mirror.Agree S (pending.foldl Mirror.apply (s.mirror receiver address))
      (s.heap.store address).mirror →
    Mirror.Agree S (t.mirror receiver address) (t.heap.store address).mirror

variable {pending : List Change} {history before after : List Happening}

/-- What was announced is to be judged by all that has happened. -/
theorem Follows.holds_of_subset (h : Follows receiver address pending history s t)
    {more : List Happening} (hsubset : history ⊆ more) {moment : Session}
    (hmem : .announced address change moment ∈ history) :
    change.Holds (moment.heap.store address) ∨
      change = .clearedScripts ∧ SecondTier address more moment :=
  (h.holds change moment hmem).imp_right fun hlate => ⟨hlate.1, hlate.2.mono hsubset⟩

theorem Follows.trans (hst : Follows receiver address pending before s t)
    (htu : Follows receiver address [] after t u) :
    Follows receiver address pending (before ++ after) s u where
  watched := htu.watched
  present := htu.present
  mirror_eq := by
    rw [changesAt_append, List.foldl_append, ← hst.mirror_eq, htu.mirror_eq]
  holds _ _ hmem := (List.mem_append.mp hmem).elim
    (hst.holds_of_subset (List.subset_append_left ..))
    (htu.holds_of_subset (List.subset_append_right ..))
  agrees S hS hcleared h := htu.agrees S hS
    (fun moment hmem => hcleared moment (List.mem_append_right _ hmem))
    (hst.agrees S hS (fun moment hmem => hcleared moment (List.mem_append_left _ hmem)) h)

/-- The mirror of a store goes on showing what it has shown. -/
def Tracks (receiver : String) (address : Nat) (history : List Happening) (s t : Session) : Prop :=
  Watched receiver s → address < s.heap.stores.size → Follows receiver address [] history s t

/-- Nothing was delivered, and the store is as it was. -/
theorem tracks_of_store_eq (hpresent : address < s.heap.stores.size → address < t.heap.stores.size)
    (hstore : address < s.heap.stores.size → t.heap.store address = s.heap.store address)
    (hdeliveries : t.deliveries = s.deliveries)
    (hwatched : Watched receiver s → Watched receiver t) : Tracks receiver address [] s t := by
  intro hw haddress
  refine ⟨hwatched hw, hpresent haddress, mirror_eq_of_deliveries_eq hdeliveries,
    fun _ _ hmem => absurd hmem List.not_mem_nil, fun S _ _ h => ?_⟩
  rw [mirror_eq_of_deliveries_eq hdeliveries, hstore haddress]
  exact h

theorem tracks_of_heap_eq (hheap : t.heap = s.heap) (hdeliveries : t.deliveries = s.deliveries)
    (hwatched : Watched receiver s → Watched receiver t) : Tracks receiver address [] s t :=
  tracks_of_store_eq (by rw [hheap]; exact id) (fun _ => by rw [hheap]) hdeliveries hwatched

instance : Narrative (Tracks receiver address) where
  trans hst htu hw haddress :=
    have h := hst hw haddress
    h.trans (htu h.watched h.present)
  of_grown h := tracks_of_store_eq h.present h.store_eq h.deliveries_eq fun hw =>
    hw.of_subscriptions_eq h.subscriptions h.level

theorem tracks_of_logged (h : Logged s t) : Tracks receiver address [] s t :=
  tracks_of_heap_eq h.heap h.deliveries_eq fun hw => hw.of_subscriptions_eq h.subscriptions h.level

/-! ### Announcements -/

/-- The receiver has taken note of a change of the store at an address, and nothing else has
happened. -/
structure Received (receiver : String) (place : Nat) (change : Change) (s t : Session) : Prop where
  watched : Watched receiver t
  heap : t.heap = s.heap
  deliveries_eq : ∃ sender, t.deliveries =
    s.deliveries ++ [(change.announcement place).entry sender change.shownFields receiver]

/-- Taking note of a change does to the mirror what the change says. -/
theorem Received.mirror_eq (h : Received receiver place change s t) (address : Nat) :
    t.mirror receiver address = if place = address then (s.mirror receiver address).apply change
      else s.mirror receiver address := by
  obtain ⟨sender, hdeliveries⟩ := h.deliveries_eq
  rw [mirror, Mirror.of, hdeliveries, List.foldl_append, List.foldl_cons, List.foldl_nil,
    Mirror.note_announcement, ← Mirror.of, ← mirror]
  simp

/-- The receiver has taken note of a change, and then its calls have come to what they come to. -/
def Hears (receiver : String) (address place : Nat) (change : Change) (s : Session)
    (history : List Happening) (t : Session) : Prop :=
  ∃ u, Received receiver place change s u ∧ Follows receiver address [] history u t

theorem Hears.trans
    (h : Hears receiver address place change s before t)
    (htu : Tracks receiver address after t u) :
    Hears receiver address place change s (before ++ after) u := by
  obtain ⟨v, hreceived, hfollows⟩ := h
  exact ⟨v, hreceived, hfollows.trans (htu hfollows.watched hfollows.present)⟩

/-- A change of another store does not matter. -/
theorem Hears.follows_of_ne (hne : place ≠ address)
    (h : Hears receiver address place change s history t) :
    Follows receiver address [] (.announced place change s :: history) s t := by
  obtain ⟨u, hreceived, hfollows⟩ := h
  refine ⟨hfollows.watched, hfollows.present, ?_, fun other moment hmem => ?_,
    fun S hS hcleared h => ?_⟩
  · rw [hfollows.mirror_eq, hreceived.mirror_eq, if_neg hne, changesAt_announced_of_ne hne]
  · rcases List.mem_cons.mp hmem with heq | hmem
    · exact absurd (Happening.announced.inj heq).1.symm hne
    · exact hfollows.holds_of_subset (List.subset_cons_self ..) hmem
  · refine hfollows.agrees S hS (fun moment h => hcleared moment (List.mem_cons_of_mem _ h)) ?_
    rw [hreceived.mirror_eq, if_neg hne, hreceived.heap]
    exact h

/-- A change of the store itself is made up for. -/
theorem Hears.follows (hholds : change.Holds (s.heap.store address))
    (h : Hears receiver address address change s history t) :
    Follows receiver address [change] (.announced address change s :: history) s t := by
  obtain ⟨u, hreceived, hfollows⟩ := h
  refine ⟨hfollows.watched, hfollows.present, ?_, fun other moment hmem => ?_,
    fun S hS hcleared h => ?_⟩
  · rw [hfollows.mirror_eq, hreceived.mirror_eq, if_pos rfl, changesAt_announced, List.foldl_cons]
  · rcases List.mem_cons.mp hmem with heq | hmem
    · obtain ⟨-, rfl, rfl⟩ := Happening.announced.inj heq
      exact Or.inl hholds
    · exact hfollows.holds_of_subset (List.subset_cons_self ..) hmem
  · refine hfollows.agrees S hS (fun moment h => hcleared moment (List.mem_cons_of_mem _ h)) ?_
    rw [hreceived.mirror_eq, if_pos rfl, hreceived.heap]
    exact h

/-- That all scripts were cleared may be announced second: what the mirror has shown of scripts
until then does not matter any more. -/
theorem Hears.follows_second (hst : Follows receiver address [.clearedGlobals] before s t)
    (htiers : SecondTier address before t)
    (h : Hears receiver address address .clearedScripts t after u) :
    Follows receiver address [.clearedGlobals, .clearedScripts]
      (before ++ .announced address .clearedScripts t :: after) s u := by
  obtain ⟨v, hreceived, hfollows⟩ := h
  refine ⟨hfollows.watched, hfollows.present, ?_, fun change moment hmem => ?_,
    fun S hS hcleared h => ?_⟩
  · rw [hfollows.mirror_eq, hreceived.mirror_eq, if_pos rfl, hst.mirror_eq, changesAt_append,
      changesAt_announced, List.foldl_append, List.foldl_cons]
  · rcases List.mem_append.mp hmem with hmem | hmem
    · exact hst.holds_of_subset (List.subset_append_left ..) hmem
    · rcases List.mem_cons.mp hmem with heq | hmem
      · obtain ⟨-, rfl, rfl⟩ := Happening.announced.inj heq
        exact Or.inr ⟨rfl, htiers.mono (List.subset_append_left ..)⟩
      · exact hfollows.holds_of_subset
          (List.subset_append_of_subset_right _ (List.subset_cons_self ..)) hmem
  · -- The scripts of the mirror are gone now, whatever they were; only the global variables matter.
    have hglobals := (hst.agrees _ Mirror.stable_true (fun _ _ => trivial)
      ⟨h.globals_eq, trivial⟩).globals_eq
    have hscripts := hcleared t (List.mem_append_right _ List.mem_cons_self)
    refine hfollows.agrees S hS (fun moment hmem =>
      hcleared moment (List.mem_append_right _ (List.mem_cons_of_mem _ hmem))) ?_
    rw [hreceived.mirror_eq, if_pos rfl, hreceived.heap]
    exact ⟨hglobals, hscripts⟩

end Session

namespace Account

open Session (Watched Follows Tracks Received Hears tracks_of_heap_eq tracks_of_logged)

variable {receiver : String} {address : Nat} {react : Reactor} {s : Session}

theorem tracks_log (severity : Severity) (message : String) (cause : Option Category) :
    Tells (Tracks receiver address) (still (Run.log severity message cause)) :=
  tells_still fun s => tracks_of_logged (Run.logged_log severity message cause s)

/-- Reporting a receiver that failed is at most a message. -/
theorem tracks_reportReceiver (event : String) (failure : Failure) :
    Tells (Tracks receiver address) (still (Run.reportReceiver event failure)) :=
  tells_still <| Run.leads_bind (Run.leads_read _) fun _ s =>
    tracks_of_logged (Run.logged_log _ _ _ s)

theorem tracks_countReaction (event : String) (serial : Nat) :
    Tells (Tracks receiver address) (still (Run.countReaction event serial)) := by
  refine tells_still fun s => ?_
  obtain ⟨t, hcount, htold, hsame⟩ := Run.on_countReaction (s := s) event serial
  rw [hcount]
  refine tracks_of_heap_eq htold.heap ?_ fun hw => hw.congr (fun event _ => hsame event) htold.level
  rw [Session.deliveries, htold.trace, List.append_nil, Session.deliveries]

/-- The receiver was not replaced, so it stays connected when a delivery ends. -/
theorem tracks_release (held : List Nat) :
    Tells (Tracks receiver address) (still (Run.release held)) := by
  refine tells_still fun s => tracks_of_heap_eq rfl rfl fun hw =>
    hw.congr (fun event hevent => ?_) rfl
  obtain ⟨subscription, hconnected, -, -, hreplaced, -⟩ := hw.connected event hevent
  rw [Run.connected_release, hconnected, List.filter_cons, Run.stays, hreplaced]
  rfl

section Announcing

variable
  (hreact : ∀ reaction, reaction.MakesCalls → Tells (Tracks receiver address) (react reaction))
  (hw : Watched receiver s) (haddress : address < s.heap.stores.size) (place : Nat)
  (change : Change)
include hreact hw haddress

theorem hears_deliver {subscription : Subscription} (hwatches : subscription.Watches receiver) :
    Ends (Hears receiver address place change s)
      (deliver react (change.announcement place) subscription) s := by
  obtain ⟨sender, hsender⟩ := s.exists_datum_store place
  have hshows := change.shows_announcement hsender
  unfold deliver
  refine ends_still_bind ((Run.on_datum _).trans (by rw [hshows.sender_eq])) ?_
  refine ends_still_bind Run.on_get ?_
  refine ends_still_bind ((Run.on_ofExcept _).trans (by rw [hshows.fields_eq])) ?_
  refine ends_still_bind (Run.on_note _) ?_
  -- The delivery is in the trace; what follows is up to the receiver.
  have hreaction : Tells (Tracks receiver address) (if subscription.remaining = 0 then
      pure "done"
    else do
      Run.countReaction (change.announcement place).name subscription.serial
      react subscription.reaction
      Run.read fun h => (change.announcement place).acknowledgement h subscription.receiver) := by
    split_ifs
    · exact tells_pure _
    · refine tells_bind (tracks_countReaction _ _) fun _ => ?_
      exact tells_bind (hreact _ hwatches.2.2.2) fun _ => tells_still (Run.leads_read _)
  let u : Session := { s with
    trace := s.trace ++ [(change.announcement place).entry sender change.shownFields
      subscription.receiver] }
  have hdeliveries : u.deliveries = s.deliveries ++
      [(change.announcement place).entry sender change.shownFields receiver] := by
    rw [Session.deliveries, List.filter_append, hwatches.1]
    rfl
  have hwatched : Watched receiver u := hw.of_subscriptions_eq rfl rfl
  exact ⟨u, ⟨hwatched, rfl, sender, hdeliveries⟩, hreaction u hwatched haddress⟩

/-- The only receiver hears of the change that is delivered. -/
theorem hears_deliverAll {subscription : Subscription}
    (hconnected : s.connected (change.announcement place).name = [subscription])
    (hwatches : subscription.Watches receiver) :
    Ends (Hears receiver address place change s)
      (deliverAll react (change.announcement place) [subscription]) s := by
  unfold deliverAll
  refine ends_still_bind (Run.on_subscribers _) ?_
  rw [hconnected, subscription.find?_serial]
  dsimp only
  refine ends_still_bind (t := { s with held := subscription.serial :: s.held }) rfl ?_
  refine ends_bind (R := Tracks receiver address) Hears.trans ?_ fun _ =>
    tells_bind (tells_pure _) fun _ => tells_pure _
  -- Holding a subscription is no more than a remark; what counts is the delivery.
  obtain ⟨u, hreceived, hfollows⟩ := hears_deliver
    (s := { s with held := subscription.serial :: s.held }) hreact (hw.of_subscriptions_eq rfl rfl)
    haddress place change hwatches
  exact ⟨u, ⟨hreceived.watched, hreceived.heap, hreceived.deliveries_eq⟩, hfollows⟩

theorem hears_send :
    Ends (Hears receiver address place change s) (send react (change.announcement place)) s := by
  obtain ⟨subscription, hconnected, hwatches⟩ := hw.connected _ change.event_mem_events
  unfold send
  rw [if_neg (by rw [change.unnamed_announcement]; exact Bool.false_ne_true)]
  refine ends_still_bind Run.on_get (ends_still_bind (Run.on_subscribers _) ?_)
  have hconnected' : s.connected (change.announcement place).name = [subscription] := hconnected
  rw [hconnected', hwatches.filter_listensTo]
  refine ends_bind (R := Tracks receiver address) Hears.trans ?_ fun _ =>
    tells_bind (tracks_release _) fun _ => tells_still (Run.leads_ofExcept _)
  refine ends_handling (R := Tracks receiver address) Hears.trans ?_ fun _ => tells_pure _
  exact ends_bind (R := Tracks receiver address) Hears.trans
    (hears_deliverAll hreact hw haddress place change hconnected hwatches) fun _ => tells_pure _

/-- The receiver gets to know of a change, whatever becomes of its calls. -/
theorem hears_announce :
    ∃ inner, (announce react place change).history s = .announced place change s :: inner ∧
      Hears receiver address place change s inner ((announce react place change).run.on s).2 := by
  have hemit : Ends (Hears receiver address place change s)
      (emit react (change.announcement place)) s :=
    ends_handling (R := Tracks receiver address) Hears.trans
      (hears_send hreact hw haddress place change) fun _ =>
        tells_bind (tracks_reportReceiver _ _) fun _ => tells_pure _
  have hsent : Ends (Hears receiver address place change s)
      (emit react (change.announcement place) >>= fun _ => pure ()) s :=
    ends_bind (R := Tracks receiver address) Hears.trans hemit fun _ => tells_pure _
  exact ⟨_, rfl, hsent⟩

end Announcing

variable
  (hreact : ∀ reaction, reaction.MakesCalls → Tells (Tracks receiver address) (react reaction))
include hreact

/-- Announcing a change of another store does not matter. -/
theorem tracks_announce {place : Nat} (hne : place ≠ address) (change : Change) :
    Tells (Tracks receiver address) (announce react place change) := by
  intro s hw haddress
  obtain ⟨inner, hhistory, hhears⟩ := hears_announce hreact hw haddress place change
  rw [hhistory]
  exact hhears.follows_of_ne hne

end Account

end BoundedVars
