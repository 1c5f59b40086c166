import BoundedVars.Proofs.Heap
import BoundedVars.Proofs.Mirror
import BoundedVars.Proofs.Session.Bounds
import BoundedVars.Proofs.Session.Calls
import BoundedVars.Proofs.Session.Hearing

/-!
# Mirrors show what stores hold

A receiver that notes all announcements of changes from the start, when the stores are new, can
mirror every store: after any calls on any of the stores, its mirror of a store shows what the store
itself hands out as a snapshot (`snapshot_after`).  The log may record warnings but not every
change, because then a message that cannot be rendered keeps a change from being announced.

The invariant is `Session.Mirrored`; a call keeps it (`Mirrored.call`), because what it announces of
a store takes the mirror of this store where the operation takes the store, and leaves the mirrors
of the others alone (`Mirror.foldl_told`).
-/

namespace BoundedVars

namespace Mirror

variable {receivers : List String} {receiver : String} {sender : Identity} {m : Mirror}

/-- What others are told does not matter. -/
theorem foldl_note_of_ne {entry : String → TraceEntry}
    (hentry : ∀ other ∈ receivers, m.note receiver sender (entry other) = m) :
    (receivers.map entry).foldl (note receiver sender) m = m := by
  induction receivers with
  | nil => rfl
  | cons other rest ih =>
    rw [List.map_cons, List.foldl_cons, hentry other List.mem_cons_self]
    exact ih fun name hname => hentry name (List.mem_cons_of_mem _ hname)

/-- The receiver is told once. -/
theorem foldl_note_of_mem {entry : String → TraceEntry} {next : Mirror} (hn : receivers.Nodup)
    (hmem : receiver ∈ receivers) (hself : m.note receiver sender (entry receiver) = next)
    (hother : ∀ m : Mirror, ∀ other ≠ receiver, m.note receiver sender (entry other) = m) :
    (receivers.map entry).foldl (note receiver sender) m = next := by
  induction receivers with
  | nil => cases hmem
  | cons first rest ih =>
    rw [List.nodup_cons] at hn
    rw [List.map_cons, List.foldl_cons]
    by_cases hfirst : first = receiver
    · subst hfirst
      -- No other receiver has this name, so nothing more is noted.
      rw [hself]
      exact foldl_note_of_ne fun other hmem => hother next other fun heq => hn.1 (heq ▸ hmem)
    · rw [hother m first hfirst]
      exact ih hn.2 ((List.mem_cons.mp hmem).resolve_left (Ne.symm hfirst))

variable {address : Nat} {datum : Datum}

theorem note_announcement (change : Change) (other : String) :
    m.note receiver sender ((change.announcement address).entry datum change.shownFields other) =
      if other = receiver ∧ .store address = sender then m.apply change else m := by
  rw [Event.entry, note, Change.ofFields?_shownFields]
  rfl

theorem foldl_told_notice (hn : receivers.Nodup) (hmem : receiver ∈ receivers) (m : Mirror)
    (notice : Notice) :
    (Run.told receivers address datum notice).foldl (note receiver (.store address)) m =
      m.give notice := by
  cases notice with
  | log => rfl
  | change change =>
    refine foldl_note_of_mem hn hmem ?_ fun m other hne => ?_
    · rw [note_announcement, if_pos ⟨rfl, rfl⟩, give]
    · rw [note_announcement, if_neg fun h => hne h.1]

/-- **Noting what is told of a store does to its mirror what the changes do.** -/
theorem foldl_told (hn : receivers.Nodup) (hmem : receiver ∈ receivers) (notices : List Notice)
    (m : Mirror) :
    (notices.flatMap (Run.told receivers address datum)).foldl (note receiver (.store address)) m =
      notices.foldl give m := by
  rw [List.foldl_flatMap]
  congr 1
  funext m notice
  exact foldl_told_notice hn hmem m notice

/-- What is told of a store leaves the mirrors of the others alone. -/
theorem foldl_told_of_ne (hne : sender ≠ .store address) (notices : List Notice) (m : Mirror) :
    (notices.flatMap (Run.told receivers address datum)).foldl (note receiver sender) m = m := by
  have htold : ∀ m : Mirror, ∀ notice,
      (Run.told receivers address datum notice).foldl (note receiver sender) m = m := by
    intro m notice
    cases notice with
    | log => rfl
    | change change =>
      refine foldl_note_of_ne fun other _ => ?_
      rw [note_announcement, if_neg fun h => hne h.2.symm]
  induction notices generalizing m with
  | nil => rfl
  | cons notice rest ih => rw [List.flatMap_cons, List.foldl_append, htold, ih]

end Mirror

namespace Session

/-- A session in which a receiver has mirrored all stores so far, and goes on doing so. -/
structure Mirrored (receivers : List String) (receiver : String) (s : Session) : Prop where
  mirror_eq : ∀ address < s.heap.stores.size,
    Mirror.of receiver (.store address) s.deliveries = (s.heap.store address).mirror
  hears : HearsChanges receivers s
  quiet : Log.records s.level .debug = false

variable {receivers : List String} {receiver : String} {s t : Session}

theorem mirrored_of_new (hears : HearsChanges receivers s)
    (hquiet : Log.records s.level .debug = false) (hdeliveries : s.deliveries = [])
    (hnew : ∀ address < s.heap.stores.size, ∃ limits, s.heap.store address = .new limits) :
    Mirrored receivers receiver s where
  mirror_eq address haddress := by
    obtain ⟨limits, hlimits⟩ := hnew address haddress
    rw [hdeliveries, hlimits]
    rfl
  hears := hears
  quiet := hquiet

/-- An operation on a store is mirrored, and nothing else is to be mirrored. -/
theorem Mirrored.of_noticed (h : Mirrored receivers receiver s) (hn : receivers.Nodup)
    (hmem : receiver ∈ receivers) {address : Nat} {operation : Store.Operation} {sender : Datum}
    (hnoticed : Run.Noticed receivers (((s.heap.store address).outcome operation).notices.flatMap
      (Run.told receivers address sender)) (Run.changed s address operation) t) :
    Mirrored receivers receiver t where
  mirror_eq other hother := by
    have hpresent : other < s.heap.stores.size := by
      rw [hnoticed.heap] at hother
      exact Heap.size_setStore ▸ hother
    have hdeliveries : (Run.changed s address operation).deliveries = s.deliveries := rfl
    have hmirror := h.mirror_eq other hpresent
    rw [Mirror.of] at hmirror
    rw [Mirror.of, hnoticed.deliveries_eq, hdeliveries, List.foldl_append, hmirror, hnoticed.heap,
      Run.changed]
    by_cases heq : other = address
    · -- The store operated on: its mirror takes the same step.
      subst heq
      rw [Mirror.foldl_told hn hmem, Heap.store_setStore_self hpresent]
      exact (Store.step_outcome _ operation).mirror_eq
    · rw [Mirror.foldl_told_of_ne fun hsender => heq (Identity.store.inj hsender),
        Heap.store_setStore_of_ne heq]
  hears := hnoticed.hears
  quiet := by rw [hnoticed.level]; exact h.quiet

/-- Calls that name their script. -/
theorem Mirrored.call_of_resolved (h : Mirrored receivers receiver s) (hn : receivers.Nodup)
    (hmem : receiver ∈ receivers) {react : Reactor} (hreact : react .record = pure ())
    (address : Nat) {call : Call} (hresolved : call.resolved s.heap = .ok call) :
    Mirrored receivers receiver ((Run.call react address call).on s).2 := by
  by_cases hupdate : ∃ operation, call = .update operation
  · obtain ⟨operation, rfl⟩ := hupdate
    obtain ⟨sender, hsender⟩ := (Run.changed s address operation).exists_datum_store address
    obtain ⟨result, t, hoperate, hnoticed⟩ :=
      Run.on_operate_of_quiet hreact operation h.hears hsender h.quiet
    rw [Run.on_update, hoperate]
    exact h.of_noticed hn hmem hnoticed
  · -- Reading delivers nothing and leaves the stores.
    obtain ⟨result, fresh, hread⟩ := Run.on_call_of_resolved react address s hresolved
      fun operation heq => hupdate ⟨operation, heq⟩
    rw [hread]
    exact ⟨h.mirror_eq, h.hears.congr rfl, h.quiet⟩

/-- **A call is mirrored**, on whatever store, whether or not it succeeds. -/
theorem Mirrored.call (h : Mirrored receivers receiver s) (hn : receivers.Nodup)
    (hmem : receiver ∈ receivers) {react : Reactor} (hreact : react .record = pure ())
    (address : Nat) (call : Call) :
    Mirrored receivers receiver ((Run.call react address call).on s).2 := by
  rw [Run.on_call_resolved]
  cases hresolved : call.resolved s.heap with
  | error failure => exact h
  | ok resolved =>
    exact h.call_of_resolved hn hmem hreact address (Call.resolved_of_resolved hresolved s.heap)

theorem Mirrored.after (h : Mirrored receivers receiver s) (hn : receivers.Nodup)
    (hmem : receiver ∈ receivers) (budget : Nat) (calls : List (Nat × Call)) :
    Mirrored receivers receiver (s.after budget (calls.map fun c => .call c.1 c.2)) := by
  induction calls generalizing s with
  | nil => exact h
  | cons call rest ih => exact ih (h.call hn hmem (Run.react_record budget) call.1 call.2)

/-- A session with two stores and a receiver that takes note of all changes. -/
def watched : Session :=
  let limits := Limits.default.toValue 0
  { start with
    heap := ((Heap.empty.newStore (.new limits)).2.newStore (.new limits)).2
    subscriptions := Table.ofList (Change.events.map fun event =>
      (event, [⟨0, "receiver", none, .record, 1, false⟩])) }

theorem hearsChanges_watched : HearsChanges ["receiver"] watched := by
  intro event hevent
  simp only [Change.events, List.mem_cons, List.not_mem_nil, or_false] at hevent
  rcases hevent with rfl | rfl | rfl
  all_goals
    exact ⟨rfl, List.nodup_singleton 0, fun subscription hmem => by
      rw [List.mem_singleton.mp hmem]
      exact ⟨rfl, rfl, rfl⟩⟩

theorem new_watched :
    ∀ address < watched.heap.stores.size, ∃ limits, watched.heap.store address = .new limits
  | 0, _ => ⟨_, rfl⟩
  | 1, _ => ⟨_, rfl⟩

theorem mirrored_watched : Mirrored ["receiver"] "receiver" watched :=
  mirrored_of_new hearsChanges_watched (by decide) rfl new_watched

end Session

end BoundedVars
