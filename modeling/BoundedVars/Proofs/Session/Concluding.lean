import BoundedVars.Proofs.Session.Calls
import BoundedVars.Proofs.Session.Hearing
import BoundedVars.Proofs.Store.Effect
import BoundedVars.Proofs.Store.Results

/-!
# How operations end

A receiver that fails is logged, and the message about it can always be rendered.  So announcing a
change succeeds whatever the receivers do, but for one thing: the message has to say what the
failure says, and a failure about an absent key has no wording if the key cannot be written out.
Then the failure to find one ends the announcement (`Run.Speechless`), and the changes that come
after are not announced (`Run.BreaksOff`).

What an operation ends in is up to its outcome and the log alone, unless announcing its changes
breaks off (`on_operate_fst`).

If the receivers of changes only take note (`Session.TakesNote`), nothing else happens either: the
store is as the operation leaves it, and all other objects are as they were
(`on_operate_of_takesNote`).
-/

namespace BoundedVars

namespace Session

variable {s t u : Session}

/-- All receivers of changes only take note. -/
def TakesNote (s : Session) : Prop :=
  ∀ event ∈ Change.events, s.Recorded event

theorem HearsChanges.takesNote {receivers : List String} (h : HearsChanges receivers s) :
    s.TakesNote :=
  fun event hevent => (h event hevent).recorded

/-- A session in which nothing has changed but the trace and how often receivers will react. -/
structure Undisturbed (s t : Session) : Prop where
  heap : t.heap = s.heap
  names : t.names = s.names
  level : t.level = s.level
  takesNote : s.TakesNote → t.TakesNote

theorem Undisturbed.refl (s : Session) : Undisturbed s s := ⟨rfl, rfl, rfl, id⟩

theorem Undisturbed.trans (hst : Undisturbed s t) (htu : Undisturbed t u) : Undisturbed s u where
  heap := htu.heap.trans hst.heap
  names := htu.names.trans hst.names
  level := htu.level.trans hst.level
  takesNote h := htu.takesNote (hst.takesNote h)

theorem Logged.undisturbed (h : Logged s t) : Undisturbed s t where
  heap := h.heap
  names := h.names
  level := h.level
  takesNote hnote event hevent := (recorded_congr h.subscriptions).mpr (hnote event hevent)

end Session

namespace Run

open Session

variable {react : Reactor} {address : Nat} {s : Session}

/-! ### Whatever receivers do -/

/-- The message about a receiver that failed is plain, whatever its failure says. -/
theorem isPlain_receiverMessage (change : Change) (wording : String) :
    Markup.IsPlain (receiverMessage change.event wording) := by
  have hneutral : ∀ event ∈ Change.events, Markup.isNeutral
      ("Event subscriber error for " ++ Markup.escape event ++ ": ").toList = true := by
    decide
  exact Markup.isPlain_escaped_last (hneutral _ change.event_mem_events) wording

/-- The message about a receiver that failed can be rendered. -/
theorem check_receiverMessage (change : Change) (wording : String) :
    Log.check (receiverMessage change.event wording) = .ok () :=
  Log.check_eq_ok_iff.mpr (isPlain_receiverMessage change wording).render_eq_ok

/-- Reporting a receiver whose failure has a wording is a message and nothing else. -/
theorem on_reportReceiver_ok (change : Change) {failure : Failure} {wording : String}
    (hwording : s.heap.message failure = .ok wording) :
    ∃ t, (reportReceiver change.event failure).on s = (.ok (), t) ∧ Logged s t := by
  have hread : (read fun h => h.message failure).on s = (.ok wording, s) := by
    rw [on_read, hwording]
  refine ⟨_, ?_, logged_log .error (receiverMessage change.event wording) (some failure.category) s⟩
  rw [reportReceiver, on_bind_ok hread, on_log, check_receiverMessage]
  split_ifs <;> rfl

/-- A receiver whose failure has no wording is not reported. -/
theorem on_reportReceiver_error (event : String) {failure unshown : Failure}
    (hunshown : s.heap.message failure = .error unshown) :
    (reportReceiver event failure).on s = (.error unshown, s) := by
  have hread : (read fun h => h.message failure).on s = (.error unshown, s) := by
    rw [on_read, hunshown]
  exact on_bind_error hread

/-- A receiver failed while a change was announced, and its failure has no wording: the failure to
find one is `unshown`. -/
def Speechless (react : Reactor) (address : Nat) (change : Change) (s : Session) (unshown : Failure)
    (t : Session) : Prop :=
  ∃ failure, (send react (change.announcement address)).on s = (.error failure, t) ∧
    t.heap.message failure = .error unshown

theorem on_giveNotice_of_send_ok {change : Change} {said : List (String × String)} {t : Session}
    (hsend : (send react (change.announcement address)).on s = (.ok said, t)) :
    (giveNotice react address (.change change)).on s = (.ok (), t) := by
  have hemit : (emit react (change.announcement address)).on s = (.ok said, t) := by
    rw [emit, on_tryCatch, hsend]
  exact on_bind_ok hemit

/-- A receiver that fails is reported, and that is all that comes of it. -/
theorem on_giveNotice_of_send_error {change : Change} {failure : Failure} {t : Session}
    (hsend : (send react (change.announcement address)).on s = (.error failure, t)) :
    (giveNotice react address (.change change)).on s =
      (reportReceiver change.event failure).on t := by
  have hemit : (emit react (change.announcement address)).on s =
      (do reportReceiver change.event failure; return []).on t := by
    rw [emit, on_tryCatch, hsend]
    rfl
  rcases hreport : (reportReceiver change.event failure).on t with ⟨unshown | _, u⟩
  · exact on_bind_error (hemit.trans (on_bind_error hreport))
  · exact on_bind_ok (hemit.trans (on_bind_ok hreport))

theorem Speechless.on_giveNotice {change : Change} {unshown : Failure} {t : Session}
    (h : Speechless react address change s unshown t) :
    (giveNotice react address (.change change)).on s = (.error unshown, t) := by
  obtain ⟨failure, hsend, hmessage⟩ := h
  exact (on_giveNotice_of_send_error hsend).trans (on_reportReceiver_error change.event hmessage)

/-- **Announcing a change succeeds**, unless the failure of a receiver has no wording. -/
theorem on_giveNotice_change (react : Reactor) (address : Nat) (s : Session) (change : Change) :
    ∃ t, (giveNotice react address (.change change)).on s = (.ok (), t) ∨
      ∃ unshown, (giveNotice react address (.change change)).on s = (.error unshown, t) ∧
        Speechless react address change s unshown t := by
  rcases hsend : (send react (change.announcement address)).on s with ⟨failure | said, t⟩
  · cases hmessage : t.heap.message failure with
    | ok wording =>
      -- The failure of the receiver ends here, in the log.
      obtain ⟨u, hreport, -⟩ := on_reportReceiver_ok change hmessage
      exact ⟨u, Or.inl ((on_giveNotice_of_send_error hsend).trans hreport)⟩
    | error unshown =>
      have hspeechless : Speechless react address change s unshown t := ⟨failure, hsend, hmessage⟩
      exact ⟨t, Or.inr ⟨unshown, hspeechless.on_giveNotice, hspeechless⟩⟩
  · exact ⟨t, Or.inl (on_giveNotice_of_send_ok hsend)⟩

/-- Changes were announced one after another, up to one for which the failure of a receiver had no
wording. -/
inductive BreaksOff (react : Reactor) (address : Nat) :
    Session → List Change → Failure → Session → Prop where
  | now {s t : Session} {change : Change} {unshown : Failure} (rest : List Change)
    (h : Speechless react address change s unshown t) :
    BreaksOff react address s (change :: rest) unshown t
  | later {s t u : Session} {change : Change} {rest : List Change} {unshown : Failure}
    (hannounce : (giveNotice react address (.change change)).on s = (.ok (), t))
    (hrest : BreaksOff react address t rest unshown u) :
    BreaksOff react address s (change :: rest) unshown u

theorem BreaksOff.on_changes {changes : List Change} {unshown : Failure} {t : Session}
    (h : BreaksOff react address s changes unshown t) :
    ((changes.map .change).forM (giveNotice react address)).on s = (.error unshown, t) := by
  induction h with
  | now rest hspeechless => exact on_bind_error hspeechless.on_giveNotice
  | later hannounce _ ih => exact (on_bind_ok hannounce).trans ih

theorem on_changes (react : Reactor) (address : Nat) (s : Session) (changes : List Change) :
    ∃ t, ((changes.map .change).forM (giveNotice react address)).on s = (.ok (), t) ∨
      ∃ unshown,
        ((changes.map .change).forM (giveNotice react address)).on s = (.error unshown, t) ∧
          BreaksOff react address s changes unshown t := by
  induction changes generalizing s with
  | nil => exact ⟨s, Or.inl rfl⟩
  | cons change rest ih =>
    obtain ⟨t, hchange | ⟨unshown, hchange, hspeechless⟩⟩ :=
      on_giveNotice_change react address s change
    · obtain ⟨u, hrest | ⟨unshown, hrest, hbreaks⟩⟩ := ih t
      · exact ⟨u, Or.inl ((on_bind_ok hchange).trans hrest)⟩
      · exact ⟨u, Or.inr ⟨unshown, (on_bind_ok hchange).trans hrest, .later hchange hbreaks⟩⟩
    · exact ⟨t, Or.inr ⟨unshown, on_bind_error hchange, .now rest hspeechless⟩⟩

/-- The first notice is given before the others. -/
theorem conclude_cons (react : Reactor) (address : Nat) (store : Store) (notice : Notice)
    (rest : List Notice) (result : Except Failure Unit) :
    conclude react address ⟨store, notice :: rest, result⟩ = (do
      giveNotice react address notice
      conclude react address ⟨store, rest, result⟩) := by
  rw [conclude, List.forM_eq_forM, List.forM_cons, bind_assoc]
  rfl

/-- A message comes first: if it cannot be rendered, that is the end. -/
theorem on_conclude_log (react : Reactor) (address : Nat) (s : Session) (store : Store)
    (severity : Severity) (message : String) (rest : List Notice) (result : Except Failure Unit) :
    ∃ t, Logged s t ∧
      (conclude react address ⟨store, .log severity message :: rest, result⟩).on s =
        match (Notice.log severity message).checkAt s.level with
        | .ok () => (conclude react address ⟨store, rest, result⟩).on t
        | .error failure => (.error failure, t) := by
  obtain ⟨t, hlog, hlogged⟩ := on_giveNotice_log react address (s := s) severity message
  -- A notice that is a message is given by logging it.
  have hlog' : (giveNotice react address (.log severity message)).on s =
      ((Notice.log severity message).checkAt s.level, t) := hlog
  refine ⟨t, hlogged, ?_⟩
  rw [conclude_cons]
  cases hcheck : (Notice.log severity message).checkAt s.level with
  | ok =>
    rw [hcheck] at hlog'
    exact on_bind_ok hlog'
  | error failure =>
    rw [hcheck] at hlog'
    exact on_bind_error hlog'

theorem on_conclude_nil (react : Reactor) (address : Nat) (s : Session) (store : Store)
    (result : Except Failure Unit) :
    (conclude react address ⟨store, [], result⟩).on s = (result, s) :=
  (on_bind_ok (on_pure ())).trans (on_ofExcept result)

/-- An outcome would have ended well, but announcing its changes broke off. -/
structure Interrupted (react : Reactor) (address : Nat) (o : Outcome) (s : Session)
    (unshown : Failure) (u : Session) : Prop where
  passes : o.resultAt s.level = .ok ()
  breaks : ∃ t, Logged s t ∧ BreaksOff react address t o.changes unshown u
  ends : (conclude react address o).on s = (.error unshown, u)

/-- An outcome ends as it does by itself, unless it is interrupted. -/
theorem on_conclude_fst (react : Reactor) (address : Nat) {store : Store} {o : Outcome}
    (h : Store.Conduct store o) :
    ((conclude react address o).on s).1 = o.resultAt s.level ∨
      ∃ unshown u, Interrupted react address o s unshown u := by
  cases h with
  | silent result => exact Or.inl (by rw [on_conclude_nil, Outcome.resultAt_nil])
  | warns message failure =>
    obtain ⟨t, -, hconclude⟩ := on_conclude_log react address s store .warning message []
      (.error failure)
    rw [hconclude, on_conclude_nil, Outcome.resultAt_cons, Outcome.resultAt_nil]
    cases (Notice.log .warning message).checkAt s.level <;> exact Or.inl rfl
  | @reports after message changes =>
    obtain ⟨t, hlogged, hconclude⟩ := on_conclude_log react address s after .debug message
      (changes.map .change) (.ok ())
    -- No change counts in the result, so it is that of the message alone.
    have hresult : Outcome.resultAt ⟨after, .log .debug message :: changes.map .change, .ok ()⟩
        s.level = (Notice.log .debug message).checkAt s.level := by
      rw [Outcome.resultAt_cons, Outcome.resultAt_changes]
      cases (Notice.log .debug message).checkAt s.level <;> rfl
    cases hcheck : (Notice.log .debug message).checkAt s.level with
    | error failure =>
      rw [hcheck] at hconclude hresult
      exact Or.inl (by rw [hconclude, hresult])
    | ok =>
      rw [hcheck] at hconclude hresult
      -- The message is logged; what follows are changes, and only those can break off.
      obtain ⟨u, hchanges | ⟨unshown, hchanges, hbreaks⟩⟩ := on_changes react address t changes
      · have hrest : (conclude react address ⟨after, changes.map .change, .ok ()⟩).on t =
            (.ok (), u) := on_bind_ok hchanges
        exact Or.inl (by rw [hconclude, hrest, hresult])
      · have hrest : (conclude react address ⟨after, changes.map .change, .ok ()⟩).on t =
            (.error unshown, u) := on_bind_error hchanges
        refine Or.inr ⟨unshown, u, hresult, ⟨t, hlogged, ?_⟩, hconclude.trans hrest⟩
        rw [Outcome.changes_report]
        exact hbreaks

/-- **An operation ends as its outcome and the log have it**, unless it is interrupted. -/
theorem on_operate_fst (react : Reactor) (address : Nat) (s : Session)
    (operation : Store.Operation) :
    let outcome := (s.heap.store address).outcome operation
    ((operate react address operation).on s).1 = outcome.resultAt s.level ∨
      ∃ unshown u, Interrupted react address outcome (changed s address operation) unshown u := by
  intro outcome
  rw [on_operate, ← level_changed address operation (s := s)]
  exact on_conclude_fst react address (Store.step_outcome _ operation).conduct

/-! ### Receivers that only take note -/

theorem on_giveNotice_of_takesNote (hreact : react .record = pure ()) (hnote : s.TakesNote)
    (address : Nat) (notice : Notice) :
    ∃ t, (giveNotice react address notice).on s = (notice.checkAt s.level, t) ∧
      Undisturbed s t := by
  cases notice with
  | log severity message =>
    obtain ⟨t, hlog, hlogged⟩ := on_giveNotice_log react address (s := s) severity message
    exact ⟨t, hlog, hlogged.undisturbed⟩
  | change change =>
    obtain ⟨sender, hsender⟩ := s.exists_datum_store address
    obtain ⟨t, hannounce, htold, hleaves⟩ := on_announce hreact
      (change.shows_announcement hsender) (hnote _ change.event_mem_events)
    exact ⟨t, hannounce, htold.heap, htold.names, htold.level,
      fun hnote event hevent => hleaves.recorded (hnote event hevent)⟩

theorem on_conclude_of_takesNote (hreact : react .record = pure ()) (hnote : s.TakesNote)
    (address : Nat) (store : Store) (notices : List Notice) (result : Except Failure Unit) :
    ∃ t, (conclude react address ⟨store, notices, result⟩).on s =
        (Outcome.resultAt ⟨store, notices, result⟩ s.level, t) ∧ Undisturbed s t := by
  induction notices generalizing s with
  | nil => exact ⟨s, on_conclude_nil react address s store result, Undisturbed.refl s⟩
  | cons notice rest ih =>
    obtain ⟨t, hnotice, hundisturbed⟩ := on_giveNotice_of_takesNote hreact hnote address notice
    rw [conclude_cons, Outcome.resultAt_cons]
    cases hcheck : notice.checkAt s.level with
    | error failure =>
      rw [hcheck] at hnotice
      exact ⟨t, on_bind_error hnotice, hundisturbed⟩
    | ok =>
      rw [hcheck] at hnotice
      obtain ⟨u, hrest, hundisturbed'⟩ := ih (hundisturbed.takesNote hnote)
      rw [hundisturbed.level] at hrest
      exact ⟨u, (on_bind_ok hnotice).trans hrest, hundisturbed.trans hundisturbed'⟩

/-- **An operation changes its store and nothing else**, if receivers only take note. -/
theorem on_operate_of_takesNote (hreact : react .record = pure ()) (hnote : s.TakesNote)
    (address : Nat) (operation : Store.Operation) :
    ∃ t, (operate react address operation).on s =
        (((s.heap.store address).outcome operation).resultAt s.level, t) ∧
      Undisturbed (changed s address operation) t :=
  on_conclude_of_takesNote (s := changed s address operation) hreact hnote address _ _ _

end Run

end BoundedVars
