import BoundedVars.Proofs.Session.Sequential
import BoundedVars.Proofs.Wording

/-!
# Calls that fail

A call can fail in many places: its context names no script, its arguments or the limits are no
good, there is no room, or the log cannot render the warning that says so.  All of these come before
the store is changed and before anything is announced, so such a call does nothing but log.

A call can also fail later.  When a receiver fails, and its failure is about an absent key that
cannot be written out, the failure to find a wording for it ends the call, although its operation
has been carried out.  Where the log does not record every change there is no third way to fail
(`logged_of_call_fails`).
-/

namespace BoundedVars.Run

open Session

variable {react : Reactor} {address : Nat} {s : Session} {call : Call} {failure : Failure}

/-- An outcome that ends in a failure has changed nothing and announces nothing, unless it is
interrupted. -/
theorem logged_of_conclude_fails (react : Reactor) (address : Nat) {store : Store} {o : Outcome}
    (h : Store.Conduct store o) (hquiet : Log.records s.level .debug = false)
    (hfails : ((conclude react address o).on s).1 = .error failure) :
    (o.store = store ∧ Logged s ((conclude react address o).on s).2) ∨
      ∃ u, Interrupted react address o s failure u := by
  rcases on_conclude_fst react address h (s := s) with hends | ⟨unshown, u, hinterrupted⟩
  · have hresult := h.resultAt_eq_ok_iff hquiet
    rw [← hends, hfails] at hresult
    refine Or.inl ?_
    cases h with
    | silent result =>
      rw [on_conclude_nil]
      exact ⟨rfl, rfl, rfl, rfl, rfl, rfl⟩
    | warns message warning =>
      obtain ⟨t, hlogged, hconclude⟩ := on_conclude_log react address s store .warning message []
        (.error warning)
      rw [hconclude, on_conclude_nil]
      refine ⟨rfl, ?_⟩
      cases (Notice.log .warning message).checkAt s.level <;> exact hlogged
    -- A message about a change is not recorded, so reporting one does not fail by itself.
    | reports => cases hresult.mpr rfl
  · rw [hinterrupted.ends] at hfails
    obtain rfl := Except.error.inj hfails
    exact Or.inr ⟨u, hinterrupted⟩

/-- **A call that fails does nothing but log, or it fails when its operation has been carried out.**
In the first case all stores hold what they held, in the same order, and nothing was delivered,
whatever the limits of the store, the arguments of the call and the receivers are.  In the second
case the operation has succeeded and announcing its changes has broken off, because the failure of a
receiver has no wording; what the call fails with is the failure to find one. -/
theorem logged_of_call_fails (react : Reactor) (address : Nat) (call : Call)
    (hquiet : Log.records s.level .debug = false)
    (hfails : ((Run.call react address call).on s).1 = .error failure) :
    let t := ((Run.call react address call).on s).2
    Logged s t ∨ ∃ operation u, call.operation? s.heap = some operation ∧
      ((s.heap.store address).outcome operation).result = .ok () ∧
      Logged (changed s address operation) u ∧
      BreaksOff react address u ((s.heap.store address).outcome operation).changes failure t := by
  intro t
  cases hoperation : call.operation? s.heap with
  | none =>
    obtain ⟨result, fresh, hcall, -⟩ := on_call_of_no_operation react address hoperation
    have ht : t = { s with fresh := fresh } := congrArg Prod.snd hcall
    rw [ht]
    exact Or.inl ⟨rfl, rfl, rfl, rfl, rfl⟩
  | some operation =>
    have hconduct := (Store.step_outcome (s.heap.store address) operation).conduct
    have hquiet' : Log.records (changed s address operation).level .debug = false := hquiet
    rw [on_call_of_operation react address hoperation, on_operate] at hfails
    have ht := on_call_snd react address hoperation
    rcases logged_of_conclude_fails react address hconduct hquiet'
      (Except.map_eq_error_iff.mp hfails) with ⟨hstore, hlogged⟩ | ⟨u, hinterrupted⟩
    · -- The store was replaced by itself.
      have hchanged : changed s address operation = s := by
        rw [changed, hstore, Heap.setStore_store]
      rw [← ht, hchanged] at hlogged
      exact Or.inl hlogged
    · obtain ⟨v, hlogged, hbreaks⟩ := hinterrupted.breaks
      have hu : t = u := ht.trans (congrArg Prod.snd hinterrupted.ends)
      exact Or.inr ⟨operation, v, rfl, (hconduct.resultAt_eq_ok_iff hquiet').mp hinterrupted.passes,
        hlogged, hu ▸ hbreaks⟩

/-- A session with a store whose limit on the variables of scripts is no number, and with a receiver
that fails. -/
def wrongLimit : Session :=
  let limits : Value := .limits 0 (.int 1) (.text "many") (.int 9) (.int 9)
  let store := (Store.new limits).withVars .global (Table.ofList [("a", "1")])
  { Session.start with
    heap := (Heap.empty.newStore store).2
    subscriptions := Table.ofList
      [(Change.setEvent, [⟨0, "receiver", none, .raise (.text "no"), 1, false⟩])] }

/-- A session with a store and a receiver that asks an empty view for a number, which it does not
have. -/
def muffled (n : Int) : Session :=
  let step : Step := .mk (.view (.view (.dict [])) (.item (.saved "n"))) "s" none
  { withStore (Limits.default.toValue 0) with
    names := Table.ofList [("s", .store 0), ("n", .int n)]
    subscriptions := Table.ofList
      [(Change.setEvent, [⟨0, "receiver", none, .perform [step], 1, false⟩])] }

/-- If the number has too many digits, the failure of the receiver has no wording.  So writing a
variable fails when it has been written. -/
theorem on_call_muffled {n : Int} (hn : 10 ^ Numeral.maxDigits ≤ n.natAbs) :
    ∃ t, (Run.call (Run.react 1) 0 (.update (.setGlobal (.text "k") (.text "v")))).on (muffled n) =
        (.error .integerTooLong, t) ∧ (t.heap.store 0).globals.entries = [("k", "v")] := by
  have hspeechless : ∃ t, Speechless (Run.react 1) 0 (.set .global "k" "v")
      (changed (muffled n) 0 (.setGlobal (.text "k") (.text "v"))) .integerTooLong t ∧
        (t.heap.store 0).globals.entries = [("k", "v")] :=
    ⟨_, ⟨.absent (.int n), rfl, Heap.message_eq_error_iff.mpr
      ⟨.int n, rfl, Heap.written_int_eq_error_iff.mpr ⟨hn, rfl⟩⟩⟩, rfl⟩
  obtain ⟨t, hspeechless, hwritten⟩ := hspeechless
  refine ⟨t, ?_, hwritten⟩
  -- The message about the variable is not recorded, so announcing it is all there is.
  have hconclude : (operate (Run.react 1) 0 (.setGlobal (.text "k") (.text "v"))).on (muffled n) =
      (.error .integerTooLong, t) :=
    (on_bind_ok rfl).trans ((on_bind_ok rfl).trans (on_bind_error
      ((on_bind_ok rfl).trans (on_bind_error hspeechless.on_giveNotice))))
  exact on_bind_error hconclude

/-- It turns out late that a limit is no number, but still in time; that a receiver has failed in a
way that has no wording turns out too late. -/
theorem logged_wrongLimit_not_muffled :
    let setScript : Call := .update (.setScript (.text "s") (.text "k") (.text "v"))
    let setGlobal : Call := .update (.setGlobal (.text "k") (.text "v"))
    let muffled := muffled Numeral.tooLong
    (((Run.call (Run.react 0) 0 setScript).on wrongLimit).1 = .error (.unordered ">=" "str") ∧
        Logged wrongLimit ((Run.call (Run.react 0) 0 setScript).on wrongLimit).2) ∧
      ((Run.call (Run.react 1) 0 setGlobal).on muffled).1 = .error .integerTooLong ∧
        ∃ u, BreaksOff (Run.react 1) 0 u [.set .global "k" "v"] .integerTooLong
          ((Run.call (Run.react 1) 0 setGlobal).on muffled).2 := by
  intro setScript setGlobal s
  refine ⟨?_, ?_⟩
  · have hfails : ((Run.call (Run.react 0) 0 setScript).on wrongLimit).1 =
        .error (.unordered ">=" "str") := rfl
    refine ⟨hfails, (logged_of_call_fails (Run.react 0) 0 setScript (by decide)
      hfails).resolve_right ?_⟩
    rintro ⟨operation, u, hoperation, hresult, -⟩
    obtain rfl := Option.some.inj hoperation
    cases hresult
  · obtain ⟨t, hcall, hwritten⟩ := on_call_muffled Numeral.le_natAbs_tooLong
    have hfails := congrArg Prod.fst hcall
    have hquiet : Log.records s.level .debug = false := by decide
    refine ⟨hfails, ?_⟩
    rcases logged_of_call_fails (Run.react 1) 0 setGlobal hquiet hfails with hlogged |
      ⟨operation, u, hoperation, -, -, hbreaks⟩
    · -- The variable is there now, so more has happened than a message.
      rw [congrArg Prod.snd hcall] at hlogged
      rw [hlogged.heap] at hwritten
      cases hwritten
    · obtain rfl := Option.some.inj hoperation
      exact ⟨u, hbreaks⟩

end BoundedVars.Run
