import BoundedVars.Proofs.Heap
import BoundedVars.Proofs.Numeral
import BoundedVars.Proofs.Session.Hearing
import BoundedVars.Proofs.Store.Refinement

/-!
# Calls are answered as the reference says

A store in a session that holds what the reference does (`Session.Simulates`) answers to a call as
the reference says and then still holds what the reference does (`Simulates.call`), if no message of
the call does harm: if messages about rejected variables, and with them all others, are not
recorded, or if no bracket opens in a key.  So a new store and the empty reference are never told
apart by any calls (`conforms_of_new`).
-/

namespace BoundedVars

/-- A call does not write to a script under a key in which a bracket opens. -/
def Call.OpensNoBracket : Call → Prop
  | .update operation => operation.OpensNoBracket
  | .updateFromContext _ (.text key) _ => '[' ∉ key.toList
  | _ => True

theorem Call.OpensNoBracket.resolved {h : Heap} {call resolved : Call} (hcall : call.OpensNoBracket)
    (hresolved : call.resolved h = .ok resolved) : resolved.OpensNoBracket := by
  cases call with
  | updateFromContext context key value =>
    obtain ⟨name, -, hok⟩ := Except.bind_eq_ok_iff.mp hresolved
    obtain rfl := Except.ok.inj hok
    cases key with
    | text key => exact hcall
    | _ => trivial
  | getFromContext context key =>
    obtain ⟨name, -, hok⟩ := Except.bind_eq_ok_iff.mp hresolved
    obtain rfl := Except.ok.inj hok
    trivial
  | getVarsFromContext context =>
    obtain ⟨name, -, hok⟩ := Except.bind_eq_ok_iff.mp hresolved
    obtain rfl := Except.ok.inj hok
    trivial
  | _ =>
    obtain rfl := Except.ok.inj hresolved
    exact hcall

/-- Where changes are recorded, so are warnings. -/
theorem Log.records_warning_of_debug {level : Int} (h : records level .debug = true) :
    records level .warning = true := by
  rw [records, decide_eq_true_eq] at h ⊢
  exact Int.le_trans h (by decide)

namespace Session

/-- A session in which a store holds what the reference does, and receivers at most take note. -/
structure Simulates (receivers : List String) (address : Nat) (l : Limits) (serial : Nat)
    (s : Session) (r : Reference) : Prop where
  present : address < s.heap.stores.size
  represents : Represents l serial (s.heap.store address) r
  hears : HearsChanges receivers s

/-- Calls on a store, one after another, are answered as the reference says. -/
def Conforms (budget address : Nat) (l : Limits) (serial : Nat) :
    Session → Reference → List Call → Prop
  | _, _, [] => True
  | s, r, call :: rest =>
    r.Answers l serial s.heap call ((Run.call (Run.react budget) address call).on s).1 ∧
      Conforms budget address l serial ((Run.call (Run.react budget) address call).on s).2
        (r.next l s.heap call) rest

end Session

namespace Run

open Session

variable {react : Reactor} {receivers : List String} {address : Nat} {l : Limits} {serial : Nat}
  {s t : Session} {r : Reference} {call : Call}

/-- The messages of a call do no harm. -/
def Harmless (s : Session) (call : Call) : Prop :=
  Log.records s.level .warning = false ∨ call.OpensNoBracket

theorem check_of_harmless {operation : Store.Operation} (h : Harmless s (.update operation))
    {store : Store} {severity : Severity} {message : String}
    (hmem : .log severity message ∈ (store.outcome operation).notices)
    (hrecords : Log.records s.level severity = true) : Log.check message = .ok () := by
  rcases h with hquiet | hplain
  · -- Operations log nothing above a warning, so nothing is recorded.
    have hwarning : Log.records s.level .warning = true := by
      rcases (Store.step_outcome store operation).severity_eq hmem with rfl | ⟨rfl, -⟩
      · exact Log.records_warning_of_debug hrecords
      · exact hrecords
    rw [hquiet] at hwarning
    cases hwarning
  · exact Store.renders_outcome store hplain _ _ hmem

/-- What a call comes to when it simulates the reference: its answer, and the session afterwards. -/
def CallSimulates (react : Reactor) (receivers : List String) (address : Nat) (l : Limits)
    (serial : Nat) (s : Session) (r : Reference) (call : Call) : Prop :=
  r.Answers l serial s.heap call ((Run.call react address call).on s).1 ∧
    Simulates receivers address l serial ((Run.call react address call).on s).2
      (r.next l s.heap call) ∧
    ((Run.call react address call).on s).2.level = s.level

theorem callSimulates_update (hreact : react .record = pure ())
    (h : Simulates receivers address l serial s r) {operation : Store.Operation}
    (hharmless : Harmless s (.update operation)) :
    CallSimulates react receivers address l serial s r (.update operation) := by
  obtain ⟨sender, hsender⟩ := (changed s address operation).exists_datum_store address
  -- No message does harm, so all that comes of the operation is its outcome.
  obtain ⟨t, hoperate, hnoticed⟩ := on_operate_of_passes hreact operation h.hears hsender
    fun _ _ => check_of_harmless hharmless
  have hcall := on_update react address s operation
  rw [hoperate] at hcall
  have hstore : t.heap.store address = ((s.heap.store address).outcome operation).store := by
    rw [hnoticed.heap]
    exact Heap.store_setStore_self h.present
  have hafter := h.represents.after operation
  rw [← hstore] at hafter
  rw [CallSimulates, hcall]
  refine ⟨.update (h.represents.ends operation), ⟨?_, hafter, hnoticed.hears⟩, hnoticed.level⟩
  rw [hnoticed.heap]
  exact Heap.size_setStore.symm ▸ h.present

/-- A call that only reads uses up numbers of views, and nothing else happens. -/
theorem callSimulates_read (h : Simulates receivers address l serial s r) {fresh : Nat}
    {result : Except Failure Result}
    (hcall : (Run.call react address call).on s = (result, { s with fresh := fresh }))
    (hanswers : r.Answers l serial s.heap call result) (hnext : r.next l s.heap call = r) :
    CallSimulates react receivers address l serial s r call := by
  rw [CallSimulates, hcall, hnext]
  exact ⟨hanswers, ⟨h.present, h.represents, h.hears.congr rfl⟩, rfl⟩

/-- Calls that name their script. -/
theorem callSimulates_of_resolved (hreact : react .record = pure ())
    (h : Simulates receivers address l serial s r) (hharmless : Harmless s call)
    (hresolved : call.resolved s.heap = .ok call) :
    CallSimulates react receivers address l serial s r call := by
  have hglobals : (s.heap.store address).globals.entries = r.globals :=
    h.represents.shows .global
  cases call with
  | update operation => exact callSimulates_update hreact h hharmless
  | updateFromContext | getFromContext | getVarsFromContext =>
    obtain ⟨name, -, hok⟩ := Except.bind_eq_ok_iff.mp hresolved
    cases Except.ok.inj hok
  | limits =>
    refine callSimulates_read h rfl ?_ rfl
    rw [h.represents.limits]
    exact .limits
  | getGlobal key =>
    refine callSimulates_read h rfl ?_ rfl
    rw [h.represents.getGlobal_eq]
    exact .getGlobal key
  | getGlobals =>
    refine callSimulates_read h rfl ?_ rfl
    rw [Vars.toView, hglobals]
    exact .getGlobals s.fresh
  | getScript script key =>
    refine callSimulates_read h rfl ?_ rfl
    rw [h.represents.getScript_eq]
    exact .getScript script key
  | getScriptVars script =>
    obtain ⟨n, fresh, hview⟩ := on_viewOf s ((s.heap.store address).scriptVars script)
    refine callSimulates_read h ((on_bind_ok on_heap).trans hview) ?_ rfl
    rw [Vars.toView, h.represents.entries_scriptVars]
    exact .getScriptVars script n
  | scriptNames => exact callSimulates_read h rfl (.scriptNames h.represents.names) rfl
  | snapshot =>
    refine callSimulates_read h rfl ?_ rfl
    rw [h.represents.snapshot_eq]
    exact .snapshot h.represents.names s.fresh
  | summary =>
    refine callSimulates_read h rfl ?_ rfl
    rw [h.represents.summary_eq]
    exact .summary h.represents.names

/-- **A call is answered as the reference says**, and the store still holds what the reference does
afterwards. -/
theorem callSimulates (hreact : react .record = pure ())
    (h : Simulates receivers address l serial s r) (hharmless : Harmless s call) :
    CallSimulates react receivers address l serial s r call := by
  have hcall := on_call_resolved react address s call
  cases hresolved : call.resolved s.heap with
  | error failure =>
    rw [hresolved] at hcall
    refine callSimulates_read h hcall (.contextFails hresolved) ?_
    rw [Reference.next, hresolved]
  | ok resolved =>
    rw [hresolved] at hcall
    -- Once the context is resolved, it is the call for its script.
    have hagain := Call.resolved_of_resolved hresolved s.heap
    obtain ⟨hanswers, hsimulates, hlevel⟩ := callSimulates_of_resolved hreact h
      (hharmless.imp_right fun hcall => hcall.resolved hresolved) hagain
    have hnext : r.next l s.heap call = r.next l s.heap resolved := by
      rw [Reference.next, Reference.next, hresolved, hagain]
    rw [CallSimulates, hcall, hnext]
    exact ⟨.ofContext hresolved hanswers, hsimulates, hlevel⟩

end Run

namespace Session

variable {receivers : List String} {address : Nat} {l : Limits} {serial : Nat} {s : Session}
  {r : Reference}

theorem Simulates.conforms (budget : Nat) (calls : List Call)
    (h : Simulates receivers address l serial s r)
    (hharmless : Log.records s.level .warning = false ∨ ∀ call ∈ calls, call.OpensNoBracket) :
    s.Conforms budget address l serial r calls := by
  induction calls generalizing s r with
  | nil => trivial
  | cons call rest ih =>
    obtain ⟨hanswers, hsimulates, hlevel⟩ := Run.callSimulates (Run.react_record budget) h
      (hharmless.imp_right fun hcalls => hcalls call List.mem_cons_self)
    refine ⟨hanswers, ih hsimulates ?_⟩
    rw [hlevel]
    exact hharmless.imp_right fun hcalls other hother =>
      hcalls other (List.mem_cons_of_mem _ hother)

/-- **A new store answers to any calls as the empty reference says**, with limits of any sign and
arguments of any kind, as long as receivers only take note, and either messages about rejected
variables are not recorded or no bracket opens in a key of a variable of a script.  A call fails
exactly where the reference says, but what it fails with is no complaint about an argument if it
would have to show a limit of too many digits. -/
theorem conforms_of_new (budget : Nat) (haddress : address < s.heap.stores.size)
    (hnew : s.heap.store address = .new (l.toValue serial)) (hears : HearsChanges receivers s)
    (calls : List Call)
    (hharmless : Log.records s.level .warning = false ∨ ∀ call ∈ calls, call.OpensNoBracket) :
    s.Conforms budget address l serial .empty calls := by
  have hsimulates : Simulates receivers address l serial s .empty :=
    ⟨haddress, hnew ▸ Represents.new l serial, hears⟩
  exact hsimulates.conforms budget calls hharmless

/-- A key that is too long for a limit of too many digits: the call fails, but it does not complain
of an argument. -/
theorem on_setGlobal_of_not_spells {react : Reactor} {l : Limits} {serial : Nat}
    (hlimits : (s.heap.store address).limits = l.toValue serial)
    (hspells : ¬Reference.Spells l .maxKeySize) {key : String} (hkey : key ≠ "")
    (hlong : l.maxKeySize < key.length) (value : Value) :
    ((Run.call react address (.update (.setGlobal (.text key) value))).on s).1 =
      .error .integerTooLong := by
  have hexceeds : l.get .maxKeySize < key.length := hlong
  have htext : (Bound.int (l.get .maxKeySize)).text = .error .integerTooLong :=
    if_pos (Nat.lt_of_not_le hspells)
  have hcheck : (s.heap.store address).checkKey (.text key) = .error .integerTooLong := by
    rw [Store.checkKey_text hkey, Store.lengthBound_eq hlimits, Except.ok_bind,
      Bound.exceededBy_int, decide_eq_true hexceeds, htext]
    rfl
  have houtcome : (s.heap.store address).outcome (.setGlobal (.text key) value) =
      (s.heap.store address).refuse .integerTooLong := by
    rw [Store.outcome, Store.setGlobal, Store.writeChecked, hcheck]
    rfl
  rw [Run.on_update, Run.on_operate, houtcome]
  rfl

/-- The second variable of a script finds no room, and the log says so.  But if the limit on keys
has too many digits, no key is short enough, and the store fails to say so. -/
theorem conforms_of_new_rejected :
    (withStore (Limits.toValue ⟨1, 1, 3, 3⟩ 0)).Conforms 0 0 ⟨1, 1, 3, 3⟩ 0 .empty
      [.update (.setScript (.text "[s") (.text "a") (.text "1")),
        .update (.setScript (.text "[s") (.text "b") (.text "2")),
        .update (.clearScript (.text "[s")), .getScriptVars (.text "[s"), .snapshot] ∧
    let l : Limits := ⟨1, 1, -Numeral.tooLong, 3⟩
    let set : Call := .update (.setGlobal (.text "a") (.text "1"))
    (withStore (l.toValue 0)).Conforms 0 0 l 0 .empty [set] ∧
      ((Run.call (Run.react 0) 0 set).on (withStore (l.toValue 0))).1 = .error .integerTooLong ∧
      Failure.integerTooLong.category ≠ .invalidArgument := by
  have hspells : ¬Reference.Spells ⟨1, 1, -Numeral.tooLong, 3⟩ .maxKeySize := by
    rw [Reference.Spells, Numeral.length_decimal_le_iff, Nat.not_lt, Limits.get, Int.natAbs_neg]
    exact Numeral.le_natAbs_tooLong
  -- Any key is longer than a limit that is negative.
  have hnegative : -Numeral.tooLong < ("a".length : Int) :=
    Int.lt_of_le_of_lt (Int.neg_nonpos_of_nonneg (Int.natCast_nonneg _)) (by decide)
  refine ⟨conforms_of_new 0 (by decide) rfl (hearsChanges_withStore _) _ (Or.inr ?_), ?_, ?_,
    by decide⟩
  · intro call hcall
    simp only [List.mem_cons, List.not_mem_nil, or_false] at hcall
    rcases hcall with rfl | rfl | rfl | rfl | rfl
    all_goals simp [Call.OpensNoBracket, Store.Operation.OpensNoBracket]
  · refine conforms_of_new 0 (by decide) rfl (hearsChanges_withStore _) _ (Or.inr ?_)
    exact List.forall_mem_singleton.mpr trivial
  · exact on_setGlobal_of_not_spells rfl hspells (by decide) hnegative _

end Session

end BoundedVars
