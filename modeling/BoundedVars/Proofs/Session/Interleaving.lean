import BoundedVars.Proofs.Session.Sequential
import BoundedVars.Proofs.Store.Filling

/-!
# Writes of several clients

Several clients write to the same compartment of a new store, each one variable after another; the
store carries out one write at a time, so their writes come in some interleaved order.  Which
variables are kept depends on that order, but how many are kept does not, and if there is room for
all of them none is lost (`interleaving_fills`).
-/

namespace BoundedVars

/-- A list comes about by taking turns: again and again one of several lists gives away its head,
whichever it is, until all are empty. -/
inductive Interleaving {α : Type} : List (List α) → List α → Prop
  | done {clients : List (List α)} (h : ∀ client ∈ clients, client = []) : Interleaving clients []
  | step {clients : List (List α)} {i : Nat} {x : α} {rest merged : List α}
    (hturn : clients[i]? = some (x :: rest)) (h : Interleaving (clients.set i rest) merged) :
    Interleaving clients (x :: merged)

/-- Nothing is lost and nothing added. -/
theorem Interleaving.perm {α : Type} {clients : List (List α)} {merged : List α}
    (h : Interleaving clients merged) : merged.Perm clients.flatten := by
  induction h with
  | done hempty =>
    rw [List.flatten_eq_nil_iff.mpr hempty]
  | @step clients i x rest merged hturn _ ih =>
    obtain ⟨hi, hhead⟩ := List.getElem?_eq_some_iff.mp hturn
    have hclients : clients.flatten =
        (clients.take i).flatten ++ x :: (rest ++ (clients.drop (i + 1)).flatten) := by
      conv_lhs => rw [← List.take_append_drop i clients, List.drop_eq_getElem_cons hi, hhead]
      rw [List.flatten_append, List.flatten_cons, List.cons_append]
    -- Taking the turn of a client takes one element out of the whole.
    have hset : (clients.set i rest).flatten =
        (clients.take i).flatten ++ (rest ++ (clients.drop (i + 1)).flatten) := by
      rw [List.set_eq_take_append_cons_drop, if_pos hi, List.flatten_append, List.flatten_cons]
    rw [hclients]
    rw [hset] at ih
    exact (ih.cons x).trans List.perm_middle.symm

/-- A write to a compartment, as a call. -/
def Write.call (place : Compartment) (w : Write) : Call :=
  .update (w.operation place)

theorem Write.operations_map_call (h : Heap) (place : Compartment) (ws : List Write) :
    Call.operations h (ws.map (Write.call place)) = ws.map (Write.operation place) := by
  rw [Call.operations, List.filterMap_map, ← List.filterMap_eq_map]
  rfl

namespace Session

variable {s : Session} {address : Nat} {place : Compartment} {limits : Value} {capacity : Nat}

/-- The session after writes to a compartment of a store. -/
def afterWrites (budget address : Nat) (place : Compartment) (s : Session) (ws : List Write) :
    Session :=
  s.after budget ((ws.map (Write.call place)).map (.call address))

theorem carried_afterWrites (budget : Nat) (hnote : s.TakesNote)
    (haddress : address < s.heap.stores.size) (place : Compartment) (ws : List Write) :
    Carried address (ws.map (Write.operation place)) s (s.afterWrites budget address place ws) := by
  rw [← Write.operations_map_call s.heap]
  exact carried_after budget hnote haddress _

theorem vars_afterWrites (budget : Nat) (hnote : s.TakesNote)
    (haddress : address < s.heap.stores.size) (hnew : s.heap.store address = .new limits)
    (hplace : Store.IsNamed place)
    (hcapacity : limits.limit (Store.capacityLimit place) = .ok (.int capacity)) (ws : List Write) :
    ((s.afterWrites budget address place ws).heap.store address).vars place =
      Vars.fillAll capacity .empty (Write.entries limits ws) := by
  have hlimits : (Store.new limits).limits = limits := rfl
  rw [(carried_afterWrites budget hnote haddress place ws).store haddress, hnew,
    Store.vars_after_writes hplace hlimits hcapacity, Store.vars_new]

/-- As long as there is room for all keys, a valid write succeeds. -/
theorem on_call_write (budget : Nat) (hnote : s.TakesNote)
    (hquiet : Log.records s.level .debug = false) (haddress : address < s.heap.stores.size)
    (hnew : s.heap.store address = .new limits) (hplace : Store.IsNamed place)
    (hcapacity : limits.limit (Store.capacityLimit place) = .ok (.int capacity))
    {before rest : List Write} {w : Write} (hvalid : (w.valid? limits).isSome)
    (hcard : (Vars.keysOf (Write.entries limits (before ++ w :: rest))).card ≤ capacity) :
    ((Run.call (Run.react budget) address (w.call place)).on
      (s.afterWrites budget address place before)).1 = .ok .nothing := by
  obtain ⟨e, he⟩ := Option.isSome_iff_exists.mp hvalid
  have hbefore := carried_afterWrites budget hnote haddress place before
  have hquiet' : Log.records (s.afterWrites budget address place before).level .debug = false :=
    hbefore.level ▸ hquiet
  have hoperation : (w.call place).operation? (s.afterWrites budget address place before).heap =
      some (w.operation place) := Call.operation?_update _ _
  have hresult := Store.result_after_writes hplace hcapacity he hcard
  rw [Run.on_call_fst_of_takesNote (Run.react_record budget) hbefore.takesNote address hoperation,
    hbefore.store haddress, hnew,
    ((Store.step_outcome _ _).conduct.resultAt_eq_ok_iff hquiet').mpr hresult]
  rfl

/-- **A compartment fills up with the first keys**, however writes are interleaved.  The keys kept
are the first ones among those of valid writes, and each has the value that was written last.  So
their number is that of all keys written, as far as there is room; and if there is room for all,
every valid write succeeds, and another order ends up with the same variables if it agrees for each
key. -/
theorem interleaving_fills (budget : Nat) (hnote : s.TakesNote)
    (hquiet : Log.records s.level .debug = false) (haddress : address < s.heap.stores.size)
    (hnew : s.heap.store address = .new limits) (hplace : Store.IsNamed place)
    (hcapacity : limits.limit (Store.capacityLimit place) = .ok (.int capacity))
    {clients : List (List Write)} {merged : List Write} (hmerged : Interleaving clients merged) :
    let vars (ws : List Write) :=
      ((s.afterWrites budget address place ws).heap.store address).vars place
    let keys := Vars.keysOf (Write.entries limits clients.flatten)
    (vars merged).keys = ((Write.entries limits merged).map (·.1)).eraseDups.take capacity ∧
    (∀ key ∈ (vars merged).keys,
      (vars merged).get? key = (Write.entries limits merged).reverse.lookup key) ∧
    (vars merged).size = min capacity keys.card ∧
    (keys.card ≤ capacity →
      (∀ before w rest, merged = before ++ w :: rest → (w.valid? limits).isSome →
        ((Run.call (Run.react budget) address (w.call place)).on
          (s.afterWrites budget address place before)).1 = .ok .nothing) ∧
      ∀ other, Interleaving clients other →
        (∀ key, (Write.entries limits other).filter (·.1 == key) =
          (Write.entries limits merged).filter (·.1 == key)) →
        ∀ key, (vars other).get? key = (vars merged).get? key) := by
  intro vars keys
  have hvars (ws : List Write) : vars ws = Vars.fillAll capacity .empty (Write.entries limits ws) :=
    vars_afterWrites budget hnote haddress hnew hplace hcapacity ws
  -- The order of the writes makes no difference to which keys are written.
  have hkeys {ws : List Write} (h : Interleaving clients ws) :
      Vars.keysOf (Write.entries limits ws) = keys :=
    Vars.keysOf_eq_of_perm (h.perm.filterMap _)
  refine ⟨?_, ?_, ?_, fun hcard => ⟨?_, ?_⟩⟩
  · rw [hvars, Vars.keys_fillAll]
  · intro key hkey
    rw [hvars] at hkey ⊢
    exact Vars.get?_fillAll hkey
  · rw [hvars, Vars.size_fillAll, hkeys hmerged]
  · rintro before w rest rfl hvalid
    rw [← hkeys hmerged] at hcard
    exact on_call_write budget hnote hquiet haddress hnew hplace hcapacity hvalid hcard
  · intro other hother hsame key
    -- Nothing was left out, so every key has the value that was written last.
    have hall {ws : List Write} (h : Interleaving clients ws) :
        (vars ws).get? key = (Write.entries limits ws).reverse.lookup key := by
      rw [hvars, Vars.fillAll_of_card_le ((congrArg Finset.card (hkeys h)).trans_le hcard),
        Table.get?_ofList]
    rw [hall hother, hall hmerged, Vars.lookup_reverse_congr (hsame key)]

/-- Two clients write to a script with room for two variables: the third key comes too late, and a
value that is too long is not even considered. -/
theorem interleaving_fills_two :
    let limits := Limits.toValue ⟨0, 2, 3, 3⟩ 0
    let write (key value : String) : Write := ⟨.text key, .text value, nofun⟩
    let s := { withStore limits with level := Severity.error.level }
    let clients :=
      [[write "a" "1", write "b" "2"], [write "z" "long", write "c" "3", write "a" "4"]]
    let merged := [write "z" "long", write "a" "1", write "c" "3", write "b" "2", write "a" "4"]
    Interleaving clients merged ∧
      (((s.afterWrites 0 0 (.script "s") merged).heap.store 0).vars (.script "s")).keys =
        ["a", "c"] := by
  intro limits write s clients merged
  have hmerged : Interleaving clients merged :=
    .step (i := 1) rfl <| .step (i := 0) rfl <| .step (i := 1) rfl <| .step (i := 0) rfl <|
      .step (i := 1) rfl <| .done (by simp [clients])
  have hnote : s.TakesNote := fun _ _ _ hmem => absurd hmem List.not_mem_nil
  have hplace : Store.IsNamed (.script "s") := (by decide : "s" ≠ "")
  have hkeys : ((Write.entries limits merged).map (·.1)).eraseDups.take 2 = ["a", "c"] := by
    decide
  exact ⟨hmerged, (interleaving_fills 0 hnote (by decide) (by decide) rfl hplace rfl
    hmerged).1.trans hkeys⟩

end Session

end BoundedVars
