import BoundedVars.Proofs.Store.Filling
import BoundedVars.Proofs.Store.WellFormed

/-!
# Writing what a snapshot holds to a new store

The items of a snapshot, written one after another (`Value.replay`), make of a new store one with
the same variables in the same order, and every one of these operations succeeds
(`completes_replay`).  That a new store with the same limits lets all of them in follows from what
well-formed stores are: what holds of all variables of a compartment holds of the first of them,
and there is room for one more as long as not all of them have been written.
-/

namespace BoundedVars

/-- The items of a view. -/
def Value.items : Value → List (Value × Value)
  | .view _ entries => entries
  | _ => []

/-- What stands under a text in a view, if something does. -/
def Value.part (v : Value) (name : String) : Value :=
  (v.items.lookup (.text name)).getD .none

/-- The operations that write all items of a snapshot: those of the global variables first, then
those of one script after another. -/
def Value.replay (snapshot : Value) : List Store.Operation :=
  ((snapshot.part "global").items.map fun e => .setGlobal e.1 e.2) ++
    (snapshot.part "scripts").items.flatMap fun script =>
      script.2.items.map fun e => .setScript script.1 e.1 e.2

namespace Store

variable {l : Limits} {s t u : Store} {serial : Nat} {place : Compartment} {key value : String}

/-! ### Operations that all succeed -/

/-- Operations that lead from one store to another, each of them succeeding. -/
inductive Completes : Store → List Operation → Store → Prop where
  | nil (s : Store) : Completes s [] s
  | cons {s t : Store} {operation : Operation} {rest : List Operation}
    (hresult : (s.outcome operation).result = .ok ())
    (hrest : Completes (s.outcome operation).store rest t) : Completes s (operation :: rest) t

namespace Completes

variable {operations more : List Operation} {operation : Operation}

theorem append (hst : Completes s operations t) (htu : Completes t more u) :
    Completes s (operations ++ more) u := by
  induction hst with
  | nil => exact htu
  | cons hresult _ ih => exact .cons hresult (ih htu)

theorem append_singleton {o : Outcome} (hst : Completes s operations t)
    (houtcome : t.outcome operation = o) (hresult : o.result = .ok ()) :
    Completes s (operations ++ [operation]) o.store := by
  subst houtcome
  exact hst.append (.cons hresult (.nil _))

theorem after_eq (h : Completes s operations t) : s.after operations = t := by
  induction h with
  | nil => rfl
  | cons _ _ ih => exact ih

/-- Each operation succeeds where those before it have led. -/
theorem result_eq {before rest : List Operation}
    (h : Completes s (before ++ operation :: rest) t) :
    ((s.after before).outcome operation).result = .ok () := by
  induction before generalizing s with
  | nil =>
    cases h with
    | cons hresult => exact hresult
  | cons first before ih =>
    cases h with
    | cons _ hrest => exact ih hrest

end Completes

/-! ### One variable -/

/-- What writes an entry to a compartment. -/
def assign (place : Compartment) (e : String × String) : Operation :=
  Write.operation place ⟨.text e.1, .text e.2, nofun⟩

/-- **Within the limits a write succeeds** if its key is there already or there is room. -/
theorem outcome_assign (hl : s.limits = l.toValue serial) (hplace : IsNamed place)
    (e : String × String) (hkey : e.1 ≠ "" ∧ (e.1.length : Int) ≤ l.maxKeySize)
    (hvalue : (e.2.length : Int) ≤ l.maxValueSize)
    (hroom : (s.vars place).contains e.1 = true ∨ ((s.vars place).size : Int) < capacity l place) :
    s.outcome (assign place e) =
      accept (s.withVars place ((s.vars place).insert e.1 e.2))
        [.log .debug (setMessage place e.1), .change (.set place e.1 e.2)] := by
  -- Both checks pass, and the limit is an integer that the size is compared with.
  have hkey' : s.checkKey (.text e.1) = .ok e.1 :=
    checkKey_eq_ok_iff.mpr ⟨rfl, (fitsKey_iff hl).mpr hkey⟩
  have hvalue' : s.checkValue (.text e.2) = .ok (some e.2) :=
    checkValue_eq_ok_some_iff.mpr ⟨rfl, (fitsValue_iff hl).mpr hvalue⟩
  have hlimit : s.limits.limit (capacityLimit place) = .ok (.int (capacity l place)) := by
    rw [hl, Value.limit_toValue, get_capacityLimit]
  have hwrite : s.writeChecked place (.text e.1) (.text e.2) =
      s.put place e.1 e.2 (.int (capacity l place)) := by
    rw [writeChecked, hkey', hvalue']
    dsimp only [bind, Except.bind, pure, Except.pure]
    rw [write, hlimit]
  rw [assign, outcome_write hplace, hwrite, put_int, if_pos hroom]

/-! ### One compartment -/

/-- A compartment that a store does not have yet. -/
def Lacks (s : Store) : Compartment → Prop
  | .global => s.globals = .empty
  | .script name => s.scripts.contains name = false

theorem withVars_empty (h : s.Lacks place) : s.withVars place .empty = s := by
  cases place with
  | global => exact congrArg (fun globals => { s with globals := globals }) h.symm
  | script name =>
    have hscripts : s.scripts.erase name = s.scripts := Table.erase_of_not_contains h
    exact congrArg (fun scripts => { s with scripts := scripts }) hscripts

/-- Of what is put into a compartment only the last remains. -/
theorem withVars_withVars (h : s.Lacks place) (vars : Vars) {more : Vars}
    (hmore : more.isEmpty = false) :
    (s.withVars place vars).withVars place more = s.withVars place more := by
  by_cases hempty : vars.isEmpty = true
  · rw [Table.eq_empty_of_isEmpty hempty, withVars_empty h]
  · cases place with
    | global => rfl
    | script name =>
      -- A script without variables would have been dropped, but neither is one.
      rw [withVars, withVars, withVars, hmore, if_neg hempty, if_neg Bool.false_ne_true,
        if_neg Bool.false_ne_true, Table.insert_insert]

/-- **The variables of a compartment can be written one after another** to a store that lacks it, if
they are within its limits. -/
theorem completes_assign (hl : s.limits = l.toValue serial) (hplace : IsNamed place)
    (hlacks : s.Lacks place) {vars : Vars} (hwithin : vars.Within l (capacity l place)) :
    Completes s (vars.entries.map (assign place)) (s.withVars place vars) := by
  -- The first of the variables stand in the compartment when the next one is written.
  suffices h : ∀ entries, entries <+: vars.entries →
      Completes s (entries.map (assign place)) (s.withVars place ⟨entries⟩) from
    h vars.entries (List.prefix_refl _)
  intro entries
  induction entries using List.reverseRecOn with
  | nil =>
    intro _
    have hnone : s.withVars place ⟨[]⟩ = s := withVars_empty hlacks
    rw [hnone]
    exact .nil s
  | append_singleton entries e ih =>
    intro hbegins
    have hmem : e ∈ vars.entries :=
      hbegins.subset (List.mem_append_right _ (List.mem_singleton_self e))
    have hlength : entries.length < vars.size := by
      have hle := hbegins.length_le
      rw [List.length_append, List.length_singleton] at hle
      exact hle
    -- The variables written so far are fewer than those of the whole, and these had room.
    have hroom : (entries.length : Int) < capacity l place := by
      have hsize := hwithin.size
      omega
    have hvars : (s.withVars place ⟨entries⟩).vars place = ⟨entries⟩ :=
      vars_withVars_self s place _
    have hlimits : (s.withVars place ⟨entries⟩).limits = l.toValue serial :=
      (limits_withVars _).trans hl
    have houtcome := outcome_assign hlimits hplace e (hwithin.key e hmem) (hwithin.value e hmem)
      (Or.inr (hvars.symm ▸ hroom))
    -- The key is new, so the variable comes to stand last.
    have hinserted := Table.insert_of_begins hbegins hwithin.nodup
    have hnonempty : Table.isEmpty (⟨entries ++ [e]⟩ : Vars) = false :=
      hinserted ▸ Table.isEmpty_insert
    rw [hvars, hinserted, withVars_withVars hlacks _ hnonempty] at houtcome
    rw [List.map_append]
    exact (ih ((List.prefix_append _ _).trans hbegins)).append_singleton houtcome rfl

/-! ### All compartments -/

/-- What writes the variables of scripts, one script after another. -/
def assignScripts (scripts : List (String × Vars)) : List Operation :=
  scripts.flatMap fun e => e.2.entries.map (assign (.script e.1))

/-- What is written are the variables of the store, whichever numbers its views have. -/
theorem replay_snapshot (s : Store) (serial : Nat) :
    (s.snapshot serial).replay =
      s.globals.entries.map (assign .global) ++ assignScripts s.scripts.entries := by
  have hglobals : ((s.snapshot serial).part "global").items =
      s.globals.entries.map fun e => (.text e.1, .text e.2) := rfl
  have hscripts : ((s.snapshot serial).part "scripts").items =
      s.scripts.entries.zipIdx.map fun e =>
        (.text e.1.1, Vars.toView e.1.2 (serial + 3 + e.2)) := rfl
  have hscript (name : String) (vars : Vars) (n : Nat) :
      (vars.toView n).items.map (fun e => Operation.setScript (.text name) e.1 e.2) =
        vars.entries.map (assign (.script name)) := by
    rw [Vars.toView, Value.items, List.map_map]
    rfl
  -- The views of scripts are numbered in order, but their items do not show the numbers.
  rw [Value.replay, hglobals, hscripts, List.map_map, List.flatMap_map, assignScripts]
  refine congrArg₂ _ rfl ?_
  simp only [hscript]
  rw [← List.zipIdx_map_fst 0 s.scripts.entries, List.flatMap_map, List.zipIdx_map_fst]

/-- **The scripts of a well-formed store can be written one after another** to a store that has the
same limits and no scripts. -/
theorem completes_assignScripts (h : s.WellFormed l) (ht : t.limits = l.toValue serial)
    (hnone : t.scripts = .empty) :
    Completes t (assignScripts s.scripts.entries) { t with scripts := s.scripts } := by
  suffices hfirst : ∀ scripts, scripts <+: s.scripts.entries →
      Completes t (assignScripts scripts) { t with scripts := ⟨scripts⟩ } from
    hfirst s.scripts.entries (List.prefix_refl _)
  intro scripts
  induction scripts using List.reverseRecOn with
  | nil =>
    intro _
    have hsame : { t with scripts := ⟨[]⟩ } = t :=
      congrArg (fun scripts => { t with scripts := scripts }) hnone.symm
    rw [hsame]
    exact .nil t
  | append_singleton scripts e ih =>
    intro hbegins
    have hmem : e ∈ s.scripts.entries :=
      hbegins.subset (List.mem_append_right _ (List.mem_singleton_self e))
    have hnamed : IsNamed (.script e.1) := h.named e hmem
    -- The store has no script of this name yet, since names do not come twice.
    have hlacks : Lacks { t with scripts := ⟨scripts⟩ } (.script e.1) :=
      Table.not_contains_of_begins hbegins h.nodup
    have hnonempty : e.2.isEmpty = false := by
      rw [← Bool.not_eq_true, Table.isEmpty_iff]
      exact List.length_pos_iff.mp (h.nonempty e hmem)
    have hscript := completes_assign (s := { t with scripts := ⟨scripts⟩ }) ht hnamed hlacks
      (h.scripts e hmem)
    rw [withVars, hnonempty, if_neg Bool.false_ne_true] at hscript
    dsimp only at hscript
    rw [Table.insert_of_begins hbegins h.nodup] at hscript
    rw [assignScripts, List.flatMap_append, List.flatMap_singleton]
    exact (ih ((List.prefix_append _ _).trans hbegins)).append hscript

/-- **What a snapshot of a well-formed store holds can be written to a new store** with the same
limits, and makes it the same store again. -/
theorem completes_replay (h : s.WellFormed l) (serial number : Nat) :
    Completes (new (l.toValue serial)) (s.snapshot number).replay
      { s with limits := l.toValue serial } := by
  have hnamed : IsNamed .global := trivial
  have hlacks : (new (l.toValue serial)).Lacks .global := rfl
  have hglobals := completes_assign rfl hnamed hlacks h.globals
  rw [replay_snapshot]
  exact hglobals.append (completes_assignScripts h rfl rfl)

end Store

end BoundedVars
