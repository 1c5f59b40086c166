import BoundedVars.Proofs.Store.Step

/-!
# What operations change and what they announce

Whether anything has changed in a store can be said by look-up alone: some variable is not what it
was (`Store.Differs`).  An operation after which a store differs announces at least one change, and
an operation that announces a change has changed the store, with one exception: writing to a
variable what it holds already is announced, too (`changes_ne_nil_iff`).  Only clearing everything
can announce more than one change (`length_changes_le_one`).

Clearing a script is announced if the script stands in the table.  That there is something to clear
then is an invariant of all stores, whatever their limits are (`Store.Tidy`).
-/

namespace BoundedVars

/-- The change that a notice announces. -/
def Notice.change? : Notice → Option Change
  | .log .. => none
  | .change announced => some announced

/-- The changes that an operation announces. -/
def Outcome.changes (o : Outcome) : List Change :=
  o.notices.filterMap Notice.change?

/-- A message is no change. -/
theorem Outcome.changes_report (store : Store) (severity : Severity) (message : String)
    (changes : List Change) (result : Except Failure Unit) :
    (⟨store, .log severity message :: changes.map .change, result⟩ : Outcome).changes =
      changes := by
  rw [Outcome.changes, List.filterMap_cons, Notice.change?, List.filterMap_map]
  exact List.filterMap_some

namespace Store

variable {s t : Store} {place : Compartment} {key value : Value} {o : Outcome}
  {operation : Operation}

/-- Some variable is not what it was. -/
def Differs (s t : Store) : Prop :=
  ∃ place key, (t.vars place).get? key ≠ (s.vars place).get? key

theorem not_differs_self (s : Store) : ¬Differs s s :=
  fun ⟨_, _, hne⟩ => hne rfl

/-- The variable that an operation is to write and the text for it, if it is to write a text. -/
def Operation.assigned? : Operation → Option (Compartment × String × String)
  | .setGlobal (.text key) (.text value) => some (.global, key, value)
  | .setScript (.text name) (.text key) (.text value) => some (.script name, key, value)
  | _ => none

/-- An operation writes to a variable what it holds already. -/
def Rewrites (s : Store) (operation : Operation) : Prop :=
  ∃ place key value, operation.assigned? = some (place, key, value) ∧
    (s.vars place).get? key = some value ∧ (s.outcome operation).result = .ok ()

/-! ### Scripts in the table have variables -/

/-- All scripts in the table have variables. -/
def Tidy (s : Store) : Prop :=
  ∀ e ∈ s.scripts.entries, e.2.isEmpty = false

theorem tidy_new (limits : Value) : (new limits).Tidy :=
  fun _ he => absurd he List.not_mem_nil

theorem Tidy.eraseScript (h : s.Tidy) (name : String) :
    Tidy { s with scripts := s.scripts.erase name } :=
  fun e he => h e (Table.mem_entries_erase.mp he).1

theorem Tidy.withVars (h : s.Tidy) (place : Compartment) (vars : Vars) :
    (s.withVars place vars).Tidy := by
  cases place with
  | global => exact h
  | script name =>
    rw [Store.withVars]
    split_ifs with hempty
    · exact h.eraseScript name
    · intro e he
      rcases Table.mem_entries_insert he with rfl | he
      · simpa using hempty
      · exact h e he

theorem Step.tidy (h : s.Tidy) (hstep : Step s o) : o.store.Tidy := by
  cases hstep with
  | writing _ hwriting =>
    cases hwriting with
    | refused | rejected | idle => exact h
    | written | removed => exact h.withVars _ _
  | refused | idle | clearedGlobals => exact h
  | clearedScript => exact h.eraseScript _
  | cleared => exact tidy_new s.limits

theorem tidy_after (limits : Value) (operations : List Operation) :
    ((new limits).after operations).Tidy :=
  after_induction (fun _ _ h hstep => hstep.tidy h) operations _ (tidy_new limits)

/-! ### Writing -/

/-- What is written has become of arguments that passed: it is refused, or the value is nothing and
the variable is removed, or the value is a text and put under the key. -/
theorem writeChecked_cases (s : Store) (place : Compartment) (key value : Value) :
    (∃ failure, s.writeChecked place key value = s.refuse failure) ∨
      (∃ k, s.writeChecked place key value = s.remove place k) ∨
      ∃ k v capacity, key = .text k ∧ value = .text v ∧
        s.writeChecked place key value = s.put place k v capacity := by
  unfold writeChecked
  cases hkey : s.checkKey key with
  | error failure => exact Or.inl ⟨failure, rfl⟩
  | ok k =>
    cases hvalue : s.checkValue value with
    | error failure => exact Or.inl ⟨failure, rfl⟩
    | ok checked =>
      simp only [Except.ok_bind, Except.pure_eq_ok]
      rw [write]
      cases s.limits.limit (capacityLimit place) with
      | error failure => exact Or.inl ⟨failure, rfl⟩
      | ok capacity =>
        cases checked with
        | none => exact Or.inr (Or.inl ⟨k, rfl⟩)
        | some v =>
          exact Or.inr (Or.inr ⟨k, v, capacity, (checkKey_eq_ok_iff.mp hkey).1,
            (checkValue_eq_ok_some_iff.mp hvalue).1, rfl⟩)

/-- A variable is put in its place, or else nothing changes and there is a failure. -/
theorem put_cases (s : Store) (place : Compartment) (key value : String) (capacity : Value) :
    s.put place key value capacity =
        accept (s.withVars place ((s.vars place).insert key value))
          [.log .debug (setMessage place key), .change (.set place key value)] ∨
      (s.put place key value capacity).changes = [] ∧
        ∃ failure, (s.put place key value capacity).result = .error failure := by
  unfold put
  dsimp only
  split_ifs
  · exact Or.inl rfl
  · cases capacity.asBound ">=" with
    | error failure => exact Or.inr ⟨rfl, failure, rfl⟩
    | ok bound =>
      dsimp only
      split_ifs
      · -- There is no room: the rejection fails, if only because the limit cannot be shown.
        refine Or.inr ?_
        rw [reject]
        cases bound.text with
        | error failure => exact ⟨rfl, failure, rfl⟩
        | ok shown => exact ⟨rfl, _, rfl⟩
      · exact Or.inl rfl

/-- A variable that holds something else, or nothing, differs once it is written. -/
theorem differs_insert {key value : String} (h : (s.vars place).get? key ≠ some value) :
    Differs s (s.withVars place ((s.vars place).insert key value)) := by
  refine ⟨place, key, ?_⟩
  rw [vars_withVars_self, Table.get?_insert_self]
  exact h.symm

/-- A compartment with variables differs once it has none. -/
theorem differs_of_vars_eq_empty (place : Compartment) (h : (s.vars place).isEmpty = false)
    (hempty : t.vars place = .empty) : Differs s t := by
  obtain ⟨key, value, hfound⟩ := Table.exists_get?_of_not_isEmpty h
  refine ⟨place, key, ?_⟩
  rw [hempty, hfound]
  exact nofun

theorem differs_of_remove_announced {key : String} (h : (s.remove place key).changes ≠ []) :
    Differs s (s.remove place key).store := by
  unfold remove at h ⊢
  dsimp only at h ⊢
  split_ifs at h ⊢ with hkey
  · refine ⟨place, key, ?_⟩
    rw [accept, vars_withVars_self, Table.get?_erase_self]
    -- A removal is announced only if there was something under the key.
    intro hnone
    rw [← Table.isSome_get?, ← hnone] at hkey
    cases hkey
  · exact absurd rfl h

/-- **What is announced of a write has changed the store** or was there already. -/
theorem differs_or_rewrites_writeChecked (h : (s.writeChecked place key value).changes ≠ []) :
    Differs s (s.writeChecked place key value).store ∨
      ∃ k v, key = .text k ∧ value = .text v ∧ (s.vars place).get? k = some v ∧
        (s.writeChecked place key value).result = .ok () := by
  rcases writeChecked_cases s place key value with
    ⟨failure, heq⟩ | ⟨k, heq⟩ | ⟨k, v, capacity, rfl, rfl, heq⟩
  · rw [heq] at h
    exact absurd rfl h
  · rw [heq] at h ⊢
    exact Or.inl (differs_of_remove_announced h)
  · rw [heq] at h ⊢
    rcases put_cases s place k v capacity with hwritten | ⟨hnone, -⟩
    · rw [hwritten]
      by_cases hfound : (s.vars place).get? k = some v
      · exact Or.inr ⟨k, v, rfl, rfl, hfound, rfl⟩
      · exact Or.inl (differs_insert hfound)
    · exact absurd hnone h

/-- A text that was written stands in its place, and that is announced. -/
theorem writeChecked_of_ok {k v : String}
    (hok : (s.writeChecked place (.text k) (.text v)).result = .ok ()) :
    s.writeChecked place (.text k) (.text v) =
      accept (s.withVars place ((s.vars place).insert k v))
        [.log .debug (setMessage place k), .change (.set place k v)] := by
  unfold writeChecked at hok ⊢
  cases hkey : s.checkKey (.text k) with
  | error failure =>
    rw [hkey] at hok
    cases hok
  | ok k' =>
    -- What passes the check of keys is the key itself.
    obtain rfl := Value.text.inj (checkKey_eq_ok_iff.mp hkey).1
    cases hvalue : s.checkValue (.text v) with
    | error failure =>
      rw [hkey, hvalue] at hok
      cases hok
    | ok checked =>
      obtain ⟨bound, -, hchecked⟩ := Except.bind_eq_ok_iff.mp (checkValue_text ▸ hvalue)
      obtain ⟨-, rfl⟩ := ite_throw_eq_ok_iff.mp hchecked
      rw [hkey, hvalue] at hok
      simp only [Except.ok_bind, Except.pure_eq_ok, write] at hok ⊢
      cases hcapacity : s.limits.limit (capacityLimit place) with
      | error failure =>
        rw [hcapacity] at hok
        cases hok
      | ok capacity =>
        rw [hcapacity] at hok
        -- Putting the text in its place is all that is left, and it did not fail.
        refine (put_cases s place k v capacity).resolve_right ?_
        rintro ⟨-, failure, hfails⟩
        exact absurd (hok.symm.trans hfails) nofun

/-! ### All operations -/

/-- Who announces nothing has changed nothing. -/
theorem Conduct.store_eq (h : Conduct s o) (hnone : o.changes = []) : o.store = s := by
  cases h with
  | silent | warns => rfl
  | reports message changes hsame =>
    rw [Outcome.changes_report] at hnone
    exact hsame hnone

theorem changes_ne_nil_of_differs (h : Differs s (s.outcome operation).store) :
    (s.outcome operation).changes ≠ [] := by
  intro hnone
  rw [(step_outcome s operation).conduct.store_eq hnone] at h
  exact not_differs_self s h

/-- An operation that writes a text does so if it succeeds. -/
theorem outcome_of_assigned? {k v : String} (hassigned : operation.assigned? = some (place, k, v))
    (hok : (s.outcome operation).result = .ok ()) :
    s.outcome operation = accept (s.withVars place ((s.vars place).insert k v))
      [.log .debug (setMessage place k), .change (.set place k v)] := by
  unfold Operation.assigned? at hassigned
  split at hassigned
  · cases hassigned
    exact writeChecked_of_ok hok
  · rename_i name key value
    cases hassigned
    rw [outcome, setScript] at hok ⊢
    cases hname : checkScript (.text name) with
    | error failure =>
      rw [hname] at hok
      cases hok
    | ok checked =>
      obtain rfl := Value.text.inj (checkScript_eq_ok_iff.mp hname).1
      rw [hname] at hok
      exact writeChecked_of_ok hok
  · cases hassigned

theorem changes_ne_nil_of_rewrites (h : s.Rewrites operation) :
    (s.outcome operation).changes ≠ [] := by
  obtain ⟨place, key, value, hassigned, -, hok⟩ := h
  rw [outcome_of_assigned? hassigned hok]
  exact List.cons_ne_nil _ _

/-- Writing to a variable what it holds already leaves everything as it is. -/
theorem not_differs_of_rewrites (h : s.Rewrites operation) :
    ¬Differs s (s.outcome operation).store := by
  obtain ⟨place, key, value, hassigned, hfound, hok⟩ := h
  rintro ⟨other, k, hne⟩
  refine hne ?_
  rw [outcome_of_assigned? hassigned hok, accept]
  by_cases hplace : other = place
  · subst hplace
    rw [vars_withVars_self]
    by_cases hk : k = key
    · rw [hk, Table.get?_insert_self, hfound]
    · rw [Table.get?_insert_of_ne _ _ hk]
  · rw [vars_withVars_of_ne s _ hplace]

theorem differs_of_clear_announced (h : s.Tidy) (hchanges : s.clear.changes ≠ []) :
    Differs s s.clear.store := by
  by_cases hglobals : s.globals.isEmpty = true
  · -- Then it was the scripts that were announced, and by tidiness one of them has a variable.
    have hscripts : s.scripts.isEmpty = false := by
      rw [← Bool.not_eq_true]
      intro hscripts
      refine hchanges ?_
      rw [clear, if_pos hglobals, if_pos hscripts]
      rfl
    obtain ⟨name, vars, hfound⟩ := Table.exists_get?_of_not_isEmpty hscripts
    have hvars : (s.vars (.script name)).isEmpty = false := by
      rw [Store.vars, hfound]
      exact h _ (Table.mem_entries_of_get? hfound)
    exact differs_of_vars_eq_empty (.script name) hvars rfl
  · exact differs_of_vars_eq_empty .global (Bool.eq_false_iff.mpr hglobals) rfl

/-- Clearing a script announces nothing unless the script stands in the table. -/
theorem clearScript_cases (s : Store) (script : Value) :
    (s.clearScript script).changes = [] ∨
      ∃ name, s.scripts.contains name = true ∧
        s.clearScript script = accept { s with scripts := s.scripts.erase name }
          [.log .debug (clearedScriptMessage name), .change (.clearedScript name)] := by
  unfold clearScript
  split_ifs
  · exact Or.inl rfl
  · cases script.unhashable? with
    -- The name cannot be looked up, which is a failure.
    | some kind => exact Or.inl rfl
    | none =>
      cases script with
      | text name =>
        dsimp only
        split_ifs with hname
        · exact Or.inr ⟨name, hname, rfl⟩
        · exact Or.inl rfl
      | _ => exact Or.inl rfl

theorem differs_of_clearScript_announced (h : s.Tidy) {script : Value}
    (hchanges : (s.clearScript script).changes ≠ []) :
    Differs s (s.clearScript script).store := by
  obtain ⟨name, hname, hcleared⟩ := (clearScript_cases s script).resolve_left hchanges
  obtain ⟨vars, hfound⟩ := Option.isSome_iff_exists.mp ((Table.isSome_get? _ _).trans hname)
  -- A script that stands in the table of a tidy store has variables.
  have hvars : (s.vars (.script name)).isEmpty = false := by
    rw [Store.vars, hfound]
    exact h _ (Table.mem_entries_of_get? hfound)
  refine differs_of_vars_eq_empty (.script name) hvars ?_
  rw [hcleared, accept, Store.vars, Table.get?_erase_self, Option.getD_none]

/-- **Just what changes a store is announced**, but for writing to a variable what it holds already,
which is announced and changes nothing. -/
theorem changes_ne_nil_iff (h : s.Tidy) (operation : Operation) :
    (s.outcome operation).changes ≠ [] ↔
      Differs s (s.outcome operation).store ∨ s.Rewrites operation := by
  -- That announces something is shown for each operation; the rest holds of all at once.
  refine ⟨fun hchanges => ?_, fun h => h.elim changes_ne_nil_of_differs changes_ne_nil_of_rewrites⟩
  cases operation with
  | setGlobal key value =>
    refine (differs_or_rewrites_writeChecked hchanges).imp_right ?_
    rintro ⟨k, v, rfl, rfl, hfound, hok⟩
    exact ⟨.global, k, v, rfl, hfound, hok⟩
  | clearGlobals =>
    left
    rw [outcome, clearGlobals] at hchanges ⊢
    split_ifs at hchanges ⊢ with hglobals
    · exact absurd rfl hchanges
    · exact differs_of_vars_eq_empty .global (Bool.eq_false_iff.mpr hglobals) rfl
  | setScript script key value =>
    rw [outcome, setScript] at hchanges ⊢
    cases hname : checkScript script with
    | error failure =>
      rw [hname] at hchanges
      exact absurd rfl hchanges
    | ok name =>
      rw [hname] at hchanges
      refine (differs_or_rewrites_writeChecked hchanges).imp_right ?_
      rintro ⟨k, v, rfl, rfl, hfound, hok⟩
      obtain ⟨rfl, -⟩ := checkScript_eq_ok_iff.mp hname
      refine ⟨.script name, k, v, rfl, hfound, ?_⟩
      rw [outcome, setScript, hname]
      exact hok
  | clearScript script => exact Or.inl (differs_of_clearScript_announced h hchanges)
  | clear => exact Or.inl (differs_of_clear_announced h hchanges)

/-- **At most one change is announced**, unless everything is cleared. -/
theorem length_changes_le_one (hclear : operation ≠ .clear) :
    (s.outcome operation).changes.length ≤ 1 := by
  -- A write announces the variable that it sets or removes, and no other.
  have hwriting (place : Compartment) (key value : Value) :
      (s.writeChecked place key value).changes.length ≤ 1 := by
    have h := writing_writeChecked s place key value
    generalize s.writeChecked place key value = o at h
    cases h with
    | refused | rejected | idle => exact Nat.zero_le 1
    | written | removed => exact Nat.le_refl 1
  cases operation with
  | setGlobal key value => exact hwriting .global key value
  | clearGlobals =>
    rw [outcome, clearGlobals]
    split_ifs
    · exact Nat.zero_le 1
    · exact Nat.le_refl 1
  | setScript script key value =>
    rw [outcome, setScript]
    cases checkScript script with
    | error failure => exact Nat.zero_le 1
    | ok name => exact hwriting (.script name) key value
  | clearScript script =>
    rw [outcome]
    rcases clearScript_cases s script with hnone | ⟨name, -, hcleared⟩
    · rw [hnone]
      exact Nat.zero_le 1
    · rw [hcleared]
      exact Nat.le_refl 1
  | clear => exact absurd rfl hclear

end Store

end BoundedVars
