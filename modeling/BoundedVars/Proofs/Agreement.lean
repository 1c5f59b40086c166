import BoundedVars.Proofs.Mirror

/-!
# Mirrors that agree

A mirror may have lost variables of scripts and still agree with another one on the rest, while both
go through the same changes.  `Mirror.Stable S` says that `S`, some way of comparing the scripts of
two mirrors, is kept by all changes, and `Mirror.Agree S` that two mirrors compare in this way and
show the same global variables.  Scripts can be compared as a whole (`stable_eq`) or in the value of
a variable (`stable_value_eq`), which may be missing from one side (`stable_value_none_or_eq`).
-/

namespace BoundedVars

/-- What a change makes of the value of a variable of a script. -/
def Change.rewrite (name key : String) (value : Option String) : Change → Option String
  | .set (.script other) k v => if other = name ∧ k = key then some v else value
  | .removed (.script other) k => if other = name ∧ k = key then none else value
  | .clearedScript other => if other = name then none else value
  | .clearedScripts => none
  | .set .global .. | .removed .global .. | .clearedGlobals => value

/-- A change makes nothing of what is not there, or the same of everything. -/
theorem Change.rewrite_none (name key : String) (value : Option String) (change : Change) :
    change.rewrite name key none = none ∨
      change.rewrite name key none = change.rewrite name key value := by
  unfold rewrite
  split
  all_goals first
    | split_ifs <;> simp
    | simp

namespace Mirror

variable {S : Table String Vars → Table String Vars → Prop} {m other : Mirror}

/-- Some way of comparing scripts that changes keep. -/
def Stable (S : Table String Vars → Table String Vars → Prop) : Prop :=
  ∀ (m other : Mirror) (change : Change), S m.scripts other.scripts →
    S (m.apply change).scripts (other.apply change).scripts

/-- Two mirrors show the same global variables, and their scripts compare in some way. -/
structure Agree (S : Table String Vars → Table String Vars → Prop) (m other : Mirror) : Prop where
  globals_eq : m.globals = other.globals
  scripts : S m.scripts other.scripts

theorem Agree.apply (h : Agree S m other) (hS : Stable S) (change : Change) :
    Agree S (m.apply change) (other.apply change) where
  globals_eq := by
    cases change with
    | set place => cases place <;> simp [Mirror.apply, h.globals_eq]
    | removed place => cases place <;> simp [Mirror.apply, h.globals_eq]
    | _ => simp [Mirror.apply, h.globals_eq]
  scripts := hS m other change h.scripts

theorem Agree.foldl (h : Agree S m other) (hS : Stable S) (changes : List Change) :
    Agree S (changes.foldl Mirror.apply m) (changes.foldl Mirror.apply other) := by
  induction changes generalizing m other with
  | nil => exact h
  | cons change rest ih => exact ih (h.apply hS change)

theorem stable_true : Stable fun _ _ => True :=
  fun _ _ _ _ => trivial

theorem stable_eq : Stable Eq := by
  intro m other change h
  -- A change looks at the scripts of a mirror only through their variables.
  have h (name : String) : m.scriptVars name = other.scriptVars name := by
    rw [scriptVars, scriptVars, h]
  cases change with
  | set place => cases place <;> simp [Mirror.apply, *]
  | removed place => cases place <;> simp [Mirror.apply, *]
  | _ => simp [Mirror.apply, *]

/-- The value that a variable of a script has. -/
def valueOf (name key : String) (scripts : Table String Vars) : Option String :=
  ((scripts.get? name).getD .empty).get? key

theorem valueOf_apply (m : Mirror) (change : Change) (name key : String) :
    valueOf name key (m.apply change).scripts =
      change.rewrite name key (valueOf name key m.scripts) := by
  -- To a mirror happens what happens to the store that it would be the mirror of.
  let store : Store := ⟨.none, m.globals, m.scripts⟩
  have hwritten (other : String) (vars : Vars) :
      valueOf name key (store.withVars (.script other) vars).mirror.scripts =
        if other = name then vars.get? key else valueOf name key m.scripts := by
    have hvars (s : Store) : valueOf name key s.mirror.scripts = (s.vars (.script name)).get? key :=
      rfl
    rw [hvars]
    split_ifs with h
    · rw [h, Store.vars_withVars_self]
    · rw [Store.vars_withVars_of_ne _ _ fun heq => h (Compartment.script.inj heq).symm]
      rfl
  cases change with
  | set place k v =>
    cases place with
    | global => rfl
    | script other =>
      have happly : m.apply (.set (.script other) k v) = (store.withVars (.script other)
          ((store.vars (.script other)).insert k v)).mirror :=
        (Store.mirror_withVars_insert store _ k v).symm
      rw [happly, hwritten, Table.get?_insert, Change.rewrite, ite_and]
      split_ifs with h
      · rfl
      · rw [← h]
        rfl
      · rfl
  | removed place k =>
    cases place with
    | global => rfl
    | script other =>
      have happly : m.apply (.removed (.script other) k) = (store.withVars (.script other)
          ((store.vars (.script other)).erase k)).mirror :=
        (Store.mirror_withVars_erase store _ k).symm
      rw [happly, hwritten, Table.get?_erase, Change.rewrite, ite_and]
      split_ifs with h
      · rfl
      · rw [← h]
        rfl
      · rfl
  | clearedScript other =>
    rw [Mirror.apply, Change.rewrite, valueOf, Table.get?_erase]
    split_ifs <;> rfl
  | _ => rfl

/-- A variable that has the same value goes on having it. -/
theorem stable_value_eq (name key : String) :
    Stable fun scripts others => valueOf name key scripts = valueOf name key others := by
  intro m other change h
  rw [valueOf_apply, valueOf_apply, h]

/-- A variable that has the same value, or none, goes on doing so. -/
theorem stable_value_none_or_eq (name key : String) :
    Stable fun scripts others =>
      valueOf name key scripts = none ∨ valueOf name key scripts = valueOf name key others := by
  intro m other change h
  rw [valueOf_apply, valueOf_apply]
  rcases h with h | h
  · rw [h]
    exact change.rewrite_none name key _
  · exact Or.inr (by rw [h])

end Mirror

end BoundedVars
