import BoundedVars.Proofs.Session.Calls
import BoundedVars.Proofs.Store.WellFormed

/-!
# A reference for stores

The reference keeps plain lists of keys and values: one for the global variables, and one for each
possible name of a script, empty until something is written.  No list is ever made or dropped.
Writing replaces a value in place or appends a new one while there is room, and otherwise fails;
writing nothing discards.

`Reference.attempt` is what an operation does to the reference, and `Reference.Answers` how the
store answers to a call when it holds what the reference does.  A store complains of an argument
whenever the reference fails, with one exception: a limit is shown to whoever would go past it, and
one of too many digits cannot be (`Reference.Obstacle.category`).
-/

namespace BoundedVars

/-- Keys and values in order. -/
abbrev Assignments := List (String × String)

namespace Assignments

/-- Writes a value: in the place of the one under the same key, or at the end. -/
def assign (key value : String) : Assignments → Assignments
  | [] => [(key, value)]
  | e :: rest => if e.1 = key then (key, value) :: rest else e :: assign key value rest

/-- Removes what is under a key. -/
def discard (key : String) (vars : Assignments) : Assignments :=
  vars.filter fun e => e.1 ≠ key

/-- Writes a value or, when there is none, removes what is under the key.  A new key needs room. -/
def write? (capacity : Int) (key : String) (vars : Assignments) :
    Option String → Option Assignments
  | none => some (discard key vars)
  | some value =>
    if (vars.lookup key).isSome ∨ (vars.length : Int) < capacity then some (assign key value vars)
    else none

/-- As a read-only view. -/
def toView (vars : Assignments) (serial : Nat) : Value :=
  .view serial (vars.map fun e => (.text e.1, .text e.2))

/-- The value under a key; a key that is no text is under none. -/
def read (vars : Assignments) : Value → Option String
  | .text key => vars.lookup key
  | _ => none

end Assignments

/-- The reference: a list of variables for each compartment. -/
structure Reference where
  globals : Assignments
  scripts : String → Assignments

namespace Reference

/-- No variables. -/
def empty : Reference := ⟨[], fun _ => []⟩

/-- The variables of a compartment. -/
def vars (r : Reference) : Compartment → Assignments
  | .global => r.globals
  | .script name => r.scripts name

/-- Other variables in a compartment. -/
def withVars (r : Reference) (place : Compartment) (vars : Assignments) : Reference :=
  match place with
  | .global => { r with globals := vars }
  | .script name =>
    { r with scripts := fun other => if other = name then vars else r.scripts other }

theorem withVars_vars (r : Reference) (place : Compartment) :
    r.withVars place (r.vars place) = r := by
  cases place with
  | global => rfl
  | script name =>
    have hscripts : (fun other => if other = name then r.scripts name else r.scripts other) =
        r.scripts := by
      funext other
      split_ifs with h
      · rw [h]
      · rfl
    rw [withVars, vars, hscripts]

/-- Why something cannot be written: an argument is no good, or it would go past a limit. -/
inductive Obstacle where
  | argument
  | past (limit : Limit)

/-- A limit has no more digits than an integer that is written out can have. -/
def Spells (l : Limits) (limit : Limit) : Prop :=
  (decimal (l.get limit).natAbs).length ≤ Numeral.maxDigits

instance (l : Limits) (limit : Limit) : Decidable (Spells l limit) :=
  inferInstanceAs (Decidable (_ ≤ _))

/-- What a failure of a store is caught by where the reference meets an obstacle. -/
def Obstacle.category (l : Limits) : Obstacle → Category
  | argument => .invalidArgument
  | past limit => if Spells l limit then .invalidArgument else .value

/-- The key that a value is, if it can be one. -/
def key (l : Limits) : Value → Except Obstacle String
  | .text key =>
    if key = "" then throw .argument
    else if (key.length : Int) ≤ l.maxKeySize then return key
    else throw (.past .maxKeySize)
  | _ => throw .argument

/-- What to write: nothing, or the text that a value is, if it can be written. -/
def value (l : Limits) : Value → Except Obstacle (Option String)
  | .none => return none
  | .text value =>
    if (value.length : Int) ≤ l.maxValueSize then return some value
    else throw (.past .maxValueSize)
  | _ => throw .argument

/-- The script that a value names. -/
def script : Value → Except Obstacle Compartment
  | .text name => if name = "" then throw .argument else return .script name
  | _ => throw .argument

/-- Writes to a compartment, if everything is as it should be. -/
def write (l : Limits) (r : Reference) (place : Compartment) (key value : Value) :
    Except Obstacle Reference := do
  let key ← Reference.key l key
  let value ← Reference.value l value
  match (r.vars place).write? (Store.capacity l place) key value with
  | some vars => return r.withVars place vars
  | none => throw (.past (Store.capacityLimit place))

/-- The reference after an operation, if nothing stands in its way. -/
def attempt (l : Limits) (r : Reference) : Store.Operation → Except Obstacle Reference
  | .setGlobal key value => r.write l .global key value
  | .clearGlobals => return r.withVars .global []
  | .setScript script key value => do r.write l (← Reference.script script) key value
  | .clearScript (.text name) => return r.withVars (.script name) []
  | .clearScript _ => return r
  | .clear => return empty

/-- The reference after an operation, whether or not that succeeds. -/
def after (l : Limits) (r : Reference) (operation : Store.Operation) : Reference :=
  (r.attempt l operation).toOption.getD r

/-! ### Answers -/

/-- The variables of the script that a value names; a value that is no text names none. -/
def scriptVars (r : Reference) : Value → Assignments
  | .text name => r.scripts name
  | _ => []

/-- The names of the scripts that have variables, each of them once. -/
def Names (r : Reference) (names : List String) : Prop :=
  names.Nodup ∧ ∀ name, name ∈ names ↔ r.scripts name ≠ []

/-- All variables as a read-only view, the scripts in the order of these names. -/
def toView (r : Reference) (names : List String) (serial : Nat) : Value :=
  .view serial [(.text "global", r.globals.toView (serial + 1)),
    (.text "scripts", .view (serial + 2) (names.zipIdx.map fun (name, i) =>
      (.text name, (r.scripts name).toView (serial + 3 + i))))]

/-- A result is that of an attempt. -/
def Agrees {α : Type} (l : Limits) : Except Obstacle α → Except Failure Unit → Prop
  | .ok _, result => result = .ok ()
  | .error obstacle, result =>
    ∃ failure, result = .error failure ∧ failure.category = obstacle.category l

/-- What an operation ends in: it fails exactly when the reference does, and then for that reason.
Clearing a script never fails in the reference, but a store looks for the script in its table, if
there is one in it, and cannot look for what has no hash. -/
def Ends (l : Limits) (r : Reference) : Store.Operation → Except Failure Unit → Prop
  | .clearScript script, result =>
    match script.unhashable? with
    | none => result = .ok ()
    | some kind =>
      ((∀ name, r.scripts name = []) ∧ result = .ok ()) ∨
      ((∃ name, r.scripts name ≠ []) ∧ result = .error (.unhashable kind))
  | operation, result => Agrees l (r.attempt l operation) result

/-- How a store with the given limits answers to a call when it holds what the reference does.  The
heap is there for contexts. -/
inductive Answers (l : Limits) (serial : Nat) (h : Heap) (r : Reference) :
    Call → Except Failure Result → Prop where
  | update {operation : Store.Operation} {result : Except Failure Unit}
    (hends : r.Ends l operation result) :
    Answers l serial h r (.update operation) (result.map fun _ => .nothing)
  | limits : Answers l serial h r .limits (.ok (.value (l.toValue serial)))
  | getGlobal (key : Value) :
    Answers l serial h r (.getGlobal key) (.ok (.ofText? (r.globals.read key)))
  | getGlobals (n : Nat) : Answers l serial h r .getGlobals (.ok (.value (r.globals.toView n)))
  | getScript (script key : Value) :
    Answers l serial h r (.getScript script key) (.ok (.ofText? ((r.scriptVars script).read key)))
  | getScriptVars (script : Value) (n : Nat) :
    Answers l serial h r (.getScriptVars script) (.ok (.value ((r.scriptVars script).toView n)))
  | scriptNames {names : List String} (hnames : r.Names names) :
    Answers l serial h r .scriptNames (.ok (.datum (.set (names.map .text))))
  | snapshot {names : List String} (hnames : r.Names names) (n : Nat) :
    Answers l serial h r .snapshot (.ok (.value (r.toView names n)))
  | summary {names : List String} (hnames : r.Names names) :
    Answers l serial h r .summary (.ok (.ofText ("VariableStore(global_vars="
      ++ decimal r.globals.length ++ ", scripts=" ++ decimal names.length ++ ")")))
  /-- A call with a context is one with the script of the context. -/
  | ofContext {call resolved : Call} {result : Except Failure Result}
    (hresolved : call.resolved h = .ok resolved) (hanswers : Answers l serial h r resolved result) :
    Answers l serial h r call result
  /-- Without a script there is nothing to do. -/
  | contextFails {call : Call} {failure : Failure} (hresolved : call.resolved h = .error failure) :
    Answers l serial h r call (.error failure)

/-- The reference after a call. -/
def next (l : Limits) (h : Heap) (r : Reference) (call : Call) : Reference :=
  match call.resolved h with
  | .ok (.update operation) => r.after l operation
  | _ => r

end Reference

/-! ### Tables and lists -/

namespace Assignments

variable {key value : String} {vars : Assignments}

theorem assign_of_not_mem (h : key ∉ vars.map (·.1)) :
    assign key value vars = vars ++ [(key, value)] := by
  induction vars with
  | nil => rfl
  | cons e rest ih =>
    rw [List.map_cons, List.mem_cons, not_or] at h
    rw [assign, if_neg (Ne.symm h.1), ih h.2, List.cons_append]

/-- Where no key stands twice, overwriting everything under a key writes one value in place. -/
theorem map_overwrite_eq_assign (hn : (vars.map (·.1)).Nodup) (h : key ∈ vars.map (·.1)) :
    (vars.map fun e => if e.1 == key then (e.1, value) else e) = assign key value vars := by
  induction vars with
  | nil => cases h
  | cons e rest ih =>
    rw [List.map_cons, List.nodup_cons] at hn
    rw [List.map_cons, assign]
    by_cases he : e.1 = key
    · subst he
      have hrest : (rest.map fun d => if d.1 == e.1 then (d.1, value) else d) = rest.map id := by
        apply List.map_congr_left
        intro d hd
        have hne : d.1 ≠ e.1 := fun heq => hn.1 (heq ▸ List.mem_map_of_mem hd)
        rw [if_neg (by simpa using hne), id]
      rw [hrest, List.map_id, if_pos (beq_self_eq_true _), if_pos rfl]
    · rw [List.map_cons, List.mem_cons] at h
      have hmem : key ∈ rest.map (·.1) := h.resolve_left (Ne.symm he)
      rw [if_neg (by simpa using he), if_neg he, ih hn.2 hmem]

end Assignments

namespace Table

variable {t : Vars}

theorem entries_insert (hn : t.keys.Nodup) (key value : String) :
    (t.insert key value).entries = Assignments.assign key value t.entries := by
  cases h : t.contains key with
  | true =>
    rw [entries_insert_of_contains h]
    exact Assignments.map_overwrite_eq_assign hn (contains_iff.mp h)
  | false =>
    rw [entries_insert_of_not_contains h]
    exact (Assignments.assign_of_not_mem (contains_eq_false_iff.mp h)).symm

theorem entries_erase (key : String) :
    (t.erase key).entries = Assignments.discard key t.entries := by
  refine List.filter_congr fun e _ => ?_
  rw [decide_not, beq_eq_decide]

end Table

end BoundedVars
