import BoundedVars.Proofs.Except
import BoundedVars.Proofs.Table
import BoundedVars.Store

/-!
# What an operation can do to a store

`Store.Step` lists everything that can become of a store when an operation is carried out on it,
with what is known about the arguments in each case, and `step_outcome` says that the list is
complete.  `Store.Writing` is the part of it that concerns a single variable.  Facts about all
operations are proved by going through the list.  What an operation tells of it is always in one of
three manners (`Step.conduct`).

`Store.after` carries out operations one after another; a property of stores that every step keeps
is kept by it, too (`after_induction`).
-/

namespace BoundedVars.Store

variable {s : Store} {place : Compartment} {key value : String}

/-! ### Arguments that pass -/

/-- A key that a store takes: not empty, and not over the bound. -/
def FitsKey (s : Store) (key : String) : Prop :=
  key ≠ "" ∧ ∃ bound, s.lengthBound .maxKeySize = .ok bound ∧ bound.exceededBy key.length = false

/-- A text that a store takes as a value. -/
def FitsValue (s : Store) (value : String) : Prop :=
  ∃ bound, s.lengthBound .maxValueSize = .ok bound ∧ bound.exceededBy value.length = false

/-- A compartment has room for one more variable. -/
def HasRoom (s : Store) (place : Compartment) : Prop :=
  ∃ capacity bound, s.limits.limit (capacityLimit place) = .ok capacity ∧
    capacity.asBound ">=" = .ok bound ∧ bound.reachedBy (s.vars place).size = false

/-- A check that can only go wrong, and does at once where the condition holds. -/
theorem ite_throw_eq_ok_iff {α : Type} {condition : Prop} [Decidable condition]
    {shown : Except Failure String} {failure : String → Failure} {a b : α} :
    (if condition then (do throw (failure (← shown))) else return a : Except Failure α) = .ok b ↔
      ¬condition ∧ a = b := by
  by_cases h : condition
  · simp only [h, not_true_eq_false, false_and, iff_false]
    intro hok
    obtain ⟨text, -, hthrow⟩ := Except.bind_eq_ok_iff.mp hok
    cases hthrow
  · simp only [h, not_false_eq_true, true_and]
    exact ⟨fun hok => Except.ok.inj hok, fun heq => congrArg Except.ok heq⟩

theorem checkKey_text (h : key ≠ "") :
    s.checkKey (.text key) = (s.lengthBound .maxKeySize >>= fun bound =>
      if bound.exceededBy key.length then do throw (.keyTooLong key (← bound.text))
      else return key) := by
  simp only [checkKey, if_neg h]
  rfl

theorem checkKey_eq_ok_iff {v : Value} :
    s.checkKey v = .ok key ↔ v = .text key ∧ s.FitsKey key := by
  cases v with
  | text k =>
    by_cases hk : k = ""
    · subst hk
      constructor
      · intro h
        cases h
      · rintro ⟨h, hne, -⟩
        exact absurd (Value.text.inj h).symm hne
    · rw [checkKey_text hk, Except.bind_eq_ok_iff]
      constructor
      · rintro ⟨bound, hb, h⟩
        obtain ⟨he, rfl⟩ := ite_throw_eq_ok_iff.mp h
        exact ⟨rfl, hk, bound, hb, by simpa using he⟩
      · rintro ⟨h, -, bound, hb, he⟩
        obtain rfl := Value.text.inj h
        exact ⟨bound, hb, ite_throw_eq_ok_iff.mpr ⟨by simp [he], rfl⟩⟩
  | _ => simp [checkKey]

theorem checkValue_text :
    s.checkValue (.text value) = (s.lengthBound .maxValueSize >>= fun bound =>
      if bound.exceededBy value.length then do throw (.valueTooLong (← bound.text))
      else return some value) :=
  rfl

theorem checkValue_eq_ok_some_iff {v : Value} :
    s.checkValue v = .ok (some value) ↔ v = .text value ∧ s.FitsValue value := by
  cases v with
  | text t =>
    rw [checkValue_text, Except.bind_eq_ok_iff]
    constructor
    · rintro ⟨bound, hb, h⟩
      obtain ⟨he, hvalue⟩ := ite_throw_eq_ok_iff.mp h
      obtain rfl := Option.some.inj hvalue
      exact ⟨rfl, bound, hb, by simpa using he⟩
    · rintro ⟨h, bound, hb, he⟩
      obtain rfl := Value.text.inj h
      exact ⟨bound, hb, ite_throw_eq_ok_iff.mpr ⟨by simp [he], rfl⟩⟩
  | _ => simp [checkValue]

theorem checkScript_eq_ok_iff {v : Value} {name : String} :
    checkScript v = .ok name ↔ v = .text name ∧ name ≠ "" := by
  cases v with
  | text t =>
    by_cases h : t = ""
    · subst h
      constructor
      · intro h
        cases h
      · rintro ⟨h, hne⟩
        exact absurd (Value.text.inj h).symm hne
    · rw [checkScript, if_neg h]
      constructor
      · intro hok
        obtain rfl := Except.ok.inj hok
        exact ⟨rfl, h⟩
      · rintro ⟨ht, -⟩
        obtain rfl := Value.text.inj ht
        rfl
  | _ => simp [checkScript]

/-! ### The steps -/

/-- A compartment that variables can be written to: a script needs a name. -/
def IsNamed : Compartment → Prop
  | .global => True
  | .script name => name ≠ ""

/-- A failure for want of room. -/
def IsFull : Failure → Prop
  | .full .. => True
  | _ => False

/-- What can become of a store when something is written under a key of a compartment. -/
inductive Writing (s : Store) (place : Compartment) : Value → Outcome → Prop where
  /-- The arguments or the limits are no good. -/
  | refused {key : Value} {failure : Failure} (h : ¬IsFull failure) :
    Writing s place key (s.refuse failure)
  /-- There is no room for another variable, and the bound can be spelled. -/
  | rejected (key : String) {bound : Bound} {shown : String} (h : bound.text = .ok shown) :
    Writing s place (.text key)
      ⟨s, [.log .warning (rejectedMessage place key shown)], .error (.full place shown)⟩
  /-- There is nothing to remove. -/
  | idle {key : Value} : Writing s place key (s.accept [])
  | written {key value : String} (hkey : s.FitsKey key) (hvalue : s.FitsValue value)
    (hroom : (s.vars place).contains key = true ∨ s.HasRoom place) :
    Writing s place (.text key) (accept (s.withVars place ((s.vars place).insert key value))
      [.log .debug (setMessage place key), .change (.set place key value)])
  | removed {key : String} (h : (s.vars place).contains key = true) :
    Writing s place (.text key) (accept (s.withVars place ((s.vars place).erase key))
      [.log .debug (removedMessage place key), .change (.removed place key)])

/-- What can become of a store when an operation is carried out on it. -/
inductive Step (s : Store) : Outcome → Prop where
  | writing {place : Compartment} {key : Value} {o : Outcome} (hplace : IsNamed place)
    (h : Writing s place key o) : Step s o
  /-- The arguments are no good. -/
  | refused (failure : Failure) : Step s (s.refuse failure)
  /-- There is nothing to do. -/
  | idle : Step s (s.accept [])
  | clearedGlobals (h : s.globals.isEmpty = false) :
    Step s (accept { s with globals := .empty }
      [.log .debug "Cleared global variables", .change .clearedGlobals])
  | clearedScript {name : String} (h : s.scripts.contains name = true) :
    Step s (accept { s with scripts := s.scripts.erase name }
      [.log .debug (clearedScriptMessage name), .change (.clearedScript name)])
  | cleared : Step s s.clear

/-! #### Checks never fail for want of room -/

theorem not_isFull_of_limit {source : Value} {which : Limit} {failure : Failure}
    (h : source.limit which = .error failure) : ¬IsFull failure := by
  unfold Value.limit at h
  split at h
  · cases h
  · obtain rfl := Except.error.inj h
    exact id

theorem not_isFull_of_asBound {v : Value} {sign : String} {failure : Failure}
    (h : v.asBound sign = .error failure) : ¬IsFull failure := by
  unfold Value.asBound at h
  split at h
  · cases h
  · obtain rfl := Except.error.inj h
    exact id

theorem not_isFull_of_lengthBound {which : Limit} {failure : Failure}
    (h : s.lengthBound which = .error failure) : ¬IsFull failure := by
  rw [lengthBound, Except.bind_eq_error_iff] at h
  rcases h with h | ⟨capacity, -, h⟩
  · exact not_isFull_of_limit h
  · exact not_isFull_of_asBound h

/-- A bound that cannot be spelled is an integer of too many digits. -/
theorem eq_integerTooLong_of_text {bound : Bound} {failure : Failure}
    (h : bound.text = .error failure) : failure = .integerTooLong := by
  cases bound with
  | int n =>
    rw [Bound.text, writtenInteger] at h
    split_ifs at h
    exact (Except.error.inj h).symm
  | bool | float => cases h

theorem not_isFull_of_text {bound : Bound} {failure : Failure}
    (h : bound.text = .error failure) : ¬IsFull failure := by
  obtain rfl := eq_integerTooLong_of_text h
  exact id

/-- What stands in place of a failure that cannot be put into words is no want of room, either. -/
theorem not_isFull_of_throw {α : Type} {bound : Bound} {failure : String → Failure}
    {thrown : Failure} (hfull : ∀ shown, ¬IsFull (failure shown))
    (h : (do throw (failure (← bound.text)) : Except Failure α) = .error thrown) :
    ¬IsFull thrown := by
  rw [Except.bind_eq_error_iff] at h
  rcases h with h | ⟨shown, -, h⟩
  · exact not_isFull_of_text h
  · obtain rfl := Except.error.inj h
    exact hfull shown

theorem not_isFull_of_checkKey {v : Value} {failure : Failure}
    (h : s.checkKey v = .error failure) : ¬IsFull failure := by
  cases v with
  | text k =>
    by_cases hk : k = ""
    · subst hk
      obtain rfl := Except.error.inj h
      exact id
    · rw [checkKey_text hk, Except.bind_eq_error_iff] at h
      rcases h with h | ⟨bound, -, h⟩
      · exact not_isFull_of_lengthBound h
      · split_ifs at h
        · exact not_isFull_of_throw (fun _ => id) h
        · cases h
  | _ =>
    obtain rfl := Except.error.inj h
    exact id

theorem not_isFull_of_checkValue {v : Value} {failure : Failure}
    (h : s.checkValue v = .error failure) : ¬IsFull failure := by
  cases v with
  | none => cases h
  | text t =>
    rw [checkValue_text, Except.bind_eq_error_iff] at h
    rcases h with h | ⟨bound, -, h⟩
    · exact not_isFull_of_lengthBound h
    · split_ifs at h
      · exact not_isFull_of_throw (fun _ => id) h
      · cases h
  | _ =>
    obtain rfl := Except.error.inj h
    exact id

/-! #### Every operation takes one of the steps -/

theorem writing_reject (key : String) (bound : Bound) :
    Writing s place (.text key) (s.reject place key bound) := by
  unfold reject
  cases hshown : bound.text with
  | error failure => exact .refused (not_isFull_of_text hshown)
  | ok shown => exact .rejected key hshown

theorem writing_put {capacity : Value} (hkey : s.FitsKey key) (hvalue : s.FitsValue value)
    (hcap : s.limits.limit (capacityLimit place) = .ok capacity) :
    Writing s place (.text key) (s.put place key value capacity) := by
  unfold put
  dsimp only
  split_ifs with hc
  · exact .written hkey hvalue (Or.inl hc)
  · cases hb : capacity.asBound ">=" with
    | error failure => exact .refused (not_isFull_of_asBound hb)
    | ok bound =>
      dsimp only
      split_ifs with hr
      · exact writing_reject key bound
      · exact .written hkey hvalue (Or.inr ⟨capacity, bound, hcap, hb, by simpa using hr⟩)

theorem writing_remove : Writing s place (.text key) (s.remove place key) := by
  unfold remove
  dsimp only
  split_ifs with hc
  · exact .removed hc
  · exact .idle

theorem writing_write {value : Option String} (hkey : s.FitsKey key)
    (hvalue : ∀ text, value = some text → s.FitsValue text) :
    Writing s place (.text key) (s.write place key value) := by
  unfold write
  cases hcap : s.limits.limit (capacityLimit place) with
  | error failure => exact .refused (not_isFull_of_limit hcap)
  | ok capacity =>
    cases value with
    | none => exact writing_remove
    | some text => exact writing_put hkey (hvalue text rfl) hcap

theorem writing_writeChecked (s : Store) (place : Compartment) (key value : Value) :
    Writing s place key (s.writeChecked place key value) := by
  unfold writeChecked
  cases hk : s.checkKey key with
  | error failure => exact .refused (not_isFull_of_checkKey hk)
  | ok k =>
    cases hv : s.checkValue value with
    | error failure => exact .refused (not_isFull_of_checkValue hv)
    | ok v =>
      obtain ⟨rfl, hfits⟩ := checkKey_eq_ok_iff.mp hk
      refine writing_write hfits fun text ht => ?_
      rw [ht] at hv
      exact (checkValue_eq_ok_some_iff.mp hv).2

/-- A script without a name is refused like a key that is no good. -/
theorem writing_setScript (s : Store) (name : String) (key value : Value) :
    Writing s (.script name) key (s.setScript (.text name) key value) := by
  rw [setScript]
  cases h : checkScript (.text name) with
  | error failure =>
    refine .refused ?_
    rw [checkScript] at h
    split_ifs at h
    · obtain rfl := Except.error.inj h
      exact id
    · cases h
  | ok checked =>
    obtain ⟨hname, -⟩ := checkScript_eq_ok_iff.mp h
    obtain rfl := Value.text.inj hname
    exact writing_writeChecked s (.script name) key value

theorem step_clearScript {script : Value} : Step s (s.clearScript script) := by
  unfold clearScript
  split_ifs
  · exact .idle
  · cases script.unhashable? with
    | some kind => exact .refused _
    | none =>
      cases script with
      | text name =>
        dsimp only
        split_ifs with hc
        · exact .clearedScript hc
        · exact .idle
      | _ => exact .idle

/-- **The steps are all there is**: whatever the operation and its arguments. -/
theorem step_outcome (s : Store) (operation : Operation) : Step s (s.outcome operation) := by
  cases operation with
  | setGlobal key value =>
    have hplace : IsNamed .global := trivial
    exact .writing hplace (writing_writeChecked s .global key value)
  | clearGlobals =>
    rw [outcome, clearGlobals]
    split_ifs with h
    · exact .idle
    · exact .clearedGlobals (by simpa using h)
  | setScript script key value =>
    rw [outcome, setScript]
    cases h : checkScript script with
    | error failure => exact .refused failure
    | ok name =>
      have hplace : IsNamed (.script name) := (checkScript_eq_ok_iff.mp h).2
      exact .writing hplace (writing_writeChecked s (.script name) key value)
  | clearScript script => exact step_clearScript
  | clear => exact .cleared

/-! ### One operation after another -/

/-- The store after operations, whatever they tell and whether or not they succeed. -/
def after (s : Store) (operations : List Operation) : Store :=
  operations.foldl (fun s operation => (s.outcome operation).store) s

@[simp] theorem after_nil : s.after [] = s := rfl

@[simp] theorem after_cons (operation : Operation) (rest : List Operation) :
    s.after (operation :: rest) = (s.outcome operation).store.after rest := rfl

theorem after_append (first second : List Operation) :
    s.after (first ++ second) = (s.after first).after second :=
  List.foldl_append

/-- What every step keeps is kept by any number of operations. -/
theorem after_induction {P : Store → Prop} (hstep : ∀ s o, P s → Step s o → P o.store)
    (operations : List Operation) : ∀ s : Store, P s → P (s.after operations) := by
  induction operations with
  | nil => exact fun s h => h
  | cons operation rest ih => exact fun s h => ih _ (hstep s _ h (step_outcome s operation))

@[simp] theorem limits_withVars (vars : Vars) : (s.withVars place vars).limits = s.limits := by
  cases place <;> rfl

/-- No step changes the limits. -/
theorem Step.limits_eq {o : Outcome} (h : Step s o) : o.store.limits = s.limits := by
  cases h with
  | writing _ h =>
    cases h with
    | written | removed => exact limits_withVars _
    | _ => rfl
  | _ => rfl

/-- How an operation conducts itself: it changes nothing and says nothing, or it warns and fails, or
it says what it has done, announces the changes, and succeeds. -/
inductive Conduct (s : Store) : Outcome → Prop where
  | silent (result : Except Failure Unit) : Conduct s ⟨s, [], result⟩
  | warns (message : String) (failure : Failure) :
    Conduct s ⟨s, [.log .warning message], .error failure⟩
  | reports {t : Store} (message : String) (changes : List Change) (h : changes = [] → t = s) :
    Conduct s ⟨t, .log .debug message :: changes.map .change, .ok ()⟩

theorem conduct_clear (s : Store) : Conduct s s.clear := by
  have hnotices : (if s.globals.isEmpty then [] else [Notice.change .clearedGlobals]) ++
      (if s.scripts.isEmpty then [] else [Notice.change .clearedScripts]) =
      ((if s.globals.isEmpty then [] else [Change.clearedGlobals]) ++
        (if s.scripts.isEmpty then [] else [Change.clearedScripts])).map Notice.change := by
    split_ifs <;> rfl
  rw [clear, accept, hnotices]
  refine .reports _ _ fun hnone => ?_
  -- A tier that is not announced was empty before.
  rw [List.append_eq_nil_iff] at hnone
  split_ifs at hnone with hglobals hscripts
  · rw [← Table.eq_empty_of_isEmpty hglobals, ← Table.eq_empty_of_isEmpty hscripts]
  · cases hnone.2
  · cases hnone.1
  · cases hnone.1

theorem Step.conduct {o : Outcome} (h : Step s o) : Conduct s o := by
  cases h with
  | writing _ h =>
    cases h with
    | refused failure => exact .silent _
    | rejected => exact .warns _ _
    | idle => exact .silent _
    | written => exact .reports _ [_] nofun
    | removed => exact .reports _ [_] nofun
  | refused failure => exact .silent _
  | idle => exact .silent _
  | clearedGlobals => exact .reports _ [_] nofun
  | clearedScript => exact .reports _ [_] nofun
  | cleared => exact conduct_clear s

/-- A message that does not just say what was done is a warning, and all there is to tell. -/
theorem Step.severity_eq {o : Outcome} (h : Step s o) {severity : Severity} {message : String}
    (hmem : .log severity message ∈ o.notices) :
    severity = .debug ∨ severity = .warning ∧ o.notices = [.log .warning message] := by
  cases h.conduct with
  | silent => cases hmem
  | warns =>
    obtain ⟨rfl, rfl⟩ := Notice.log.inj (List.mem_singleton.mp hmem)
    exact Or.inr ⟨rfl, rfl⟩
  | reports =>
    -- Behind the message there are only changes.
    simp only [List.mem_cons, Notice.log.injEq, List.mem_map, reduceCtorEq, and_false, exists_false,
      or_false] at hmem
    exact Or.inl hmem.1

theorem limits_after (operations : List Operation) : (s.after operations).limits = s.limits :=
  after_induction (P := fun t => t.limits = s.limits) (fun _ _ ht h => h.limits_eq.trans ht)
    operations s rfl

end BoundedVars.Store
