import BoundedVars.Proofs.Reference
import BoundedVars.Proofs.Store.Compartments

/-!
# Stores refine the reference

`Represents` says that a store holds what the reference does.  A new store represents the empty
reference (`Represents.new`), and an operation comes out on the store as it does on the reference,
which the store still represents afterwards (`Represents.ends`, `Represents.after`).  That scripts
without variables are dropped from the table of a store does not show.
-/

namespace BoundedVars

/-! ### A store and its reference -/

/-- A store holds what the reference does. -/
def Shows (s : Store) (r : Reference) : Prop :=
  ∀ place, (s.vars place).entries = r.vars place

/-- A store with integer limits that holds what the reference does. -/
structure Represents (l : Limits) (serial : Nat) (s : Store) (r : Reference) : Prop where
  limits : s.limits = l.toValue serial
  wellFormed : s.WellFormed l
  shows : Shows s r

/-- A check comes out as it does in the reference. -/
def Follows {α : Type} (l : Limits) (check : Except Failure α) :
    Except Reference.Obstacle α → Prop
  | .ok a => check = .ok a
  | .error obstacle => ∃ failure, check = .error failure ∧ failure.category = obstacle.category l

/-- An operation comes out as it does in the reference; if it fails it changes nothing. -/
def Outcome.Follows (l : Limits) (s : Store) (o : Outcome)
    (attempt : Except Reference.Obstacle Reference) : Prop :=
  Reference.Agrees l attempt o.result ∧
    match attempt with
    | .ok r => Shows o.store r
    | .error _ => o.store = s

namespace Outcome.Follows

variable {l : Limits} {s : Store} {r : Reference} {o : Outcome}
  {attempt : Except Reference.Obstacle Reference}

theorem agrees (h : o.Follows l s attempt) : Reference.Agrees l attempt o.result :=
  h.1

theorem shows (h : o.Follows l s attempt) (hshows : Shows s r) :
    Shows o.store (attempt.toOption.getD r) := by
  cases attempt with
  | ok _ => exact h.2
  | error _ =>
    rw [h.2]
    exact hshows

end Outcome.Follows

namespace Represents

variable {l : Limits} {serial : Nat} {s : Store} {r : Reference} {place : Compartment}

theorem new (l : Limits) (serial : Nat) : Represents l serial (.new (l.toValue serial)) .empty where
  limits := rfl
  wellFormed := Store.wellFormed_new
  shows place := by cases place <;> rfl

/-! #### Arguments -/

/-- Whoever would go past a limit is told the limit, if it can be spelled. -/
theorem follows_past {α : Type} (limit : Limit) {failure : String → Failure}
    (hargument : ∀ shown, (failure shown).category = .invalidArgument) :
    Follows (α := α) l (do throw (failure (← (Bound.int (l.get limit)).text)))
      (.error (.past limit)) := by
  rw [Follows, Reference.Obstacle.category]
  by_cases hspells : Reference.Spells l limit
  · have htext : (Bound.int (l.get limit)).text = .ok (signedDecimal (l.get limit)) :=
      if_neg (Nat.not_lt.mpr hspells)
    rw [htext, if_pos hspells]
    exact ⟨_, rfl, hargument _⟩
  · have htext : (Bound.int (l.get limit)).text = .error .integerTooLong :=
      if_pos (Nat.lt_of_not_le hspells)
    rw [htext, if_neg hspells]
    exact ⟨_, rfl, rfl⟩

theorem follows_checkKey (hl : s.limits = l.toValue serial) (v : Value) :
    Follows l (s.checkKey v) (Reference.key l v) := by
  cases v with
  | text key =>
    rw [Reference.key]
    split_ifs with hempty hshort
    · subst hempty
      exact ⟨.keyMissing, rfl, rfl⟩
    · have hfits : ¬(l.get .maxKeySize < key.length) := Int.not_lt.mpr hshort
      rw [Store.checkKey_text hempty, Store.lengthBound_eq hl, Except.ok_bind, Bound.exceededBy_int,
        decide_eq_false hfits]
      rfl
    · -- The complaint shows the limit, if it can be written out.
      have hexceeds : l.get .maxKeySize < key.length := Int.not_le.mp hshort
      rw [Store.checkKey_text hempty, Store.lengthBound_eq hl, Except.ok_bind, Bound.exceededBy_int,
        decide_eq_true hexceeds]
      exact follows_past .maxKeySize fun _ => rfl
  | none => exact ⟨.keyMissing, rfl, rfl⟩
  | _ => exact ⟨_, rfl, rfl⟩

theorem follows_checkValue (hl : s.limits = l.toValue serial) (v : Value) :
    Follows l (s.checkValue v) (Reference.value l v) := by
  cases v with
  | text value =>
    rw [Reference.value, Store.checkValue_text, Store.lengthBound_eq hl, Except.ok_bind,
      Bound.exceededBy_int]
    by_cases hshort : (value.length : Int) ≤ l.maxValueSize
    · have hfits : ¬(l.get .maxValueSize < value.length) := Int.not_lt.mpr hshort
      rw [decide_eq_false hfits, if_pos hshort]
      rfl
    · have hexceeds : l.get .maxValueSize < value.length := Int.not_le.mp hshort
      rw [decide_eq_true hexceeds, if_neg hshort]
      exact follows_past .maxValueSize fun _ => rfl
  | none => rfl
  | _ => exact ⟨_, rfl, rfl⟩

theorem follows_checkScript (v : Value) :
    Follows l ((Store.checkScript v).map Compartment.script) (Reference.script v) := by
  cases v with
  | text name =>
    rw [Reference.script, Store.checkScript]
    split_ifs
    · exact ⟨_, rfl, rfl⟩
    · rfl
  | none => exact ⟨.scriptMissing, rfl, rfl⟩
  | _ => exact ⟨_, rfl, rfl⟩

/-! #### Operations -/

theorem Shows.withVars (h : Shows s r) (place : Compartment) {vars : Vars} {list : Assignments}
    (hvars : vars.entries = list) : Shows (s.withVars place vars) (r.withVars place list) := by
  intro other
  by_cases hother : other = place
  · subst hother
    rw [Store.vars_withVars_self, hvars]
    cases other <;> simp [Reference.withVars, Reference.vars]
  · rw [Store.vars_withVars_of_ne s vars hother, h other]
    cases place <;> cases other <;> simp_all [Reference.withVars, Reference.vars]

/-- The result of writing in the reference: without room it has none. -/
def written (l : Limits) (r : Reference) (place : Compartment) (key : String)
    (value : Option String) : Except Reference.Obstacle Reference :=
  match (r.vars place).write? (Store.capacity l place) key value with
  | some vars => .ok (r.withVars place vars)
  | none => .error (.past (Store.capacityLimit place))

/-- Who finds no room is told the capacity, if it can be spelled. -/
theorem follows_reject (l : Limits) (s : Store) (place : Compartment) (key : String) :
    (s.reject place key (.int (Store.capacity l place))).Follows l s
      (.error (.past (Store.capacityLimit place))) := by
  have hcategory : Follows (α := Unit) l
      (do throw (.full place (← (Bound.int (l.get (Store.capacityLimit place))).text)))
      (.error (.past (Store.capacityLimit place))) :=
    follows_past (Store.capacityLimit place) fun _ => rfl
  rw [Store.get_capacityLimit] at hcategory
  unfold Store.reject
  cases hshown : (Bound.int (Store.capacity l place)).text with
  | error failure =>
    rw [hshown] at hcategory
    exact ⟨hcategory, rfl⟩
  | ok shown =>
    rw [hshown] at hcategory
    exact ⟨hcategory, rfl⟩

theorem follows_put (h : Represents l serial s r) (place : Compartment) (key value : String) :
    (s.put place key value (.int (Store.capacity l place))).Follows l s
      (written l r place key (some value)) := by
  have hn := (h.wellFormed.vars_within place).nodup
  have hfound : ((r.vars place).lookup key).isSome = (s.vars place).contains key := by
    rw [← h.shows place, ← Table.get?_eq_lookup, Table.isSome_get?]
  have hwritten : Shows (s.withVars place ((s.vars place).insert key value))
      (r.withVars place (Assignments.assign key value (r.vars place))) :=
    Shows.withVars h.shows place (by rw [Table.entries_insert hn, h.shows place])
  have hsize : ((s.vars place).size : Int) = (r.vars place).length := by
    rw [← h.shows place]
    rfl
  rw [written, Assignments.write?, hfound, ← hsize, Store.put_int]
  split_ifs
  · exact ⟨rfl, hwritten⟩
  · exact follows_reject l s place key

theorem follows_remove (h : Represents l serial s r) (place : Compartment) (key : String) :
    (s.remove place key).Follows l s (written l r place key none) := by
  have herased : Shows (s.withVars place ((s.vars place).erase key))
      (r.withVars place (Assignments.discard key (r.vars place))) :=
    Shows.withVars h.shows place (by rw [Table.entries_erase, h.shows place])
  unfold Store.remove
  dsimp only
  split_ifs with hc
  · exact ⟨rfl, herased⟩
  · -- Discarding what is not there changes nothing.
    have hsame : Assignments.discard key (r.vars place) = r.vars place := by
      rw [Bool.not_eq_true] at hc
      rw [← h.shows place, ← Table.entries_erase, Table.erase_of_not_contains hc]
    rw [written, Assignments.write?, hsame]
    refine ⟨rfl, ?_⟩
    dsimp only
    rw [Reference.withVars_vars]
    exact h.shows

theorem follows_write (h : Represents l serial s r) (place : Compartment) (key : String)
    (value : Option String) :
    (s.write place key value).Follows l s (written l r place key value) := by
  have hcapacity : s.limits.limit (Store.capacityLimit place) =
      .ok (.int (Store.capacity l place)) := by
    rw [h.limits, Value.limit_toValue, Store.get_capacityLimit]
  unfold Store.write
  rw [hcapacity]
  cases value with
  | some value => exact follows_put h place key value
  | none => exact follows_remove h place key

/-- A check that fails makes the whole operation fail. -/
theorem follows_refuse {α : Type} {obstacle : Reference.Obstacle} {check : Except Failure α}
    (h : Follows l check (.error obstacle)) :
    ∃ failure, check = .error failure ∧ (s.refuse failure).Follows l s (.error obstacle) := by
  obtain ⟨failure, hfailure, hcategory⟩ := h
  exact ⟨failure, hfailure, ⟨failure, rfl, hcategory⟩, rfl⟩

theorem follows_writeChecked (h : Represents l serial s r) (place : Compartment)
    (key value : Value) :
    (s.writeChecked place key value).Follows l s (r.write l place key value) := by
  have hkey := follows_checkKey h.limits key
  have hvalue := follows_checkValue h.limits value
  unfold Store.writeChecked Reference.write
  -- The reference checks the key first and then the value, as the store does.
  cases hk : Reference.key l key with
  | error obstacle =>
    rw [hk] at hkey
    obtain ⟨failure, hfailure, hrefused⟩ := follows_refuse hkey
    rw [hfailure]
    exact hrefused
  | ok k =>
    rw [hk] at hkey
    cases hv : Reference.value l value with
    | error obstacle =>
      rw [hv] at hvalue
      obtain ⟨failure, hfailure, hrefused⟩ := follows_refuse hvalue
      rw [hkey, hfailure]
      exact hrefused
    | ok v =>
      rw [hv] at hvalue
      rw [hkey, hvalue]
      exact follows_write h place k v

theorem follows_setScript (h : Represents l serial s r) (script key value : Value) :
    (s.setScript script key value).Follows l s (r.attempt l (.setScript script key value)) := by
  have hscript := follows_checkScript (l := l) script
  unfold Store.setScript
  rw [Reference.attempt]
  cases hs : Reference.script script with
  | error obstacle =>
    rw [hs] at hscript
    obtain ⟨failure, hfailure, hcategory⟩ := hscript
    rw [Except.map_eq_error_iff] at hfailure
    rw [hfailure]
    exact ⟨⟨failure, rfl, hcategory⟩, rfl⟩
  | ok place =>
    rw [hs] at hscript
    obtain ⟨name, hname, rfl⟩ := Except.map_eq_ok_iff.mp hscript
    rw [hname]
    exact follows_writeChecked h (.script name) key value

theorem Shows.cleared (h : Shows s r) (place : Compartment) :
    Shows (s.withVars place .empty) (r.withVars place []) :=
  Shows.withVars h place rfl

theorem follows_clearGlobals (h : Represents l serial s r) :
    s.clearGlobals.Follows l s (.ok (r.withVars .global [])) := by
  refine ⟨Store.result_clearGlobals s, ?_⟩
  rw [Store.store_clearGlobals]
  exact Shows.cleared h.shows .global

theorem follows_clearScript (h : Represents l serial s r) (name : String) :
    (s.clearScript (.text name)).Follows l s (.ok (r.withVars (.script name) [])) := by
  refine ⟨Store.result_clearScript_text s name, ?_⟩
  rw [Store.store_clearScript_text]
  exact Shows.cleared h.shows (.script name)

theorem follows_clear (l : Limits) (s : Store) : s.clear.Follows l s (.ok .empty) :=
  ⟨rfl, fun place => by cases place <;> rfl⟩

/-! #### The table of scripts -/

/-- The scripts in the table are those that have variables. -/
theorem names (h : Represents l serial s r) : r.Names s.scriptNames := by
  refine ⟨h.wellFormed.nodup, fun name => ?_⟩
  have hshows := h.shows (.script name)
  rw [Store.vars, Reference.vars] at hshows
  rw [Store.scriptNames, ← Table.contains_iff, ← Table.isSome_get?, ← hshows]
  cases hget : s.scripts.get? name with
  | none => exact iff_of_false Bool.false_ne_true (not_not.mpr rfl)
  | some vars =>
    -- Here it matters that the table holds no script without variables.
    have hsize := h.wellFormed.nonempty _ (Table.mem_entries_of_get? hget)
    exact iff_of_true rfl (List.length_pos_iff.mp hsize)

theorem isEmpty_scripts_iff (h : Represents l serial s r) :
    s.scripts.isEmpty = true ↔ ∀ name, r.scripts name = [] := by
  have hnames := h.names.2
  rw [Table.isEmpty_iff]
  constructor
  · intro hempty name
    by_contra hne
    have hmem := (hnames name).mpr hne
    rw [Store.scriptNames, Table.keys, hempty] at hmem
    exact List.not_mem_nil hmem
  · intro hnone
    have hkeys : s.scriptNames = [] :=
      List.eq_nil_iff_forall_not_mem.mpr fun name hmem => (hnames name).mp hmem (hnone name)
    exact List.map_eq_nil_iff.mp hkeys

/-- The entries of the table are the lists of the scripts in it. -/
theorem entries_eq (h : Represents l serial s r) {e : String × Vars} (he : e ∈ s.scripts.entries) :
    e.2.entries = r.scripts e.1 := by
  have hget : s.scripts.get? e.1 = some e.2 := (Table.get?_eq_some_iff h.wellFormed.nodup).mpr he
  have hshows := h.shows (.script e.1)
  rw [Store.vars, hget] at hshows
  exact hshows

/-! #### All operations -/

/-- Clearing a script fails only for a name that could name no entry. -/
theorem result_clearScript (s : Store) (script : Value) :
    (s.clearScript script).result =
      if s.scripts.isEmpty then .ok ()
      else match script.unhashable? with
        | some kind => .error (.unhashable kind)
        | none => .ok () := by
  unfold Store.clearScript
  split_ifs
  · rfl
  · cases script.unhashable? with
    | some kind => rfl
    | none =>
      cases script with
      | text name =>
        dsimp only
        split_ifs <;> rfl
      | _ => rfl

theorem ends_clearScript (h : Represents l serial s r) (script : Value) :
    r.Ends l (.clearScript script) (s.clearScript script).result := by
  have hempty := h.isEmpty_scripts_iff
  rw [result_clearScript, Reference.Ends]
  split_ifs with hscripts
  · cases script.unhashable? with
    | none => rfl
    | some kind => exact Or.inl ⟨hempty.mp hscripts, rfl⟩
  · cases script.unhashable? with
    | none => rfl
    | some kind =>
      rw [hempty, not_forall] at hscripts
      exact Or.inr ⟨hscripts, rfl⟩

/-- **An operation ends as the reference says.** -/
theorem ends (h : Represents l serial s r) (operation : Store.Operation) :
    r.Ends l operation (s.outcome operation).result := by
  cases operation with
  | setGlobal key value => exact (follows_writeChecked h .global key value).agrees
  | clearGlobals => exact (follows_clearGlobals h).agrees
  | setScript script key value => exact (follows_setScript h script key value).agrees
  | clearScript script => exact h.ends_clearScript script
  | clear => exact (follows_clear l s).agrees

/-- **An operation does to the store what it does to the reference.** -/
theorem after (h : Represents l serial s r) (operation : Store.Operation) :
    Represents l serial (s.outcome operation).store (r.after l operation) where
  limits := (Store.step_outcome s operation).limits_eq.trans h.limits
  wellFormed := (Store.step_outcome s operation).wellFormed h.limits h.wellFormed
  shows := by
    cases operation with
    | setGlobal key value => exact (follows_writeChecked h .global key value).shows h.shows
    | clearGlobals => exact (follows_clearGlobals h).shows h.shows
    | setScript script key value => exact (follows_setScript h script key value).shows h.shows
    | clearScript script =>
      cases script with
      | text name => exact (follows_clearScript h name).shows h.shows
      | _ =>
        rw [Store.outcome, Store.store_clearScript_of_not_text fun name hname => by cases hname]
        exact h.shows
    | clear => exact (follows_clear l s).shows h.shows

/-! #### Reading -/

theorem getGlobal_eq (h : Represents l serial s r) (key : Value) :
    s.getGlobal key = r.globals.read key := by
  have hglobals : s.globals.entries = r.globals := h.shows .global
  cases key with
  | text key => rw [Store.getGlobal, Table.get?_eq_lookup, hglobals, Assignments.read]
  | _ => rfl

theorem entries_scriptVars (h : Represents l serial s r) (script : Value) :
    (s.scriptVars script).entries = r.scriptVars script := by
  cases script with
  | text name => exact h.shows (.script name)
  | _ => rfl

theorem getScript_eq (h : Represents l serial s r) (script key : Value) :
    s.getScript script key = (r.scriptVars script).read key := by
  cases key with
  | text key =>
    rw [Store.getScript, Table.get?_eq_lookup, h.entries_scriptVars, Assignments.read]
  | _ => rfl

theorem scriptViews_eq (h : Represents l serial s r) (n : Nat) :
    (s.scripts.entries.zipIdx.map fun (e, i) =>
        (Value.text e.1, Vars.toView e.2 (n + 3 + i))) =
      s.scriptNames.zipIdx.map fun (name, i) =>
        (Value.text name, (r.scripts name).toView (n + 3 + i)) := by
  rw [Store.scriptNames, Table.keys, List.zipIdx_map, List.map_map]
  refine List.map_congr_left fun e he => ?_
  have hentries := h.entries_eq (List.fst_mem_of_mem_zipIdx he)
  simp only [Function.comp_apply, Prod.map, Vars.toView, hentries]
  rfl

theorem snapshot_eq (h : Represents l serial s r) (n : Nat) :
    s.snapshot n = r.toView s.scriptNames n := by
  have hglobals : s.globals.toView (n + 1) = r.globals.toView (n + 1) := by
    have hentries : s.globals.entries = r.globals := h.shows .global
    rw [Vars.toView, hentries, Assignments.toView]
  rw [Store.snapshot, Reference.toView, hglobals, h.scriptViews_eq]

theorem summary_eq (h : Represents l serial s r) :
    s.summary = "VariableStore(global_vars=" ++ decimal r.globals.length ++ ", scripts="
      ++ decimal s.scriptNames.length ++ ")" := by
  have hglobals : r.globals.length = s.globals.size :=
    congrArg List.length (h.shows .global).symm
  have hnames : s.scriptNames.length = s.scripts.size := List.length_map _
  unfold Store.summary
  rw [hglobals, hnames]

end Represents

end BoundedVars
