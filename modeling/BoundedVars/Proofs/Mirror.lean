import BoundedVars.Proofs.Session.Notices
import BoundedVars.Proofs.Store.Step

/-!
# A mirror of a store, kept by a receiver

A receiver of the announcements of a store can keep a copy of its variables: a `Mirror`.  It knows
nothing of the store but what it is told, so it reads the change off the fields that it sees
(`Change.ofFields?`) and does the same to its copy (`Mirror.apply`).

Nothing is lost on the way: every change is read off its announcement (`ofFields?_shownFields`), and
whatever an operation does to a store, its changes do to a mirror (`Store.Step.mirror_eq`).
-/

namespace BoundedVars

/-- The text that a field shows, if it shows one. -/
def FieldDatum.text? : FieldDatum → Option String
  | .datum (.text s) => some s
  | _ => none

namespace Change

/-- The compartment of a scope and the name of a script. -/
def placeOf? (scope script : Option String) : Option Compartment :=
  match scope, script with
  | some "global", _ => some .global
  | some "script", some name => some (.script name)
  | _, _ => none

/-- The change that an announcement is about, read off its fields. -/
def ofFields? (fields : List (String × FieldDatum)) : Option Change := do
  let text? (name : String) := (fields.lookup name).bind FieldDatum.text?
  let event ← text? Event.nameField
  if event = setEvent then
    return .set (← placeOf? (text? "scope") (text? "script_name")) (← text? "key") (← text? "value")
  else if event = removedEvent then
    return .removed (← placeOf? (text? "scope") (text? "script_name")) (← text? "key")
  else if event = clearedEvent then
    match text? "scope", text? "script_name" with
    | some "global", _ => return .clearedGlobals
    | some "script", some name => return .clearedScript name
    | some "script", none => return .clearedScripts
    | _, _ => none
  else none

/-- The fields of an announcement before they are put in order. -/
def unsortedFields (change : Change) : List (String × FieldDatum) :=
  (Event.nameField, FieldDatum.datum (.text change.event))
    :: change.payload.map (fun field => (field.1, FieldDatum.datum field.2.plainDatum))
    ++ [(Event.timeField, FieldDatum.now)]

theorem lookup_shownFields (change : Change) (name : String) :
    change.shownFields.lookup name = change.unsortedFields.lookup name := by
  have hn : (change.unsortedFields.map (·.1)).Nodup := by
    cases change <;>
      simp [unsortedFields, payload, Event.nameField, Event.timeField]
  exact Table.lookup_eq_of_perm (List.mergeSort_perm _ _) hn name

/-- **Every change is read off its announcement.** -/
theorem ofFields?_shownFields (change : Change) : ofFields? change.shownFields = some change := by
  have hlookup := lookup_shownFields change
  unfold ofFields?
  simp only [hlookup]
  cases change with
  | set place key value => cases place <;> rfl
  | removed place key => cases place <;> rfl
  | _ => rfl

end Change

/-- A copy of the variables of a store. -/
structure Mirror where
  globals : Vars
  scripts : Table String Vars

namespace Mirror

/-- A mirror at the start. -/
def empty : Mirror := ⟨.empty, .empty⟩

/-- The variables of a script. -/
def scriptVars (m : Mirror) (name : String) : Vars :=
  (m.scripts.get? name).getD .empty

/-- The mirror after a change.  A script left without variables is dropped. -/
def apply (m : Mirror) : Change → Mirror
  | .set .global key value => { m with globals := m.globals.insert key value }
  | .set (.script name) key value =>
    { m with scripts := m.scripts.insert name ((m.scriptVars name).insert key value) }
  | .removed .global key => { m with globals := m.globals.erase key }
  | .removed (.script name) key =>
    let rest := (m.scriptVars name).erase key
    { m with
      scripts := if rest.isEmpty then m.scripts.erase name else m.scripts.insert name rest }
  | .clearedGlobals => { m with globals := .empty }
  | .clearedScript name => { m with scripts := m.scripts.erase name }
  | .clearedScripts => { m with scripts := .empty }

/-- The mirror after something seen: a receiver mirrors a sender, and nothing else counts. -/
def note (receiver : String) (sender : Identity) (m : Mirror) : TraceEntry → Mirror
  | .delivered other source _ fields =>
    if other = receiver ∧ source = sender then
      match Change.ofFields? fields with
      | some change => m.apply change
      | none => m
    else m
  | _ => m

/-- The mirror of a sender that a receiver gets by noting everything from the start. -/
def of (receiver : String) (sender : Identity) (seen : List TraceEntry) : Mirror :=
  seen.foldl (note receiver sender) empty

/-- What a mirror shows, as a read-only view in the manner of a snapshot. -/
def toView (m : Mirror) (serial : Nat) : Value :=
  .view serial [(.text "global", m.globals.toView (serial + 1)),
    (.text "scripts", .view (serial + 2) (m.scripts.entries.zipIdx.map fun (e, i) =>
      (.text e.1, Vars.toView e.2 (serial + 3 + i))))]

/-- The mirror after a notice: messages do not matter to it. -/
def give (m : Mirror) : Notice → Mirror
  | .log .. => m
  | .change change => m.apply change

end Mirror

namespace Store

/-- The mirror that shows just the variables of a store. -/
def mirror (s : Store) : Mirror := ⟨s.globals, s.scripts⟩

variable {s : Store} {place : Compartment} {o : Outcome}

theorem snapshot_eq_mirror (s : Store) (serial : Nat) :
    s.snapshot serial = s.mirror.toView serial := rfl

theorem mirror_withVars_insert (s : Store) (place : Compartment) (key value : String) :
    (s.withVars place ((s.vars place).insert key value)).mirror =
      s.mirror.apply (.set place key value) := by
  cases place with
  | global => rfl
  | script name =>
    rw [withVars, Table.isEmpty_insert, if_neg Bool.false_ne_true]
    rfl

theorem mirror_withVars_erase (s : Store) (place : Compartment) (key : String) :
    (s.withVars place ((s.vars place).erase key)).mirror =
      s.mirror.apply (.removed place key) := by
  cases place <;> rfl

/-- A tier that is empty is not announced, and need not be cleared. -/
theorem mirror_clear (s : Store) :
    s.clear.notices.foldl Mirror.give s.mirror = s.clear.store.mirror := by
  have hglobals : (if s.globals.isEmpty then [] else [Notice.change .clearedGlobals]).foldl
      Mirror.give s.mirror = ⟨.empty, s.scripts⟩ := by
    split_ifs with hempty
    · rw [mirror, Table.eq_empty_of_isEmpty hempty]
      rfl
    · rfl
  have hscripts : (if s.scripts.isEmpty then [] else [Notice.change .clearedScripts]).foldl
      Mirror.give ⟨.empty, s.scripts⟩ = ⟨.empty, .empty⟩ := by
    split_ifs with hempty
    · rw [Table.eq_empty_of_isEmpty hempty]
      rfl
    · rfl
  -- Messages are not mirrored.
  have hlog : s.mirror.give (.log .debug "Cleared all variables") = s.mirror := rfl
  rw [clear, accept, List.foldl_cons, List.foldl_append, hlog, hglobals, hscripts]
  rfl

/-- **What an operation does to a store, its changes do to a mirror.** -/
theorem Step.mirror_eq (h : Step s o) : o.notices.foldl Mirror.give s.mirror = o.store.mirror := by
  cases h with
  | writing hplace hwriting =>
    cases hwriting with
    | refused | rejected | idle => rfl
    | written => exact (mirror_withVars_insert ..).symm
    | removed => exact (mirror_withVars_erase ..).symm
  | refused | idle | clearedGlobals | clearedScript => rfl
  | cleared => exact mirror_clear s

end Store

end BoundedVars
