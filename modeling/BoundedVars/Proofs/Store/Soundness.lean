import BoundedVars.Proofs.Soundness
import BoundedVars.Proofs.Store.Step

/-!
# What stores hand out is sound

In a compartment no name of a variable stands twice, nor does the name of a script in the table of
scripts, whatever the limits of the store are (`Store.Sound`).  No operation changes that
(`Store.Step.sound`), and so in the views that a store hands out no key stands twice
(`Vars.sound_toView`, `Store.Sound.snapshot`).
-/

namespace BoundedVars

/-- A store in which no name stands twice, with sound limits. -/
structure Store.Sound (s : Store) : Prop where
  limits : s.limits.Sound
  globals : s.globals.keys.Nodup
  scripts : ∀ e ∈ s.scripts.entries, e.2.keys.Nodup
  nodup : s.scripts.keys.Nodup

/-! ### Views -/

/-- Items under different texts are sound if they are sound themselves. -/
theorem Entries.sound_of_texts {entries : Entries} {names : List String}
    (hkeys : entries.keys = names.map .text) (hnames : names.Nodup)
    (hvalues : ∀ value ∈ entries.values, value.Sound) : entries.Sound := by
  refine ⟨⟨?_, ?_⟩, hvalues⟩
  · rw [hkeys, List.pairwise_map]
    refine hnames.imp fun hne => Bool.eq_false_iff.mpr fun hsame => hne ?_
    exact Value.text.inj (Value.beq_text_iff.mp hsame)
  · rw [hkeys]
    exact List.forall_mem_map.mpr fun name _ => (Value.hashable_text name).beq_self

/-- **The view of a compartment** is sound. -/
theorem Vars.sound_toView {vars : Vars} (hvars : vars.keys.Nodup) (serial : Nat) :
    (vars.toView serial).Sound := by
  refine Value.sound_view_iff.mpr (Entries.sound_of_texts ?_ hvars ?_)
  · simp only [Table.keys, List.map_map]
    rfl
  · simp only [Table.values, List.map_map]
    exact List.forall_mem_map.mpr fun e _ => (Value.hashable_text e.2).sound

namespace Store

variable {s : Store} {o : Outcome}

/-! ### Operations -/

namespace Sound

theorem nodup_vars (hs : s.Sound) (place : Compartment) : (s.vars place).keys.Nodup := by
  cases place with
  | global => exact hs.globals
  | script name =>
    rw [vars]
    cases hvars : s.scripts.get? name with
    | none => exact List.nodup_nil
    | some vars => exact hs.scripts _ (Table.mem_entries_of_get? hvars)

theorem nodup_scriptVars (hs : s.Sound) (script : Value) : (s.scriptVars script).keys.Nodup := by
  cases script with
  | text name => exact hs.nodup_vars (.script name)
  | _ => exact List.nodup_nil

theorem eraseScript (hs : s.Sound) (name : String) :
    Sound { s with scripts := s.scripts.erase name } where
  limits := hs.limits
  globals := hs.globals
  scripts e he := hs.scripts e (Table.mem_entries_erase.mp he).1
  nodup := Table.nodup_keys_erase hs.nodup

theorem withVars (hs : s.Sound) (place : Compartment) {vars : Vars} (hvars : vars.keys.Nodup) :
    (s.withVars place vars).Sound := by
  cases place with
  | global => exact { hs with globals := hvars }
  | script name =>
    rw [Store.withVars]
    split_ifs
    · exact hs.eraseScript name
    · refine ⟨hs.limits, hs.globals, fun e he => ?_, Table.nodup_keys_insert hs.nodup⟩
      rcases Table.mem_entries_insert he with rfl | he
      · exact hvars
      · exact hs.scripts e he

end Sound

theorem sound_new {limits : Value} (hlimits : limits.Sound) : (new limits).Sound :=
  ⟨hlimits, List.nodup_nil, fun _ he => absurd he List.not_mem_nil, List.nodup_nil⟩

/-- **No operation writes a name twice.** -/
theorem Step.sound (hs : s.Sound) (hstep : Step s o) : o.store.Sound := by
  cases hstep with
  | writing _ hwriting =>
    cases hwriting with
    | refused | rejected | idle => exact hs
    | written => exact hs.withVars _ (Table.nodup_keys_insert (hs.nodup_vars _))
    | removed => exact hs.withVars _ (Table.nodup_keys_erase (hs.nodup_vars _))
  | refused | idle => exact hs
  | clearedGlobals => exact { hs with globals := List.nodup_nil }
  | clearedScript => exact hs.eraseScript _
  | cleared => exact sound_new hs.limits

/-! ### Snapshots -/

/-- **A snapshot** is sound. -/
theorem Sound.snapshot (hs : s.Sound) (serial : Nat) : (s.snapshot serial).Sound := by
  have hglobals := Vars.sound_toView hs.globals (serial + 1)
  have hscripts : Entries.Sound ⟨s.scripts.entries.zipIdx.map fun e =>
      (.text e.1.1, Vars.toView e.1.2 (serial + 3 + e.2))⟩ := by
    refine Entries.sound_of_texts ?_ hs.nodup ?_
    · simp only [Table.keys, List.map_map]
      conv_rhs => rw [← List.zipIdx_map_fst 0 s.scripts.entries, List.map_map]
      rfl
    · simp only [Table.values, List.map_map]
      exact List.forall_mem_map.mpr fun e he =>
        Vars.sound_toView (hs.scripts e.1 (List.fst_mem_of_mem_zipIdx he)) _
  have hnames : ["global", "scripts"].Nodup := by decide
  refine Value.sound_view_iff.mpr (Entries.sound_of_texts rfl hnames ?_)
  exact List.forall_mem_cons.mpr
    ⟨hglobals, List.forall_mem_singleton.mpr (Value.sound_view_iff.mpr hscripts)⟩

end Store

end BoundedVars
