import BoundedVars.Configuration
import BoundedVars.Proofs.Except
import Mathlib.Tactic.SplitIfs

/-!
# How reading limits fails

The limits that a configuration sets are read one after another, so the first value that is no limit
decides how that fails.  Mostly the failure says which setting is wrong.  But there are values of
which it cannot be said: an infinity already fails when it is turned into an integer, and other
values cannot be written out (`Heap.Escapes`).

`configuredLimits_escapes_iff` says that reading limits gives four positive integers, or fails with
a complaint about an argument, or meets such a value first.
-/

namespace BoundedVars

open Except

namespace Heap

variable {h : Heap} {v raw conf : Value} {limit : Limit} {failure : Failure} {n : Int}

/-! ### Writing values out -/

/-- The failures to write something out. -/
def CannotBeWritten (failure : Failure) : Prop :=
  failure = .endlessText ∨ failure = .integerTooLong

theorem failsOnly_writtenInteger (n : Int) : FailsOnly CannotBeWritten (writtenInteger n) := by
  unfold writtenInteger
  split_ifs
  · exact failsOnly_error (Or.inr rfl)
  · exact failsOnly_ok _

/-- **Writing a value out fails only in two ways**, wherever in the value that is. -/
theorem failsOnly_writtenWithin (h : Heap) (depth steps : Nat) (inside : List Identity)
    (v : Value) : FailsOnly CannotBeWritten (h.writtenWithin depth steps inside v) := by
  -- Each part of a value is written at least one level further down.
  induction depth generalizing steps inside v with
  | zero => exact failsOnly_error (Or.inl rfl)
  | succ depth ih =>
    obtain _ | steps := steps
    case succ => exact ih steps inside v
    have hparts (items : List Value) :=
      failsOnly_mapM (fun w => ih (0 + w.writingLevels) (v.identity :: inside) w) items
    have hentries (steps : Nat) (es : List (Value × Value)) : FailsOnly CannotBeWritten
        (do return braced (← es.mapM fun e => do
          return (← h.writtenWithin depth (steps + e.1.writingLevels) (v.identity :: inside) e.1)
            ++ ": "
            ++ (← h.writtenWithin depth (steps + e.2.writingLevels) (v.identity :: inside)
              e.2))) := by
      refine FailsOnly.bind (failsOnly_mapM (fun e => ?_) es) fun _ => failsOnly_ok _
      exact (ih _ _ e.1).bind fun _ => (ih _ _ e.2).bind fun _ => failsOnly_ok _
    unfold writtenWithin
    cases v with
    | int n => exact failsOnly_writtenInteger n
    | list | tuple =>
      dsimp only
      split_ifs
      · exact failsOnly_ok _
      · exact (hparts _).bind fun _ => failsOnly_ok _
    | limits => exact (hparts _).bind fun _ => failsOnly_ok _
    | view serial es =>
      dsimp only
      split
      · exact (ih _ _ _).bind fun _ => failsOnly_ok _
      · split_ifs
        · exact failsOnly_ok _
        · exact (hentries 0 es).bind fun _ => failsOnly_ok _
    | dict =>
      dsimp only
      split_ifs
      · exact failsOnly_ok _
      · exact hentries 0 _
    | config =>
      dsimp only
      split_ifs
      · exact failsOnly_ok _
      · exact (hentries 1 _).bind fun _ => (hparts _).bind fun _ => (hentries 1 _).bind fun _ =>
          failsOnly_ok _
    | context =>
      dsimp only
      split_ifs
      · exact failsOnly_ok _
      · exact (hentries 0 _).bind fun _ => failsOnly_ok _
    | _ => exact failsOnly_ok _

/-- Writing a value out fails only in these ways. -/
theorem failsOnly_written (h : Heap) (v : Value) : FailsOnly CannotBeWritten (h.written v) :=
  failsOnly_writtenWithin h nestingLimit _ [] v

/-- A computation fails with a complaint about an argument. -/
def Complains {α : Type} (x : Except Failure α) : Prop :=
  ∃ failure, x = .error failure ∧ failure.category = .invalidArgument

theorem complains_bind_pure_iff {α β : Type} {x : Except Failure α} {f : α → β} :
    Complains (do return f (← x)) ↔ Complains x := by
  cases x <;> simp [Complains]

/-- The failure to write something out is no complaint about an argument. -/
theorem CannotBeWritten.category_ne (h : CannotBeWritten failure) :
    failure.category ≠ .invalidArgument := by
  rcases h with rfl | rfl <;> nofun

/-! ### One limit -/

/-- A value is a limit: it denotes a positive integer. -/
def IsLimit (v : Value) : Prop :=
  ∃ n, integer? v = .ok (some n) ∧ 0 < n

/-- The value is no limit, and it cannot be said that the setting is wrong: it is an infinity, or
the message would have to show something that cannot be written out. -/
inductive Escapes (h : Heap) : Value → Failure → Prop
  | infinite (serial : Nat) (negative : Bool) :
      Escapes h (.float serial (.infinite negative)) .infiniteInteger
  | notInteger {v : Value} {failure : Failure} (hinteger : integer? v = .ok none)
      (hwritten : h.written v = .error failure) : Escapes h v failure
  | notPositive {v : Value} {n : Int} {failure : Failure} (hinteger : integer? v = .ok (some n))
      (hn : n ≤ 0) (hwritten : writtenInteger n = .error failure) : Escapes h v failure

theorem Escapes.category_ne (he : Escapes h v failure) :
    failure.category ≠ .invalidArgument := by
  cases he with
  | infinite => nofun
  | notInteger _ hwritten =>
    exact (failsOnly_written h v failure hwritten).category_ne
  | notPositive _ _ hwritten =>
    exact (failsOnly_writtenInteger _ failure hwritten).category_ne

/-- What escapes is no limit. -/
theorem Escapes.not_isLimit (he : Escapes h v failure) : ¬IsLimit v := by
  rintro ⟨n, hn, hpos⟩
  cases he with
  | infinite => cases hn
  | notInteger hinteger =>
    rw [hinteger] at hn
    cases hn
  | notPositive hinteger hm =>
    rw [hinteger] at hn
    obtain rfl := Option.some.inj (Except.ok.inj hn)
    omega

theorem default_pos (limit : Limit) : 0 < limit.default := by
  cases limit <;> decide

/-- The defaults of the limits are limits. -/
theorem isLimit_default (limit : Limit) : IsLimit (.int limit.default) :=
  ⟨limit.default, rfl, default_pos limit⟩

/-- Only an infinity fails to be looked at as an integer. -/
theorem integer?_eq_error_iff :
    integer? v = .error failure ↔
      (∃ serial negative, v = .float serial (.infinite negative)) ∧
        failure = .infiniteInteger := by
  cases v with
  | float serial x => cases x <;> simp [integer?, eq_comm]
  | _ => simp [integer?]

theorem coerceLimit_of_positive (hinteger : integer? raw = .ok (some n)) (hn : 0 < n) :
    h.coerceLimit limit raw = .ok n := by
  rw [coerceLimit, hinteger, ok_bind]
  exact if_neg (by omega)

theorem coerceLimit_of_not_positive (hinteger : integer? raw = .ok (some n)) (hn : n ≤ 0) :
    h.coerceLimit limit raw = (do
      let _ ← writtenInteger n
      throw (.settingNotPositive limit.key n)) := by
  rw [coerceLimit, hinteger, ok_bind]
  exact if_pos hn

theorem coerceLimit_of_not_integer (hinteger : integer? raw = .ok none) :
    h.coerceLimit limit raw = (do throw (.settingNotInteger limit.key (← h.written raw))) := by
  rw [coerceLimit, hinteger, ok_bind]

/-- The memory counts only for what the complaint shows. -/
theorem coerceLimit_congr {h' : Heap} (hwritten : h'.written raw = h.written raw) :
    h'.coerceLimit limit raw = h.coerceLimit limit raw := by
  rw [coerceLimit, coerceLimit, hwritten]

theorem coerceLimit_eq_ok_iff :
    h.coerceLimit limit raw = .ok n ↔ integer? raw = .ok (some n) ∧ 0 < n := by
  constructor
  · intro hok
    cases hinteger : integer? raw with
    | error failure => simp [coerceLimit, hinteger] at hok
    | ok found =>
      cases found with
      | none => simp [coerceLimit_of_not_integer hinteger, bind_eq_ok_iff] at hok
      | some m =>
        by_cases hm : m ≤ 0
        · simp [coerceLimit_of_not_positive hinteger hm, bind_eq_ok_iff] at hok
        · rw [coerceLimit_of_positive hinteger (by omega)] at hok
          obtain rfl := Except.ok.inj hok
          exact ⟨rfl, by omega⟩
  · rintro ⟨hinteger, hn⟩
    exact coerceLimit_of_positive hinteger hn

/-- **The value of a limit fails otherwise** than with a complaint about it exactly if it
escapes. -/
theorem coerceLimit_escapes_iff :
    h.coerceLimit limit raw = .error failure ∧ failure.category ≠ .invalidArgument ↔
      Escapes h raw failure := by
  constructor
  · rintro ⟨hfails, hcategory⟩
    cases hinteger : integer? raw with
    | error fault =>
      obtain ⟨⟨serial, negative, rfl⟩, rfl⟩ := integer?_eq_error_iff.mp hinteger
      obtain rfl : Failure.infiniteInteger = failure := by
        simpa [coerceLimit, hinteger] using hfails
      exact .infinite serial negative
    | ok found =>
      cases found with
      | none =>
        rw [coerceLimit_of_not_integer hinteger, bind_eq_error_iff] at hfails
        -- The complaint itself is about an argument, so it was the text for it that failed.
        rcases hfails with hwritten | ⟨shown, -, hfails⟩
        · exact .notInteger hinteger hwritten
        · obtain rfl := Except.error.inj hfails
          exact absurd rfl hcategory
      | some m =>
        by_cases hm : m ≤ 0
        · rw [coerceLimit_of_not_positive hinteger hm, bind_eq_error_iff] at hfails
          rcases hfails with hwritten | ⟨shown, -, hfails⟩
          · exact .notPositive hinteger hm hwritten
          · obtain rfl := Except.error.inj hfails
            exact absurd rfl hcategory
        · rw [coerceLimit_of_positive hinteger (by omega)] at hfails
          cases hfails
  · intro hescapes
    refine ⟨?_, hescapes.category_ne⟩
    cases hescapes with
    | infinite => rfl
    | notInteger hinteger hwritten =>
      rw [coerceLimit_of_not_integer hinteger, hwritten, error_bind]
    | notPositive hinteger hm hwritten =>
      rw [coerceLimit_of_not_positive hinteger hm, hwritten, error_bind]

/-! ### All limits -/

/-- Reading the limits goes through all of them in their order. -/
theorem configuredLimits_map (h : Heap) (conf : Value) :
    (h.configuredLimits conf).map (fun limits => Limit.all.map limits.get) =
      Limit.all.mapM (h.configuredLimit conf) := by
  simp only [configuredLimits, Limit.all, List.mapM_cons, List.mapM_nil]
  cases h.configuredLimit conf .maxGlobalVars <;> cases h.configuredLimit conf .maxScriptVars <;>
    cases h.configuredLimit conf .maxKeySize <;> cases h.configuredLimit conf .maxValueSize <;> rfl

theorem configuredLimit_eq_ok {limits : Limits} (hok : h.configuredLimits conf = .ok limits)
    (limit : Limit) : h.configuredLimit conf limit = .ok (limits.get limit) := by
  simp only [configuredLimits, bind_eq_ok_iff] at hok
  obtain ⟨globals, hglobals, scripts, hscripts, key, hkey, value, hvalue, hlimits⟩ := hok
  obtain rfl := Except.ok.inj hlimits
  cases limit <;> assumption

/-- The first limit that cannot be read decides how reading them fails. -/
theorem configuredLimits_eq_error_iff :
    h.configuredLimits conf = .error failure ↔ ∃ before limit after,
      Limit.all = before ++ limit :: after ∧
        (∀ earlier ∈ before, ∃ n, h.configuredLimit conf earlier = .ok n) ∧
        h.configuredLimit conf limit = .error failure := by
  rw [← mapM_eq_error_iff, ← configuredLimits_map, map_eq_error_iff]

/-- A dictionary always tells what it has under a text, or the fallback. -/
theorem get_dict (h : Heap) (attributed : Bool) (address : Nat) (key : String)
    (fallback : Value) :
    h.get (.dict attributed address) (.text key) fallback =
      .ok (((h.dict address).get? (.text key)).getD fallback) := by
  simp [get, find?, findWithin, Value.sequence?, Entries.find?, Value.unhashable?]

/-- A dictionary always tells what it says about a setting, or the default. -/
theorem setting_dict (h : Heap) (attributed : Bool) (address : Nat) (s : Setting) :
    h.setting (.dict attributed address) s =
      .ok (((h.dict address).get? (.text s.key)).getD s.default) :=
  get_dict h attributed address s.key s.default

/-- The first value that is no limit escapes, if reading limits does not fail with a complaint. -/
theorem configuredLimits_no_complaint_iff {value : Limit → Value}
    (hconf : ∀ limit, h.setting conf (.limit limit) = .ok (value limit)) :
    h.configuredLimits conf = .error failure ∧ failure.category ≠ .invalidArgument ↔
      ∃ before limit after, Limit.all = before ++ limit :: after ∧
        (∀ earlier ∈ before, IsLimit (value earlier)) ∧ Escapes h (value limit) failure := by
  have hread (limit : Limit) :
      h.configuredLimit conf limit = h.coerceLimit limit (value limit) := by
    rw [configuredLimit, hconf, ok_bind]
  rw [configuredLimits_eq_error_iff]
  simp only [hread, coerceLimit_eq_ok_iff]
  constructor
  · rintro ⟨⟨before, limit, after, hall, hbefore, hfails⟩, hcategory⟩
    exact ⟨before, limit, after, hall, hbefore, coerceLimit_escapes_iff.mp ⟨hfails, hcategory⟩⟩
  · rintro ⟨before, limit, after, hall, hbefore, hescapes⟩
    obtain ⟨hfails, hcategory⟩ := coerceLimit_escapes_iff.mpr hescapes
    exact ⟨⟨before, limit, after, hall, hbefore, hfails⟩, hcategory⟩

/-- **Reading limits from a configuration gives positive integers, or fails with a complaint about
an argument, unless a value escapes**: it fails otherwise exactly if the first value that is no
limit is an infinity, or is something that the complaint would have to show but that cannot be
written out. -/
theorem configuredLimits_escapes_iff {value : Limit → Value}
    (hconf : ∀ limit, h.setting conf (.limit limit) = .ok (value limit)) :
    (∀ limits, h.configuredLimits conf = .ok limits →
      ∀ limit, integer? (value limit) = .ok (some (limits.get limit)) ∧ 0 < limits.get limit) ∧
    ∀ failure, h.configuredLimits conf = .error failure ∧ failure.category ≠ .invalidArgument ↔
      ∃ before limit after, Limit.all = before ++ limit :: after ∧
        (∀ earlier ∈ before, IsLimit (value earlier)) ∧ Escapes h (value limit) failure := by
  refine ⟨fun limits hok limit => ?_, fun failure => configuredLimits_no_complaint_iff hconf⟩
  have hlimit := configuredLimit_eq_ok hok limit
  rwa [configuredLimit, hconf, ok_bind, coerceLimit_eq_ok_iff] at hlimit

/-- A memory with a dictionary that allows any number of global variables. -/
def boundless : Heap :=
  (Heap.empty.newDict false
    (Table.ofList [(.text Limit.maxGlobalVars.key, .float 1 (.infinite false))])).2

/-- The infinity is not reported as a wrong setting. -/
theorem configuredLimits_boundless :
    boundless.configuredLimits (.dict false 0) = .error .infiniteInteger ∧
      Failure.infiniteInteger.category = .overflow := by
  have hvalue : ((boundless.dict 0).get? (.text Limit.maxGlobalVars.key)).getD
      (.int Limit.maxGlobalVars.default) = .float 1 (.infinite false) := rfl
  have hescapes := (configuredLimits_escapes_iff fun limit =>
    setting_dict boundless false 0 (.limit limit)).2 .infiniteInteger
  refine ⟨(hescapes.mpr ⟨[], .maxGlobalVars, [.maxScriptVars, .maxKeySize, .maxValueSize], rfl,
    by simp, ?_⟩).1, rfl⟩
  exact hvalue ▸ Escapes.infinite 1 false

/-! ### Values for all limits -/

variable {value : Limit → Value} {limits : Limits}

theorem configuredLimit_of_setting (hconf : h.setting conf (.limit limit) = .ok raw) :
    h.configuredLimit conf limit = h.coerceLimit limit raw := by
  rw [configuredLimit, hconf, ok_bind]

/-- Values become limits one after another, the first one that is no limit deciding how that
fails. -/
def coerceLimits (h : Heap) (value : Limit → Value) : Except Failure Limits := do
  return ⟨← h.coerceLimit .maxGlobalVars (value .maxGlobalVars),
    ← h.coerceLimit .maxScriptVars (value .maxScriptVars),
    ← h.coerceLimit .maxKeySize (value .maxKeySize),
    ← h.coerceLimit .maxValueSize (value .maxValueSize)⟩

theorem configuredLimits_of_setting
    (hconf : ∀ limit, h.setting conf (.limit limit) = .ok (value limit)) :
    h.configuredLimits conf = h.coerceLimits value := by
  simp only [configuredLimits, configuredLimit_of_setting (hconf _), coerceLimits]

/-- Whether values become limits, and which ones, can be told without the memory. -/
theorem coerceLimits_eq_ok_iff :
    h.coerceLimits value = .ok limits ↔
      ∀ limit, integer? (value limit) = .ok (some (limits.get limit)) ∧ 0 < limits.get limit := by
  constructor
  · intro hok limit
    simp only [coerceLimits, bind_eq_ok_iff, coerceLimit_eq_ok_iff] at hok
    obtain ⟨globals, hglobals, scripts, hscripts, key, hkey, size, hsize, hlimits⟩ := hok
    obtain rfl := Except.ok.inj hlimits
    cases limit <;> assumption
  · intro hall
    have hcoerce (limit : Limit) : h.coerceLimit limit (value limit) = .ok (limits.get limit) :=
      coerceLimit_eq_ok_iff.mpr (hall limit)
    simp only [coerceLimits, hcoerce, ok_bind]
    rfl

/-- How it fails depends on the memory only through what the values look like. -/
theorem coerceLimits_congr {h' : Heap}
    (hwritten : ∀ limit, h'.written (value limit) = h.written (value limit)) :
    h'.coerceLimits value = h.coerceLimits value := by
  have hcoerce (limit : Limit) :
      h'.coerceLimit limit (value limit) = h.coerceLimit limit (value limit) :=
    coerceLimit_congr (hwritten limit)
  simp only [coerceLimits, hcoerce]

end Heap

end BoundedVars
