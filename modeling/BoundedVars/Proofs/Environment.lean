import BoundedVars.Proofs.Configuration
import BoundedVars.Proofs.Numeral
import Mathlib.Data.List.Nodup
import Mathlib.Logic.Function.Basic
import Mathlib.Tactic.Set

/-!
# Limits given as texts or bytes

What the environment says about a limit is trimmed before it is read (`Heap.fromEnvironment`), what
a configuration says is read as it is (`Heap.fromConfiguration`).  Either way a text or bytes give
a limit or a complaint about an argument, nothing else: numerals are too short to escape
(`Value.IsTextual.coerceLimit_complains_iff`).

`environment_reads_numerals` says which texts in the environment are limits, and which ones.
`environment_and_configuration` compares the two ways: they differ where there is an information
separator of ASCII among the blanks around a text, since that is trimmed but not read over.
-/

namespace BoundedVars

open Except

theorem Limit.key_injective : Function.Injective Limit.key := by
  intro a b
  cases a <;> cases b <;> decide

theorem Setting.mem_all (s : Setting) : s ∈ Setting.all := by
  cases s with
  | limit l => cases l <;> decide
  | logLevel => decide

/-- A value is a text or bytes. -/
inductive Value.IsTextual : Value → Prop
  | text (s : String) : IsTextual (.text s)
  | bytes (serial : Nat) (bytes : List UInt8) : IsTextual (.bytes serial bytes)

namespace Heap

variable {h : Heap} {raw value : Value} {limit : Limit} {n : Int}

/-! ### Texts and bytes as limits -/

theorem writtenInteger_of_natAbs_lt (hn : n.natAbs < 10 ^ Numeral.maxDigits) :
    writtenInteger n = .ok (signedDecimal n) :=
  if_neg (Nat.not_lt.mpr (Numeral.length_decimal_le_iff.mpr hn))

end Heap

namespace Value.IsTextual

open Heap

variable {h : Heap} {raw : Value} {limit : Limit} {n : Int} {failure : Failure}

/-- A numeral denotes an integer that can be written out again. -/
theorem natAbs_lt (hraw : raw.IsTextual) (hn : integer? raw = .ok (some n)) :
    n.natAbs < 10 ^ Numeral.maxDigits := by
  cases hraw with
  | text s => exact Numeral.natAbs_lt_of_read? (Except.ok.inj hn)
  | bytes serial bytes => exact Numeral.natAbs_lt_of_readBytes? (Except.ok.inj hn)

/-- Of a text or bytes it can always be said that the setting is wrong. -/
theorem not_escapes (hraw : raw.IsTextual) : ¬Escapes h raw failure := by
  intro hescapes
  cases hescapes with
  | infinite => cases hraw
  | notInteger hinteger hwritten => cases hraw <;> cases hwritten
  | notPositive hinteger hn hwritten =>
    rw [writtenInteger_of_natAbs_lt (hraw.natAbs_lt hinteger)] at hwritten
    cases hwritten

/-- **A text or bytes give a limit, or a complaint** about an argument. -/
theorem coerceLimit_complains_iff (hraw : raw.IsTextual) :
    Complains (h.coerceLimit limit raw) ↔ ¬IsLimit raw := by
  constructor
  · rintro ⟨failure, hfails, -⟩ ⟨n, hn⟩
    rw [coerceLimit_eq_ok_iff.mpr hn] at hfails
    cases hfails
  · intro hlimit
    cases hcoerce : h.coerceLimit limit raw with
    | ok n => exact absurd ⟨n, coerceLimit_eq_ok_iff.mp hcoerce⟩ hlimit
    | error failure =>
      refine ⟨failure, rfl, ?_⟩
      by_contra hcategory
      exact hraw.not_escapes (coerceLimit_escapes_iff.mp ⟨hcoerce, hcategory⟩)

/-- Trimmed it is a text or bytes still. -/
theorem trimmed {value : Value} (hraw : raw.IsTextual) (htrimmed : trimmed raw = .ok value) :
    value.IsTextual := by
  cases hraw with
  | text s =>
    obtain rfl := Except.ok.inj htrimmed
    exact .text _
  | bytes serial bytes =>
    obtain rfl := Except.ok.inj htrimmed
    exact .bytes _ _

end Value.IsTextual

namespace Heap

variable {h : Heap} {env raw value : Value} {limit : Limit} {n : Int}

/-! ### Dictionaries with one entry -/

/-- A new dictionary with only one entry. -/
def solely (h : Heap) (key : String) (value : Value) : Value × Heap :=
  h.newDict false (Table.ofList [(.text key, value)])

theorem beq_text (a b : String) : (Value.text a == Value.text b) = (a == b) := rfl

theorem get_solely (h : Heap) (key other : String) (value fallback : Value) :
    (h.solely key value).2.get (h.solely key value).1 (.text other) fallback =
      .ok (if key = other then value else fallback) := by
  have hdict : (h.solely key value).2.dict h.dicts.size = ⟨[(.text key, value)]⟩ := by
    have hsole : Table.ofList [(Value.text key, value)] = ⟨[(.text key, value)]⟩ := rfl
    simp [solely, newDict, dict, hsole]
  have hconf : (h.solely key value).1 = .dict false h.dicts.size := rfl
  rw [hconf, get_dict, hdict, Table.get?, List.find?_singleton, beq_text]
  by_cases hkey : key = other <;> simp [hkey]

/-! ### What the environment says -/

/-- What is read from an environment that only says one thing, about a limit. -/
def fromEnvironment (h : Heap) (limit : Limit) (raw : Value) : Except Failure Entries :=
  (h.solely (Setting.limit limit).environmentName raw).2.environmentOverrides
    (h.solely (Setting.limit limit).environmentName raw).1

/-- Adds what the environment says about a setting to what was found before. -/
def override (h : Heap) (env : Value) (found : Entries) (s : Setting) : Except Failure Entries := do
  match ← h.get env (.text s.environmentName) .none with
  | .none => return found
  | raw => return found.insert (.text s.key) (← h.environmentValue s raw)

theorem environmentOverrides_eq (h : Heap) (env : Value) :
    h.environmentOverrides env = Setting.all.foldlM (h.override env) .empty := rfl

theorem environmentValue_limit (htrimmed : trimmed raw = .ok value) :
    h.environmentValue (.limit limit) raw = (do return .int (← h.coerceLimit limit value)) := by
  rw [environmentValue, htrimmed, ok_bind]

theorem override_of_unset (found : Entries) {s : Setting}
    (hunset : h.get env (.text s.environmentName) .none = .ok .none) :
    h.override env found s = .ok found := by
  rw [override, hunset]
  rfl

theorem override_of_textual (found : Entries) {s : Setting} (hraw : raw.IsTextual)
    (hset : h.get env (.text s.environmentName) .none = .ok raw) :
    h.override env found s = (do
      return found.insert (.text s.key) (← h.environmentValue s raw)) := by
  rw [override, hset, ok_bind]
  cases hraw <;> rfl

theorem foldlM_override_of_unset {settings : List Setting} (found : Entries)
    (hunset : ∀ s ∈ settings, h.get env (.text s.environmentName) .none = .ok .none) :
    settings.foldlM (h.override env) found = .ok found := by
  induction settings with
  | nil => rfl
  | cons s settings ih =>
    rw [List.foldlM_cons, override_of_unset found (hunset s List.mem_cons_self), ok_bind]
    exact ih fun s hs => hunset s (List.mem_cons_of_mem _ hs)

theorem environmentNames : Setting.all.map Setting.environmentName =
    ["SCRIPTVARS_MAX_GLOBAL_VARS", "SCRIPTVARS_MAX_SCRIPT_VARS", "SCRIPTVARS_MAX_KEY_SIZE",
      "SCRIPTVARS_MAX_VALUE_SIZE", "SCRIPTVARS_LOG_LEVEL"] := by
  decide +kernel

/-- Settings are told apart by their names in the environment. -/
theorem environmentName_injective : Function.Injective Setting.environmentName := by
  have hnodup : (Setting.all.map Setting.environmentName).Nodup := by
    rw [environmentNames]
    decide
  exact fun s t hname =>
    List.inj_on_of_nodup_map hnodup (Setting.mem_all s) (Setting.mem_all t) hname

/-- What is read is the value of that limit, trimmed. -/
theorem fromEnvironment_eq (hraw : raw.IsTextual) (htrimmed : trimmed raw = .ok value) :
    h.fromEnvironment limit raw = (do
      let n ← (h.solely (Setting.limit limit).environmentName raw).2.coerceLimit limit value
      return Table.ofList [(.text limit.key, .int n)]) := by
  obtain ⟨before, after, hall⟩ := List.append_of_mem (Setting.mem_all (.limit limit))
  have hnodup : (before ++ .limit limit :: after).Nodup := hall ▸ by decide
  rw [fromEnvironment]
  set env := (h.solely (Setting.limit limit).environmentName raw).1
  set h' := (h.solely (Setting.limit limit).environmentName raw).2
  -- The environment says something about this setting only, so the others leave what was found.
  have hset : h'.get env (.text (Setting.limit limit).environmentName) .none = .ok raw := by
    rw [get_solely, if_pos rfl]
  have hunset (s : Setting) (hs : s ∈ before ++ after) :
      h'.get env (.text s.environmentName) .none = .ok .none := by
    rw [get_solely, if_neg]
    intro hname
    obtain rfl := environmentName_injective hname
    exact (List.nodup_middle.mp hnodup).notMem hs
  rw [environmentOverrides_eq, hall, List.foldlM_append, foldlM_override_of_unset _ fun s hs =>
    hunset s (List.mem_append_left _ hs), ok_bind, List.foldlM_cons,
    override_of_textual _ hraw hset, environmentValue_limit htrimmed]
  cases h'.coerceLimit limit value with
  | error failure => simp only [error_bind]
  | ok n =>
    simp only [ok_bind, pure_eq_ok]
    exact foldlM_override_of_unset _ fun s hs => hunset s (List.mem_append_right _ hs)

/-- The environment gives a limit its value where there is a positive integer. -/
theorem fromEnvironment_eq_ok_iff (hraw : raw.IsTextual) (htrimmed : trimmed raw = .ok value) :
    h.fromEnvironment limit raw = .ok (Table.ofList [(.text limit.key, .int n)]) ↔
      integer? value = .ok (some n) ∧ 0 < n := by
  rw [fromEnvironment_eq hraw htrimmed, bind_eq_ok_iff]
  constructor
  · rintro ⟨m, hm, hresult⟩
    -- The entries found show which integer was read.
    have hentries := congrArg Table.entries (Except.ok.inj hresult)
    obtain ⟨-, hvalue⟩ := Prod.mk.inj (List.cons.inj hentries).1
    obtain rfl := Value.int.inj hvalue
    exact coerceLimit_eq_ok_iff.mp hm
  · exact fun hn => ⟨n, coerceLimit_eq_ok_iff.mpr hn, rfl⟩

/-- The environment makes for a complaint where there is no positive integer. -/
theorem fromEnvironment_complains_iff (hraw : raw.IsTextual)
    (htrimmed : trimmed raw = .ok value) :
    Complains (h.fromEnvironment limit raw) ↔ ¬IsLimit value := by
  rw [fromEnvironment_eq hraw htrimmed, complains_bind_pure_iff]
  exact (hraw.trimmed htrimmed).coerceLimit_complains_iff

/-! ### What a configuration says -/

/-- The limits that a configuration sets which only says one thing, about a limit. -/
def fromConfiguration (h : Heap) (limit : Limit) (raw : Value) : Except Failure Limits :=
  (h.solely limit.key raw).2.configuredLimits (h.solely limit.key raw).1

theorem setting_solely (h : Heap) (limit other : Limit) (raw : Value) :
    (h.solely limit.key raw).2.setting (h.solely limit.key raw).1 (.limit other) =
      .ok (if limit = other then raw else .int other.default) := by
  have hkey : limit.key = (Setting.limit other).key ↔ limit = other :=
    Limit.key_injective.eq_iff
  rw [setting, get_solely]
  simp only [hkey, Setting.default]

theorem fromConfiguration_eq (h : Heap) (limit : Limit) (raw : Value) :
    h.fromConfiguration limit raw = (h.solely limit.key raw).2.coerceLimits
      (fun other => if limit = other then raw else .int other.default) :=
  configuredLimits_of_setting (setting_solely h limit · raw)

/-- The configuration gives a limit its value where there is a positive integer. -/
theorem fromConfiguration_eq_ok_iff :
    (∃ limits, h.fromConfiguration limit raw = .ok limits ∧ limits.get limit = n) ↔
      integer? raw = .ok (some n) ∧ 0 < n := by
  constructor
  · rintro ⟨limits, hok, rfl⟩
    rw [fromConfiguration_eq, coerceLimits_eq_ok_iff] at hok
    have hlimit := hok limit
    rwa [if_pos rfl] at hlimit
  · intro hn
    refine ⟨Limits.of fun other => if limit = other then n else other.default, ?_, by simp⟩
    rw [fromConfiguration_eq, coerceLimits_eq_ok_iff]
    intro other
    rw [Limits.get_of]
    by_cases hother : limit = other
    · rwa [if_pos hother, if_pos hother]
    · rw [if_neg hother, if_neg hother]
      exact ⟨rfl, default_pos other⟩

/-- The configuration makes for a complaint where there is no positive integer. -/
theorem fromConfiguration_complains_iff (hraw : raw.IsTextual) :
    Complains (h.fromConfiguration limit raw) ↔ ¬IsLimit raw := by
  constructor
  · rintro ⟨failure, hfails, -⟩ ⟨n, hn⟩
    obtain ⟨limits, hok, -⟩ := fromConfiguration_eq_ok_iff.mpr hn
    rw [hok] at hfails
    cases hfails
  · intro hlimit
    cases hconf : h.fromConfiguration limit raw with
    | ok limits =>
      exact absurd ⟨_, fromConfiguration_eq_ok_iff.mp ⟨limits, hconf, rfl⟩⟩ hlimit
    | error failure =>
      refine ⟨failure, rfl, ?_⟩
      by_contra hcategory
      obtain ⟨before, other, after, -, -, hother⟩ :=
        (configuredLimits_no_complaint_iff (setting_solely h limit · raw)).mp ⟨hconf, hcategory⟩
      -- Neither the text or the bytes escape nor a default.
      split_ifs at hother
      · exact hraw.not_escapes hother
      · exact hother.not_isLimit (isLimit_default other)

/-! ### Which texts are limits -/

theorem trimmed_text (s : String) :
    trimmed (.text s) = .ok (.text (String.ofList (Text.trim s.toList))) := rfl

theorem integer?_trimmed_text_iff {s : String} :
    integer? (.text (String.ofList (Text.trim s.toList))) = .ok (some n) ↔
      Numeral.StandsFor s.toList n := by
  rw [← Numeral.read?_trim_eq_some_iff, integer?, String.toList_ofList, Except.ok.injEq]

/-- **In the environment exactly the numerals for positive integers are limits**, with white space
around them; any other text makes for a complaint about an argument.  So an integer that is written
out in decimal is read back, whatever blanks are put around it, with a sign before it or not, and
with underscores put between its digits. -/
theorem environment_reads_numerals (h : Heap) (limit : Limit) (raw : String) :
    (∀ n : Int, h.fromEnvironment limit (.text raw) =
        .ok (Table.ofList [(.text limit.key, .int n)]) ↔
      Numeral.StandsFor raw.toList n ∧ 0 < n) ∧
    (Complains (h.fromEnvironment limit (.text raw)) ↔
      ¬∃ n : Int, Numeral.StandsFor raw.toList n ∧ 0 < n) ∧
    ∀ (m : Nat) (digits : List Char), 0 < m → m < 10 ^ Numeral.maxDigits →
      Numeral.Grouped (decimal m).toList digits →
      Text.Surrounds Text.isBlank digits raw.toList ∨
        Text.Surrounds Text.isBlank ('+' :: digits) raw.toList →
      h.fromEnvironment limit (.text raw) = .ok (Table.ofList [(.text limit.key, .int m)]) := by
  have hreads (n : Int) : h.fromEnvironment limit (.text raw) =
      .ok (Table.ofList [(.text limit.key, .int n)]) ↔
        Numeral.StandsFor raw.toList n ∧ 0 < n := by
    rw [fromEnvironment_eq_ok_iff (.text raw) (trimmed_text raw), integer?_trimmed_text_iff]
  refine ⟨hreads, ?_, fun m digits hpos hm hgrouped haround => (hreads m).mpr ⟨?_, by omega⟩⟩
  · rw [fromEnvironment_complains_iff (.text raw) (trimmed_text raw), IsLimit]
    simp only [integer?_trimmed_text_iff]
  · have hwrites := Numeral.writes_decimal hm hgrouped
    rcases haround with haround | haround
    · exact ⟨digits, haround, .unsigned hwrites⟩
    · exact ⟨'+' :: digits, haround, .plus hwrites⟩

/-- A sign, an underscore and blanks do no harm, a point does. -/
theorem environment_reads_forty_two :
    Heap.empty.fromEnvironment .maxKeySize (.text " +4_2\u3000") =
        .ok (Table.ofList [(.text Limit.maxKeySize.key, .int 42)]) ∧
      Complains (Heap.empty.fromEnvironment .maxKeySize (.text "42.0")) := by
  obtain ⟨-, -, hwritten⟩ := environment_reads_numerals Heap.empty .maxKeySize " +4_2\u3000"
  obtain ⟨-, hcomplains, -⟩ := environment_reads_numerals Heap.empty .maxKeySize "42.0"
  have hsmall : 42 < 10 ^ Numeral.maxDigits :=
    calc 42
      _ < 10 ^ 2 := by decide
      _ ≤ 10 ^ Numeral.maxDigits := Nat.pow_le_pow_right (by decide) (by decide)
  constructor
  · exact hwritten 42 ['4', '_', '2'] (by decide) hsmall (.gap '4' (.single '2'))
      (.inr ⟨[' '], ['\u3000'], by decide, List.forall_mem_singleton.mpr (by decide),
        List.forall_mem_singleton.mpr (by decide)⟩)
  · -- The point is no digit, so nothing is read from the text.
    rw [hcomplains]
    rintro ⟨n, hn, -⟩
    have hnone : Numeral.read? (Text.trim "42.0".toList) = none := by decide
    rw [Numeral.read?_trim_eq_some_iff.mpr hn] at hnone
    cases hnone

/-! ### The environment and configurations -/

/-- The environment reads one value like a configuration reads another one: as the same limit, or
both complain. -/
def ReadAlike (h : Heap) (limit : Limit) (said configured : Value) : Prop :=
  (∀ n : Int, h.fromEnvironment limit said = .ok (Table.ofList [(.text limit.key, .int n)]) ↔
      ∃ limits, h.fromConfiguration limit configured = .ok limits ∧ limits.get limit = n) ∧
    (Complains (h.fromEnvironment limit said) ↔ Complains (h.fromConfiguration limit configured))

/-- Values are read alike if the first one without its blanks and the second one as it is denote the
same. -/
theorem readAlike_of_trimmed {said configured : Value} (hsaid : said.IsTextual)
    (hconfigured : configured.IsTextual) (htrimmed : trimmed said = .ok value)
    (hsame : integer? value = integer? configured) : ReadAlike h limit said configured := by
  refine ⟨fun n => ?_, ?_⟩
  · rw [fromEnvironment_eq_ok_iff hsaid htrimmed, fromConfiguration_eq_ok_iff, hsame]
  · rw [fromEnvironment_complains_iff hsaid htrimmed, fromConfiguration_complains_iff hconfigured,
      IsLimit, IsLimit, hsame]

/-- **The environment and a configuration read bytes alike, and texts, unless** there is an
information separator among the blanks around a text: then a configuration complains, while the
environment reads what is left of the text without the blanks. -/
theorem environment_and_configuration (h : Heap) (limit : Limit) :
    (∀ serial bytes, ReadAlike h limit (.bytes serial bytes) (.bytes serial bytes)) ∧
    ∀ raw : String,
      (¬Numeral.HasSeparatorAround raw.toList → ReadAlike h limit (.text raw) (.text raw)) ∧
      (Numeral.HasSeparatorAround raw.toList →
        Complains (h.fromConfiguration limit (.text raw)) ∧
        ReadAlike h limit (.text raw) (.text (String.ofList (Text.trim raw.toList)))) := by
  refine ⟨fun serial bytes => ?_, fun raw => ⟨fun hnone => ?_, fun hseparator => ⟨?_, ?_⟩⟩⟩
  · refine readAlike_of_trimmed (.bytes serial bytes) (.bytes serial bytes) rfl ?_
    exact congrArg Except.ok (Numeral.readBytes?_trim bytes)
  · refine readAlike_of_trimmed (.text raw) (.text raw) (trimmed_text raw) ?_
    rw [integer?, integer?, String.toList_ofList, Numeral.read?_trim_of_no_separator hnone]
  · -- The configuration does not trim, and a numeral has no separators around it.
    rw [fromConfiguration_complains_iff (.text raw)]
    rintro ⟨n, hn, -⟩
    rw [integer?, Numeral.read?_of_separator hseparator] at hn
    cases hn
  · exact readAlike_of_trimmed (.text raw) (.text _) (trimmed_text raw) rfl

/-- A file separator before a digit: the environment reads the digit.  A space does not matter. -/
theorem separated_five :
    Numeral.HasSeparatorAround "\x1c5".toList ∧
      Complains (Heap.empty.fromConfiguration .maxGlobalVars (.text "\x1c5")) ∧
      ReadAlike Heap.empty .maxGlobalVars (.text "\x1c5") (.text "5") ∧
      ReadAlike Heap.empty .maxGlobalVars (.text " 5") (.text " 5") := by
  obtain ⟨-, htexts⟩ := environment_and_configuration Heap.empty .maxGlobalVars
  have hseparator : Numeral.HasSeparatorAround "\x1c5".toList :=
    ⟨['\x1c'], ['5'], [], by decide, List.forall_mem_singleton.mpr (by decide),
      List.forall_mem_nil _, '\x1c', by decide, by decide⟩
  have hspace : ¬Numeral.HasSeparatorAround " 5".toList := by
    rintro ⟨before, core, after, hcs, -, -, c, hc, hseparator⟩
    have hmem : c ∈ " 5".toList := by
      rw [hcs]
      -- A separator would have to stand before the numeral or after it.
      rcases List.mem_append.mp hc with hc | hc
      · exact List.mem_append_left _ (List.mem_append_left _ hc)
      · exact List.mem_append_right _ hc
    have hnone : " 5".toList.all (fun c => !Numeral.isSeparator c) = true := by decide
    have hnot := List.all_eq_true.mp hnone c hmem
    rw [hseparator] at hnot
    cases hnot
  obtain ⟨hcomplains, halike⟩ := (htexts "\x1c5").2 hseparator
  exact ⟨hseparator, hcomplains, halike, (htexts " 5").1 hspace⟩

/-- The environment and a configuration do not always read the same text alike. -/
theorem not_readAlike_separated :
    ¬∀ (h : Heap) (limit : Limit) (raw : Value), raw.IsTextual → ReadAlike h limit raw raw := by
  intro halike
  have hfive := halike Heap.empty .maxGlobalVars (.text "\x1c5") (.text _)
  have hread : Heap.empty.fromEnvironment .maxGlobalVars (.text "\x1c5") =
      .ok (Table.ofList [(.text Limit.maxGlobalVars.key, .int 5)]) := by
    refine (fromEnvironment_eq_ok_iff (.text _) (trimmed_text _)).mpr ⟨?_, by decide⟩
    have hread? : Numeral.read? (String.ofList (Text.trim "\x1c5".toList)).toList = some 5 := by
      decide
    rw [integer?, hread?]
  obtain ⟨limits, hok, -⟩ := (hfive.1 5).mp hread
  have hnone := (fromConfiguration_eq_ok_iff.mp ⟨limits, hok, rfl⟩).1
  have hread? : Numeral.read? "\x1c5".toList = none := by decide
  rw [integer?, hread?] at hnone
  cases hnone

end Heap

end BoundedVars
