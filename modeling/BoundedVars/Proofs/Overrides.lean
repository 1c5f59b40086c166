import BoundedVars.Proofs.Keyed
import BoundedVars.Proofs.Layers

/-!
# What the environment sets

An environment that says texts is read setting by setting, and what else is in it or in the memory
makes no difference (`Heap.IsEnvironment.overrides_eq`).  Either there is a complaint about an
argument or each limit that it speaks of gets the positive integer that its text stands for
(`Heap.get?_overrides_limit`).

So what has been read is never refused afterwards: merged with dictionaries that set limits to
positive integers it gives limits, each as the first of the dictionaries has it, or else the
environment, or else the default (`Heap.overrides_are_accepted`).
-/

namespace BoundedVars

open Except

/-- Settings are told apart by their keys. -/
theorem Setting.key_injective : Function.Injective Setting.key := by
  intro s t
  cases s with
  | limit l => cases t with
    | limit m => cases l <;> cases m <;> decide
    | logLevel => cases l <;> decide
  | logLevel => cases t with
    | limit m => cases m <;> decide
    | logLevel => decide

namespace Heap

variable {h : Heap} {env value : Value} {said : Setting → Option String} {found o : Entries}
  {s : Setting} {limit : Limit}

/-! ### One setting -/

/-- A text says the same about a setting in any memory. -/
theorem environmentValue_text (h : Heap) (s : Setting) (raw : String) :
    h.environmentValue s (.text raw) = Heap.empty.environmentValue s (.text raw) := by
  cases s with
  | limit limit =>
    rw [environmentValue_limit (trimmed_text raw), environmentValue_limit (trimmed_text raw),
      coerceLimit_congr (by simp [written, writtenWithin, nestingLimit, Value.writingLevels])]
  | logLevel => rfl

/-- About a limit it says the positive integer that it stands for. -/
theorem environmentValue_limit_eq_ok_iff {raw : String} :
    h.environmentValue (.limit limit) (.text raw) = .ok value ↔
      ∃ n : Int, Numeral.StandsFor raw.toList n ∧ 0 < n ∧ value = .int n := by
  rw [environmentValue_limit (trimmed_text raw), bind_eq_ok_iff]
  simp only [coerceLimit_eq_ok_iff, integer?_trimmed_text_iff, and_assoc, pure_eq_ok, ok.injEq]
  simp only [eq_comm]

/-- What a text says is complained about, if it says nothing. -/
theorem failsOnly_environmentValue (s : Setting) (raw : String) :
    FailsOnly (fun failure => failure.category = .invalidArgument)
      (h.environmentValue s (.text raw)) := by
  cases s with
  | limit limit =>
    rw [environmentValue_limit (trimmed_text raw)]
    refine FailsOnly.bind (fun failure hfails => ?_) fun _ => failsOnly_ok _
    by_contra hcategory
    exact (Value.IsTextual.text _).not_escapes (coerceLimit_escapes_iff.mp ⟨hfails, hcategory⟩)
  | logLevel => exact failsOnly_ok _

/-! ### All settings -/

/-- A mapping says texts about settings under their names, or nothing. -/
structure IsEnvironment (h : Heap) (env : Value) (said : Setting → Option String) : Prop where
  layered : h.Layered env
  found?_eq : ∀ s, h.found? env (.text s.environmentName) = (said s).map .text

/-- A layered mapping is an environment if nothing but texts stands in it under these names. -/
theorem exists_isEnvironment (hlayered : h.Layered env)
    (htexts : ∀ (s : Setting) (value : Value),
      h.found? env (.text s.environmentName) = some value → ∃ raw, value = .text raw) :
    ∃ said, h.IsEnvironment env said := by
  have hsaid (s : Setting) :
      ∃ raw? : Option String, h.found? env (.text s.environmentName) = raw?.map .text := by
    cases hentry : h.found? env (.text s.environmentName) with
    | none => exact ⟨none, rfl⟩
    | some value =>
      obtain ⟨raw, rfl⟩ := htexts s value hentry
      exact ⟨some raw, rfl⟩
  choose said hsaid using hsaid
  exact ⟨said, hlayered, hsaid⟩

/-- Adds what is said about a setting to what was found before. -/
def overridden (said : Setting → Option String) (found : Entries) (s : Setting) :
    Except Failure Entries :=
  match said s with
  | none => .ok found
  | some raw => do
    return found.insert (.text s.key) (← Heap.empty.environmentValue s (.text raw))

theorem IsEnvironment.override_eq (henv : h.IsEnvironment env said) :
    h.override env = overridden said := by
  funext found s
  have hget := get_of_hashable henv.layered (Value.hashable_text s.environmentName) .none
  rw [henv.found?_eq] at hget
  rw [overridden]
  cases hsaid : said s with
  | none =>
    rw [hsaid] at hget
    exact override_of_unset found hget
  | some raw =>
    rw [hsaid] at hget
    rw [override_of_textual found (.text raw) hget, environmentValue_text h]

/-- **Only what is said about the settings counts.** -/
theorem IsEnvironment.overrides_eq (henv : h.IsEnvironment env said) :
    h.environmentOverrides env = Setting.all.foldlM (overridden said) .empty := by
  rw [environmentOverrides_eq, henv.override_eq]

theorem failsOnly_overridden (found : Entries) (s : Setting) :
    FailsOnly (fun failure => failure.category = .invalidArgument) (overridden said found s) := by
  rw [overridden]
  cases said s with
  | none => exact failsOnly_ok _
  | some raw => exact (failsOnly_environmentValue s raw).bind fun _ => failsOnly_ok _

/-- What becomes of a setting, if nothing is complained about. -/
inductive Reads (said : Setting → Option String) (s : Setting) : Option Value → Prop
  | unset (hsaid : said s = none) : Reads said s none
  | set {raw : String} {value : Value} (hsaid : said s = some raw)
    (hvalue : Heap.empty.environmentValue s (.text raw) = .ok value) : Reads said s (some value)

/-- What is said about a setting is found under its key, and nothing else has changed. -/
theorem get?_overridden (hok : overridden said found s = .ok o) :
    (∃ new, Reads said s new ∧
      o.get? (.text s.key) = new.or (found.get? (.text s.key))) ∧
    ∀ t, t ≠ s → o.get? (.text t.key) = found.get? (.text t.key) := by
  rw [overridden] at hok
  cases hsaid : said s with
  | none =>
    rw [hsaid] at hok
    obtain rfl := Except.ok.inj hok
    exact ⟨⟨none, .unset hsaid, rfl⟩, fun _ _ => rfl⟩
  | some raw =>
    rw [hsaid] at hok
    obtain ⟨value, hvalue, hresult⟩ := bind_eq_ok_iff.mp hok
    obtain rfl := Except.ok.inj hresult
    refine ⟨⟨some value, .set hsaid hvalue, ?_⟩, fun t hne => ?_⟩
    · -- What was said has been written under the key of the setting.
      rw [Table.get?_insert_ite, if_pos (Value.hashable_text s.key).beq_self, Option.some_or]
    · -- Two settings have two keys.
      have hkey : ¬(Value.text s.key == .text t.key) = true := by
        rw [Value.beq_text_iff, Value.text.injEq]
        exact fun hkey => hne (Setting.key_injective hkey).symm
      rw [Table.get?_insert_ite, if_neg hkey]

/-- Going through settings, what is said about each of them is found under its key. -/
theorem reads_of_overridden {settings : List Setting} (hnodup : settings.Nodup)
    (hok : settings.foldlM (overridden said) found = .ok o) (t : Setting) :
    (t ∉ settings → o.get? (.text t.key) = found.get? (.text t.key)) ∧
      (t ∈ settings → found.get? (.text t.key) = none → Reads said t (o.get? (.text t.key))) := by
  induction settings generalizing found with
  | nil =>
    obtain rfl := Except.ok.inj hok
    exact ⟨fun _ => rfl, fun hmem => absurd hmem List.not_mem_nil⟩
  | cons s rest ih =>
    rw [List.foldlM_cons] at hok
    obtain ⟨next, hnext, hrest⟩ := bind_eq_ok_iff.mp hok
    obtain ⟨hnew, hrest_nodup⟩ := List.nodup_cons.mp hnodup
    obtain ⟨⟨new, hreads, hself⟩, hothers⟩ := get?_overridden hnext
    obtain ⟨houtside, hinside⟩ := ih hrest_nodup hrest
    refine ⟨fun hmem => ?_, fun hmem hnone => ?_⟩
    · rw [List.mem_cons, not_or] at hmem
      rw [houtside hmem.2, hothers t hmem.1]
    · rcases List.mem_cons.mp hmem with rfl | hmem
      · -- What was read stays, since the setting does not come again.
        rw [houtside hnew, hself, hnone, Option.or_none]
        exact hreads
      · have hne : t ≠ s := fun heq => hnew (heq ▸ hmem)
        exact hinside hmem ((hothers t hne).trans hnone)

/-- **Each setting becomes what is said about it.** -/
theorem IsEnvironment.reads (henv : h.IsEnvironment env said)
    (hok : h.environmentOverrides env = .ok o) (s : Setting) :
    Reads said s (o.get? (.text s.key)) := by
  rw [henv.overrides_eq] at hok
  exact (reads_of_overridden (by decide) hok s).2 (Setting.mem_all s) rfl

/-- A limit becomes the positive integer that the text about it stands for. -/
theorem Reads.ofLimit {new : Option Value} (hreads : Reads said (.limit limit) new) :
    (said (.limit limit) = none ∧ new = none) ∨
      ∃ raw n, said (.limit limit) = some raw ∧ Numeral.StandsFor raw.toList n ∧ 0 < n ∧
        new = some (.int n) := by
  cases hreads with
  | unset hsaid => exact .inl ⟨hsaid, rfl⟩
  | set hsaid hvalue =>
    obtain ⟨n, hn, hpos, rfl⟩ := environmentValue_limit_eq_ok_iff.mp hvalue
    exact .inr ⟨_, n, hsaid, hn, hpos, rfl⟩

/-! ### Using what was read -/

variable {address : Nat} {ds : List Value}

/-- Dictionaries set limits to positive integers, if they set them at all. -/
def SetsPositive (h : Heap) (ds : List Value) : Prop :=
  ∀ d ∈ ds, ∀ (limit : Limit) (value : Value),
    (h.entriesOf d).get? (.text limit.key) = some value → ∃ n : Int, value = .int n ∧ 0 < n

theorem SetsPositive.given (hds : h.SetsPositive ds) (limit : Limit) :
    ∃ n : Int, h.given ds (.limit limit) = .int n ∧ 0 < n := by
  rw [Heap.given, firstGiven]
  cases hfirst : ds.findSome? fun d => (h.entriesOf d).get? (.text (Setting.limit limit).key) with
  | none => exact ⟨limit.default, rfl, default_pos limit⟩
  | some value =>
    obtain ⟨d, hd, hvalue⟩ := List.exists_of_findSome?_eq_some hfirst
    exact hds d hd limit value hvalue

/-- Configurations merged from such dictionaries give the limits that these set. -/
theorem SetsPositive.configuredLimits (hds : h.SetsPositive ds) (hmerges : h.Merges address ds) :
    ∃ limits, h.configuredLimits (.config address) = .ok limits ∧
      ∀ limit, .int (limits.get limit) = h.given ds (.limit limit) := by
  choose n hn hpos using hds.given
  refine ⟨Limits.of n, ?_, fun limit => by rw [Limits.get_of, hn]⟩
  rw [configuredLimits_of_setting fun limit => setting_merged hmerges (.limit limit),
    coerceLimits_eq_ok_iff]
  intro limit
  rw [Limits.get_of, hn]
  exact ⟨rfl, hpos limit⟩

/-- **What the environment sets is always accepted afterwards.**  What is read from an environment
that says texts depends on these texts only, and it fails only with a complaint about an argument.
If it does not fail, then each limit that the environment speaks of is the positive integer that the
text stands for, and no other one is set.  Then dictionaries that set limits to positive integers,
merged with what was read, give limits: each is what the first of the dictionaries says that has it,
or else what was read, or else the default. -/
theorem overrides_are_accepted (henv : h.IsEnvironment env said) :
    (∀ (h' : Heap) (env' : Value), h'.IsEnvironment env' said →
      h'.environmentOverrides env' = h.environmentOverrides env) ∧
    (∀ failure, h.environmentOverrides env = .error failure →
      failure.category = .invalidArgument) ∧
    ∀ o, h.environmentOverrides env = .ok o →
      (∀ limit, (said (.limit limit) = none ∧ o.get? (.text limit.key) = none) ∨
        ∃ raw n, said (.limit limit) = some raw ∧ Numeral.StandsFor raw.toList n ∧ 0 < n ∧
          o.get? (.text limit.key) = some (.int n)) ∧
      ∀ (h' : Heap) (address other : Nat) (attributed : Bool) (ds : List Value),
        h'.Merges address (ds ++ [.dict attributed other]) → h'.dict other = o →
        h'.SetsPositive ds →
        ∃ limits, h'.configuredLimits (.config address) = .ok limits ∧
          ∀ limit, .int (limits.get limit) =
            ((h'.firstGiven ds limit.key).or (o.get? (.text limit.key))).getD
              (.int limit.default) := by
  refine ⟨fun h' env' henv' => ?_, ?_, fun o hok => ?_⟩
  · rw [henv.overrides_eq, henv'.overrides_eq]
  · rw [henv.overrides_eq]
    exact failsOnly_foldlM failsOnly_overridden _ _
  · have hlimit (limit : Limit) := (henv.reads hok (.limit limit)).ofLimit
    refine ⟨hlimit, fun h' address other attributed ds hmerges hother hds => ?_⟩
    -- What was read sets positive limits as well, so it can stand in line with the dictionaries.
    have hall : h'.SetsPositive (ds ++ [.dict attributed other]) := by
      intro d hd limit value hvalue
      rcases List.mem_append.mp hd with hd | hd
      · exact hds d hd limit value hvalue
      · obtain rfl := List.mem_singleton.mp hd
        have hread : o.get? (.text limit.key) = some value := hother ▸ hvalue
        rcases hlimit limit with ⟨-, hnone⟩ | ⟨raw, n, -, -, hpos, hn⟩
        · cases hnone.symm.trans hread
        · obtain rfl := Option.some.inj (hn.symm.trans hread)
          exact ⟨n, rfl, hpos⟩
    obtain ⟨limits, hlimits, hget⟩ := hall.configuredLimits hmerges
    refine ⟨limits, hlimits, fun limit => ?_⟩
    -- What was read comes last of the dictionaries and before the default.
    rw [hget, given, firstGiven, List.findSome?_append, List.findSome?_singleton]
    simp only [entriesOf, hother]
    rfl

/-- A memory with nothing but an environment that limits the size of keys. -/
def sevenInEnvironment : Heap :=
  (Heap.empty.solely (Setting.limit .maxKeySize).environmentName (.text " 7 ")).2

/-- The size of keys is all that the environment limits. -/
theorem isEnvironment_seven : sevenInEnvironment.IsEnvironment (.dict false 0)
    fun s => if s = .limit .maxKeySize then some " 7 " else none where
  layered := ⟨0, .dict 0 false 0⟩
  found?_eq s := by
    have hdict : sevenInEnvironment.dict 0 =
        ⟨[(.text (Setting.limit .maxKeySize).environmentName, .text " 7 ")]⟩ := rfl
    rw [found?, tables_dict, List.findSome?_singleton, hdict, Table.get?, List.find?_singleton,
      beq_text]
    by_cases hs : s = .limit .maxKeySize
    · simp [hs]
    · have hname : ¬(Setting.limit .maxKeySize).environmentName = s.environmentName :=
        fun hname => hs (environmentName_injective hname).symm
      simp [hs, hname]

/-- The environment limits the size of keys to seven, and a dictionary the number of global
variables to three. -/
theorem overrides_accepted_seven :
    let o : Entries := Table.ofList [(.text Limit.maxKeySize.key, .int 7)]
    let h : Heap := { Heap.empty with
      dicts := #[Table.ofList [(.text Limit.maxGlobalVars.key, .int 3)], o]
      configs := #[⟨.empty, [.dict false 0, .dict false 1]⟩] }
    sevenInEnvironment.environmentOverrides (.dict false 0) = .ok o ∧
      ∃ limits, h.configuredLimits (.config 0) = .ok limits ∧
        limits.get .maxKeySize = 7 ∧ limits.get .maxGlobalVars = 3 := by
  intro o h
  -- The text is read as a number, blanks and all.
  have hread : Heap.empty.fromEnvironment .maxKeySize (.text " 7 ") = .ok o :=
    (fromEnvironment_eq_ok_iff (.text " 7 ") (trimmed_text " 7 ")).mpr
      ⟨congrArg Except.ok (by decide), by decide⟩
  obtain ⟨-, -, haccepted⟩ := overrides_are_accepted isEnvironment_seven
  obtain ⟨-, husable⟩ := haccepted o hread
  have hmerges : h.Merges 0 ([.dict false 0] ++ [.dict false 1]) := by
    refine ⟨by decide, rfl, fun d hd => ?_⟩
    rcases List.mem_append.mp hd with hd | hd
    · exact List.mem_singleton.mp hd ▸ .intro false 0
    · exact List.mem_singleton.mp hd ▸ .intro false 1
  have hds : h.SetsPositive [.dict false 0] := by
    intro d hd limit value hvalue
    obtain rfl := List.mem_singleton.mp hd
    cases limit with
    | maxGlobalVars => exact ⟨3, (Option.some.inj hvalue).symm, by decide⟩
    | _ => cases hvalue
  obtain ⟨limits, hlimits, hget⟩ := husable h 0 1 false [.dict false 0] hmerges rfl hds
  exact ⟨hread, limits, hlimits, Value.int.inj (hget .maxKeySize),
    Value.int.inj (hget .maxGlobalVars)⟩

end Heap

end BoundedVars
