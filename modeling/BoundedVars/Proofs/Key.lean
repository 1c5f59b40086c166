import BoundedVars.Proofs.Truncation

/-!
# What values are as keys

Whether two values are the same key is a comparison through all their kinds.  `Value.key?` gives
what is compared: a number is known as a key by what it counts, whatever its kind, a tuple by its
items, and an object by its identity.  A value has a key exactly if it can be one
(`Value.isSome_key?`), and two values are the same key exactly if they have one and the same
(`Value.beq_iff`).  So being the same key is symmetric and transitive, and every value that can be a
key is the same key as itself.
-/

namespace BoundedVars

/-! ### Numbers -/

/-- What a number counts: a rational number, or an infinity; the value that is no number counts
nothing. -/
inductive Worth where
  | rational (q : ℚ)
  | infinite (negative : Bool)

namespace Double

/-- Comparing two scaled integers compares what they count. -/
theorem compareScaled_eq_iff (a p b q : Int) :
    compareScaled a p b q = .eq ↔ (a : ℚ) * 2 ^ p = b * 2 ^ q := by
  have htwo : (2 : ℚ) ≠ 0 := by norm_num
  -- Both are counted in units of the lesser power.
  have hscaled (c r : Int) (hr : min p q ≤ r) :
      ((c * power 2 (r - min p q) : Int) : ℚ) = (c : ℚ) * 2 ^ r * (2 ^ min p q)⁻¹ := by
    obtain ⟨k, hk⟩ := Int.eq_ofNat_of_zero_le (sub_nonneg.mpr hr)
    have hpower : ((power 2 (r - min p q) : Nat) : ℚ) = 2 ^ (r - min p q) := by
      rw [hk, zpow_natCast]
      simp [power]
    rw [Int.cast_mul, Int.cast_natCast, hpower, zpow_sub₀ htwo, div_eq_mul_inv, mul_assoc]
  have hunit : ((2 : ℚ) ^ min p q)⁻¹ ≠ 0 := inv_ne_zero (zpow_ne_zero _ htwo)
  rw [compareScaled, compare_eq_iff_eq, ← Int.cast_inj (α := ℚ), hscaled a p (min_le_left p q),
    hscaled b q (min_le_right p q), mul_left_inj' hunit]

/-- What a double counts. -/
def worth? : Double → Option Worth
  | finite negative significand exponent => some (.rational (toRat negative significand exponent))
  | infinite negative => some (.infinite negative)
  | nan => none

theorem compareInt?_eq_iff {n : Int} {x : Double} :
    compareInt? n x = some .eq ↔ x.worth? = some (.rational n) := by
  cases x with
  | finite negative significand exponent =>
    rw [compareInt?, worth?, Option.some.injEq, compareScaled_eq_iff, zpow_zero, mul_one,
      Option.some.injEq, Worth.rational.injEq]
    exact eq_comm
  | infinite negative => cases negative <;> simp [compareInt?, worth?]
  | nan => simp [compareInt?, worth?]

theorem compare?_eq_iff {x y : Double} :
    compare? x y = some .eq ↔ ∃ w, x.worth? = some w ∧ y.worth? = some w := by
  cases x with
  | finite negative significand exponent =>
    cases y with
    | finite other significand' exponent' =>
      have hcompare := compareScaled_eq_iff (signed negative significand) exponent
        (signed other significand') exponent'
      simp only [compare?, worth?, Option.some.injEq, hcompare, exists_eq_left',
        Worth.rational.injEq]
      exact eq_comm
    | infinite other => cases other <;> simp [compare?, worth?]
    | nan => simp [compare?, worth?]
  | infinite negative =>
    cases y with
    | finite => cases negative <;> simp [compare?, worth?]
    | infinite other => cases negative <;> cases other <;> simp [compare?, worth?]
    | nan => simp [compare?, worth?]
  | nan => cases y <;> simp [compare?, worth?]

end Double

/-- What a number counts. -/
def Value.Number.worth? : Value.Number → Option Worth
  | .int n => some (.rational n)
  | .float x => x.worth?

/-- Numbers count the same exactly if it is one thing that they count. -/
theorem Value.Number.eq_iff {m n : Value.Number} :
    m.eq n = true ↔ ∃ w, m.worth? = some w ∧ n.worth? = some w := by
  cases m with
  | int m =>
    cases n with
    | int n =>
      simp only [Number.eq, worth?, beq_iff_eq, Option.some.injEq, exists_eq_left',
        Worth.rational.injEq, Int.cast_inj]
      exact eq_comm
    | float y => simp [Number.eq, worth?, Double.compareInt?_eq_iff]
  | float x =>
    cases n with
    | int n => simp [Number.eq, worth?, Double.compareInt?_eq_iff]
    | float y => simp [Number.eq, worth?, Double.compare?_eq_iff]

/-! ### Keys -/

/-- What a value is as a key. -/
inductive Key where
  | nothing
  | number (worth : Worth)
  /-- The value that is no number, known by its serial number only. -/
  | notNumber (serial : Nat)
  | text (s : String)
  | bytes (bytes : List UInt8)
  | tuple (items : List Key)
  | context (address : Nat)
  | store (address : Nat)
  | raising (serial : Nat)
  | notCallable (serial : Nat)
  | plain (serial : Nat)

namespace Value

/-- What a value is as a key, if it can be one. -/
@[simp] def key? : Value → Option Key
  | none => some .nothing
  | bool b => some (.number (.rational (if b then 1 else 0)))
  | int n => some (.number (.rational n))
  | text s => some (.text s)
  | float serial x =>
    match x.worth? with
    | some worth => some (.number worth)
    | Option.none => some (.notNumber serial)
  | bytes _ bs => some (.bytes bs)
  | tuple _ items => (keys? items).map .tuple
  | limits _ a b c d => do return .tuple [← a.key?, ← b.key?, ← c.key?, ← d.key?]
  | context address => some (.context address)
  | store address => some (.store address)
  | raising serial _ => some (.raising serial)
  | notCallable serial => some (.notCallable serial)
  | plain serial => some (.plain serial)
  | list .. | view .. | dict .. | config _ => Option.none
where
  /-- What values are as keys, if all of them can be. -/
  keys? : List Value → Option (List Key)
    | [] => some []
    | x :: rest => do return (← x.key?) :: (← keys? rest)

/-- A value that counts as a number is that number as a key. -/
theorem key?_of_number {v : Value} {n : Number} {w : Worth} (hnumber : v.number? = some n)
    (hworth : n.worth? = some w) : v.key? = some (.number w) := by
  cases v with
  | bool b =>
    obtain rfl := Option.some.inj hnumber
    cases b <;> simpa [Number.worth?] using hworth
  | int m =>
    obtain rfl := Option.some.inj hnumber
    simpa [Number.worth?] using hworth
  | float serial x =>
    obtain rfl := Option.some.inj hnumber
    rw [Number.worth?] at hworth
    rw [key?, hworth]
  | _ => cases hnumber

/-- Being a number as a key, it counts as one. -/
theorem number?_of_key {v : Value} {w : Worth} (hkey : v.key? = some (.number w)) :
    ∃ n, v.number? = some n ∧ n.worth? = some w := by
  cases v with
  | bool b =>
    refine ⟨_, rfl, ?_⟩
    cases b <;> simpa [Number.worth?] using hkey
  | int n => exact ⟨_, rfl, by simpa [Number.worth?] using hkey⟩
  | float serial x =>
    refine ⟨_, rfl, ?_⟩
    cases hworth : x.worth? <;> simp_all [Number.worth?]
  | tuple serial items => cases hkeys : key?.keys? items <;> simp [hkeys] at hkey
  | limits serial a b c d =>
    cases ha : a.key? <;> cases hb : b.key? <;> cases hc : c.key? <;> cases hd : d.key? <;>
      simp [ha, hb, hc, hd] at hkey
  | _ => simp at hkey

/-- A number is the same key as whatever counts the same. -/
theorem isNumber_iff {m : Number} {w : Worth} (hm : m.worth? = some w) (y : Value) :
    sameKey.isNumber m y = true ↔ y.key? = some (.number w) := by
  rw [sameKey.isNumber]
  constructor
  · -- What counts the same is a number too, and this is its key.
    intro hsame
    cases hnumber : y.number? with
    | none => simp [hnumber] at hsame
    | some n =>
      simp only [hnumber, Number.eq_iff] at hsame
      obtain ⟨w', hm', hn⟩ := hsame
      obtain rfl := Option.some.inj (hm.symm.trans hm')
      exact key?_of_number hnumber hn
  · intro hkey
    obtain ⟨n, hnumber, hn⟩ := number?_of_key hkey
    simp only [hnumber, Number.eq_iff]
    exact ⟨w, hm, hn⟩

theorem keys?_cons_eq_some {x : Value} {rest : List Value} {ks : List Key} :
    key?.keys? (x :: rest) = some ks ↔
      ∃ k ks', x.key? = some k ∧ key?.keys? rest = some ks' ∧ ks = k :: ks' := by
  rw [key?.keys?]
  cases x.key? <;> cases key?.keys? rest <;> simp [eq_comm]

/-- Limits are as a key what the tuple of them is. -/
theorem key?_limits (serial : Nat) (a b c d : Value) :
    (limits serial a b c d).key? = (key?.keys? [a, b, c, d]).map .tuple := by
  simp only [key?, key?.keys?]
  cases a.key? <;> cases b.key? <;> cases c.key? <;> cases d.key? <;> rfl

/-- As a key, limits are a tuple. -/
theorem key?_limits_eq_some {serial : Nat} {a b c d : Value} {k : Key}
    (hkey : (limits serial a b c d).key? = some k) : ∃ ks, k = .tuple ks := by
  obtain ⟨ks, -, rfl⟩ := Option.map_eq_some_iff.mp (key?_limits serial a b c d ▸ hkey)
  exact ⟨ks, rfl⟩

theorem key?_eq_tuple_iff {v : Value} {ks : List Key} :
    v.key? = some (.tuple ks) ↔
      ∃ items, v.tupleItems? = some items ∧ key?.keys? items = some ks := by
  cases v with
  | tuple serial items => simp [tupleItems?]
  | limits serial a b c d =>
    rw [key?_limits]
    simp [tupleItems?]
  | float serial x => cases hworth : x.worth? <;> simp [tupleItems?, hworth]
  | _ => simp [tupleItems?]

/-- Only a text is a text as a key. -/
theorem key?_eq_text_iff {v : Value} {s : String} : v.key? = some (.text s) ↔ v = .text s := by
  cases v with
  | float serial x => cases hworth : x.worth? <;> simp [hworth]
  | limits serial a b c d =>
    refine iff_of_false (fun hkey => ?_) (by simp)
    obtain ⟨ks, hks⟩ := key?_limits_eq_some hkey
    cases hks
  | _ => simp

/-- Two values are the same key exactly if they have one and the same. -/
def KeysAgree (v w : Value) : Prop :=
  v.sameKey w = true ↔ ∃ k, v.key? = some k ∧ w.key? = some k

/-- Two lists of values are the same keys exactly if they have the same. -/
def KeyListsAgree (vs ws : List Value) : Prop :=
  sameKey.sameKeys vs ws = true ↔ ∃ ks, key?.keys? vs = some ks ∧ key?.keys? ws = some ks

theorem sameKeys_nil : sameKey.sameKeys [] [] = true := rfl

theorem sameKeys_nil_cons (w : Value) (ws : List Value) :
    sameKey.sameKeys [] (w :: ws) = false := rfl

theorem sameKeys_cons_nil (v : Value) (vs : List Value) :
    sameKey.sameKeys (v :: vs) [] = false := rfl

theorem sameKeys_cons (v w : Value) (vs ws : List Value) :
    sameKey.sameKeys (v :: vs) (w :: ws) = (v.sameKey w && sameKey.sameKeys vs ws) := rfl

theorem keyListsAgree_nil (ws : List Value) : KeyListsAgree [] ws := by
  rw [KeyListsAgree]
  cases ws with
  | nil => simp [sameKeys_nil, key?.keys?]
  | cons w ws =>
    refine iff_of_false (by simp [sameKeys_nil_cons]) ?_
    rintro ⟨ks, hks, hks'⟩
    obtain rfl := Option.some.inj hks
    obtain ⟨k, ks, -, -, heq⟩ := keys?_cons_eq_some.mp hks'
    cases heq

theorem KeyListsAgree.cons {v : Value} {vs : List Value} (hv : ∀ w, KeysAgree v w)
    (hvs : ∀ ws, KeyListsAgree vs ws) (ws : List Value) : KeyListsAgree (v :: vs) ws := by
  rw [KeyListsAgree]
  cases ws with
  | nil =>
    refine iff_of_false (by simp [sameKeys_cons_nil]) ?_
    rintro ⟨ks, hks, hks'⟩
    obtain rfl := Option.some.inj hks'
    obtain ⟨k, ks, -, -, heq⟩ := keys?_cons_eq_some.mp hks
    cases heq
  | cons w ws =>
    rw [sameKeys_cons, Bool.and_eq_true, show v.sameKey w = true ↔ _ from hv w,
      show sameKey.sameKeys vs ws = true ↔ _ from hvs ws]
    simp only [keys?_cons_eq_some]
    constructor
    · rintro ⟨⟨k, hk, hk'⟩, ks, hks, hks'⟩
      exact ⟨k :: ks, ⟨k, ks, hk, hks, rfl⟩, k, ks, hk', hks', rfl⟩
    · rintro ⟨_, ⟨k, ks, hk, hks, rfl⟩, k', ks', hk', hks', heq⟩
      obtain ⟨rfl, rfl⟩ := List.cons.inj heq
      exact ⟨⟨k, hk, hk'⟩, ks, hks, hks'⟩

/-- A value with these items is compared with others item by item. -/
theorem keysAgree_of_items {v : Value} {items : List Value}
    (hkey : v.key? = (key?.keys? items).map .tuple)
    (hsame : ∀ w, v.sameKey w = match w.tupleItems? with
      | some others => sameKey.sameKeys items others
      | Option.none => false)
    (hitems : ∀ others, KeyListsAgree items others) (w : Value) : KeysAgree v w := by
  rw [KeysAgree, hsame, hkey]
  constructor
  · intro hw
    cases hothers : w.tupleItems? with
    | none => simp [hothers] at hw
    | some others =>
      simp only [hothers] at hw
      -- The items have one list of keys, and its tuple is the key of both.
      obtain ⟨ks, hks, hks'⟩ := (hitems others).mp hw
      exact ⟨.tuple ks, by rw [hks]; rfl, key?_eq_tuple_iff.mpr ⟨others, hothers, hks'⟩⟩
  · rintro ⟨k, hk, hw⟩
    obtain ⟨ks, hks, rfl⟩ := Option.map_eq_some_iff.mp hk
    obtain ⟨others, hothers, hks'⟩ := key?_eq_tuple_iff.mp hw
    simp only [hothers]
    exact (hitems others).mpr ⟨ks, hks, hks'⟩

theorem sameKey_limits (serial : Nat) (a b c d w : Value) :
    (limits serial a b c d).sameKey w = match w.tupleItems? with
      | some others => sameKey.sameKeys [a, b, c, d] others
      | Option.none => false := by
  rw [sameKey]
  cases w.tupleItems? with
  | none => rfl
  | some others =>
    -- Limits have four items, so lists of any other length differ from them.
    rcases others with _ | ⟨a', _ | ⟨b', _ | ⟨c', _ | ⟨d', _ | ⟨e', rest⟩⟩⟩⟩⟩ <;>
      simp [sameKeys_nil, sameKeys_nil_cons, sameKeys_cons_nil, sameKeys_cons, Bool.and_assoc]

mutual

/-- **Two values are the same key exactly if they have one and the same.** -/
theorem keysAgree : ∀ v w : Value, KeysAgree v w
  | bool b, w => by
    have hworth : (Number.int (if b then 1 else 0)).worth? =
        some (.rational (if b then 1 else 0)) := by cases b <;> simp [Number.worth?]
    simpa [KeysAgree, sameKey] using isNumber_iff hworth w
  | int n, w => by
    have hworth : (Number.int n).worth? = some (.rational n) := rfl
    simpa [KeysAgree, sameKey] using isNumber_iff hworth w
  | float serial x, w => by
    rw [KeysAgree]
    cases hworth : x.worth? with
    | some worth =>
      have hsame : (float serial x).sameKey w = sameKey.isNumber (.float x) w := by
        cases x <;> first | rfl | cases hworth
      have hnumber : (Number.float x).worth? = some worth := hworth
      simpa [hsame, hworth] using isNumber_iff hnumber w
    | none =>
      -- Only a number that is no number is worth nothing, and it equals nothing but itself.
      obtain rfl : x = .nan := by cases x <;> first | rfl | cases hworth
      cases w with
      | float other y =>
        cases y with
        | nan => simpa [sameKey, Double.worth?] using eq_comm
        | _ => simp [sameKey, Double.worth?]
      | limits other a b c d =>
        refine iff_of_false (by simp [sameKey]) ?_
        rintro ⟨k, hk, hkey⟩
        obtain ⟨ks, rfl⟩ := key?_limits_eq_some hkey
        simp [Double.worth?] at hk
      | _ => simp [sameKey, Double.worth?]
  | tuple serial items, w =>
    keysAgree_of_items rfl (fun _ => rfl) (keyListsAgree items) w
  | limits serial a b c d, w =>
    keysAgree_of_items (key?_limits serial a b c d) (sameKey_limits serial a b c d)
      (.cons (keysAgree a) (.cons (keysAgree b) (.cons (keysAgree c) (.cons (keysAgree d)
        keyListsAgree_nil)))) w
  -- What is no number and has no items counts only as what it is.
  | none, w | text _, w | bytes .., w | list .., w | view .., w | dict .., w | config _, w
  | context _, w | store _, w | raising .., w | notCallable _, w | plain _, w => by
    cases w with
    | float serial y => cases hworth : y.worth? <;> simp [KeysAgree, sameKey, hworth]
    | limits serial a b c d =>
      refine iff_of_false (by simp [sameKey]) ?_
      rintro ⟨k, hk, hkey⟩
      obtain ⟨ks, rfl⟩ := key?_limits_eq_some hkey
      simp at hk
    | _ => simp [KeysAgree, sameKey] <;> exact eq_comm

theorem keyListsAgree : ∀ vs ws : List Value, KeyListsAgree vs ws
  | [], ws => keyListsAgree_nil ws
  | v :: vs, ws => .cons (keysAgree v) (keyListsAgree vs) ws

end

theorem beq_iff {v w : Value} : (v == w) = true ↔ ∃ k, v.key? = some k ∧ w.key? = some k :=
  keysAgree v w

theorem beq_text_iff {v : Value} {s : String} : (v == text s) = true ↔ v = text s := by
  rw [beq_iff, ← key?_eq_text_iff]
  simp

/-- Being the same key is symmetric and transitive. -/
instance : PartialEquivBEq Value where
  symm {v w} hsame := by
    obtain ⟨k, hv, hw⟩ := beq_iff.mp hsame
    exact beq_iff.mpr ⟨k, hw, hv⟩
  trans {u v w} hfirst hsecond := by
    obtain ⟨k, hu, hv⟩ := beq_iff.mp hfirst
    obtain ⟨k', hv', hw⟩ := beq_iff.mp hsecond
    obtain rfl := Option.some.inj (hv.symm.trans hv')
    exact beq_iff.mpr ⟨k, hu, hw⟩

/-! ### Which values can be keys -/

/-- A value can be a key. -/
def Hashable (v : Value) : Prop := v.unhashable? = Option.none

instance (v : Value) : Decidable v.Hashable :=
  inferInstanceAs (Decidable (v.unhashable? = Option.none))

theorem hashable_text (s : String) : (text s).Hashable := rfl

mutual

/-- **A value has a key exactly if it can be one.** -/
theorem isSome_key? : ∀ v : Value, v.key?.isSome = true ↔ v.Hashable
  | none | bool _ | int _ | text _ | bytes .. | list .. | view .. | dict .. | config _ | context _
  | store _ | raising .. | notCallable _ | plain _ => by simp [Hashable, unhashable?]
  | float serial x => by cases hworth : x.worth? <;> simp [Hashable, unhashable?, hworth]
  | tuple serial items => by
    simpa [Hashable, unhashable?] using isSome_keys? items
  | limits serial a b c d => by
    have ha := isSome_key? a
    have hb := isSome_key? b
    have hc := isSome_key? c
    have hd := isSome_key? d
    simp only [Hashable] at ha hb hc hd
    simp only [key?, Hashable, unhashable?, Option.orElse_eq_orElse, Option.orElse_eq_or,
      Option.or_eq_none_iff, ← ha, ← hb, ← hc, ← hd]
    cases a.key? <;> cases b.key? <;> cases c.key? <;> cases d.key? <;> simp

theorem isSome_keys? : ∀ items : List Value,
    (key?.keys? items).isSome = true ↔ unhashable?.unhashableIn? items = Option.none
  | [] => by simp [key?.keys?, unhashable?.unhashableIn?]
  | v :: rest => by
    have hv := isSome_key? v
    have hrest := isSome_keys? rest
    simp only [Hashable] at hv
    simp only [key?.keys?, unhashable?.unhashableIn?, Option.orElse_eq_orElse,
      Option.orElse_eq_or, Option.or_eq_none_iff, ← hv, ← hrest]
    cases v.key? <;> cases key?.keys? rest <;> simp

end

/-- What can be a key is the same key as itself. -/
theorem Hashable.beq_self {v : Value} (hv : v.Hashable) : (v == v) = true := by
  obtain ⟨k, hk⟩ := Option.isSome_iff_exists.mp ((isSome_key? v).mpr hv)
  exact beq_iff.mpr ⟨k, hk, hk⟩

/-- Only what can be a key is the same key as something. -/
theorem hashable_of_beq {v w : Value} (hsame : (v == w) = true) : v.Hashable := by
  obtain ⟨k, hk, -⟩ := beq_iff.mp hsame
  exact (isSome_key? v).mp (Option.isSome_of_eq_some hk)

end Value

end BoundedVars
