import BoundedVars.Proofs.Memory
import BoundedVars.Proofs.Session.Running

/-!
# What comes of a part of a session

A session is sound if everything in memory is, and everything saved under a name
(`Session.Sound`).  `Run.Yields p run` says of a part of a session that, carried out in a sound
session, it leaves a sound one, and that `p` holds of its result, if it has one.  A sequence goes on
with what is known of the results so far (`Run.yields_bind`), so whatever is put together from parts
comes to the facts about memories that these are made of.  Terms have sound values
(`Run.yields_eval`).
-/

namespace BoundedVars

variable {v : Value}

/-- A session in which everything is sound. -/
structure Session.Sound (s : Session) : Prop where
  heap : s.heap.AllSound
  names : ∀ v ∈ s.names.values, v.Sound

theorem Session.sound_start : start.Sound :=
  ⟨Heap.allSound_empty, fun _ hv => absurd hv List.not_mem_nil⟩

/-- A result that is sound, if it is a value. -/
def Result.Sound : Result → Prop
  | .value v => v.Sound
  | .datum _ | .filled .. => True

namespace Result

@[simp] theorem sound_datum (d : Datum) : (datum d).Sound := trivial

@[simp] theorem sound_filled (done : Nat) (failed : List (Int × Complaint)) :
    (filled done failed).Sound := trivial

@[simp] theorem sound_nothing : nothing.Sound := Value.sound_none

@[simp] theorem sound_ofText (text : String) : (ofText text).Sound :=
  (Value.hashable_text text).sound

@[simp] theorem sound_ofText? (text : Option String) : (ofText? text).Sound := by
  cases text with
  | none => exact Value.sound_none
  | some text => exact sound_ofText text

@[simp] theorem sound_ofBool (b : Bool) : (ofBool b).Sound := Value.Hashable.sound rfl

@[simp] theorem sound_ofCount (n : Nat) : (ofCount n).Sound := Value.Hashable.sound rfl

@[simp] theorem sound_ofTexts (texts : List String) : (ofTexts texts).Sound := trivial

end Result

namespace Run

variable {α β : Type} {p : α → Prop} {q : β → Prop} {run : Run α} {next : α → Run β}

/-- Carried out in a sound session it leaves a sound one, and `p` holds of its result. -/
def Yields (p : α → Prop) (run : Run α) : Prop :=
  ∀ s : Session, s.Sound → (run.on s).2.Sound ∧ ∀ a, (run.on s).1 = .ok a → p a

/-- Carried out in a sound session it leaves a sound one, whatever comes of it. -/
abbrev StaysSound (run : Run α) : Prop :=
  Yields (fun _ => True) run

/-! ### Sequences -/

theorem Yields.staysSound (hrun : Yields p run) : StaysSound run :=
  fun s hs => ⟨(hrun s hs).1, fun _ _ => trivial⟩

@[simp] theorem yields_pure {a : α} (ha : p a) : Yields p (pure a) :=
  fun _ hs => ⟨hs, fun _ hresult => Except.ok.inj hresult ▸ ha⟩

@[simp] theorem yields_throw (failure : Failure) : Yields p (throw failure) :=
  fun _ hs => ⟨hs, nofun⟩

theorem yields_bind (hrun : Yields p run) (hnext : ∀ a, p a → Yields q (next a)) :
    Yields q (run >>= next) := by
  intro s hs
  obtain ⟨ht, hp⟩ := hrun s hs
  rw [on_bind]
  cases hon : run.on s with
  | mk result t =>
    rw [hon] at ht hp
    cases result with
    | ok a => exact hnext a (hp a rfl) t ht
    | error failure => exact ⟨ht, nofun⟩

theorem staysSound_bind (hrun : StaysSound run) (hnext : ∀ a, Yields q (next a)) :
    Yields q (run >>= next) :=
  yields_bind hrun fun a _ => hnext a

theorem yields_map {f : α → β} (hrun : Yields p run) (hf : ∀ a, p a → q (f a)) :
    Yields q (f <$> run) := by
  rw [map_eq_pure_bind]
  exact yields_bind hrun fun a ha => yields_pure (hf a ha)

theorem yields_tryCatch {handle : Failure → Run α} (hrun : Yields p run)
    (hhandle : ∀ failure, Yields p (handle failure)) : Yields p (tryCatch run handle) := by
  intro s hs
  obtain ⟨ht, hp⟩ := hrun s hs
  rw [on_tryCatch]
  cases hon : run.on s with
  | mk result t =>
    rw [hon] at ht hp
    cases result with
    | ok a => exact ⟨ht, hp⟩
    | error failure => exact hhandle failure t ht

theorem staysSound_attempt (hrun : StaysSound run) : StaysSound (attempt run) :=
  yields_tryCatch (staysSound_bind hrun fun _ => yields_pure trivial) fun _ => yields_pure trivial

@[simp] theorem staysSound_mapM {f : α → Run β} (hf : ∀ a, StaysSound (f a)) (as : List α) :
    StaysSound (as.mapM f) := by
  induction as with
  | nil => exact yields_pure trivial
  | cons a rest ih =>
    rw [List.mapM_cons]
    exact staysSound_bind (hf a) fun _ => yields_map ih fun _ _ => trivial

theorem yields_optionMapM {f : α → Run β} (hf : ∀ a, Yields q (f a)) (a : Option α) :
    Yields (fun b => ∀ found, b = some found → q found) (a.mapM f) := by
  cases a with
  | none => exact yields_pure nofun
  | some a =>
    refine yields_map (hf a) fun b hb found hfound => ?_
    exact Option.some.inj hfound ▸ hb

@[simp] theorem staysSound_optionMapM {f : α → Run β} (hf : ∀ a, StaysSound (f a))
    (a : Option α) : StaysSound (a.mapM f) :=
  (yields_optionMapM hf a).staysSound

theorem staysSound_forM {f : α → Run PUnit} (hf : ∀ a, StaysSound (f a)) (as : List α) :
    StaysSound (as.forM f) := by
  induction as with
  | nil => exact yields_pure trivial
  | cons a rest ih => exact staysSound_bind (hf a) fun _ => ih

theorem staysSound_foldlM {f : β → α → Run β} (hf : ∀ b a, StaysSound (f b a)) (as : List α) :
    ∀ b, StaysSound (as.foldlM f b) := by
  induction as with
  | nil => exact fun _ => yields_pure trivial
  | cons a rest ih =>
    intro b
    rw [List.foldlM_cons]
    exact staysSound_bind (hf b a) ih

/-! ### What a session is made of -/

theorem yields_get : Yields Session.Sound get :=
  fun _ hs => ⟨hs, fun _ hresult => Except.ok.inj hresult ▸ hs⟩

@[simp] theorem staysSound_get : StaysSound (get : Run Session) :=
  yields_get.staysSound

/-- Something is changed that is neither in memory nor saved. -/
theorem staysSound_modify {f : Session → Session} (hheap : ∀ s, (f s).heap = s.heap)
    (hnames : ∀ s, (f s).names = s.names) : StaysSound (modify f) :=
  fun s hs => ⟨⟨(hheap s).symm ▸ hs.heap, (hnames s).symm ▸ hs.names⟩, fun _ _ => trivial⟩

theorem yields_heap : Yields Heap.AllSound heap :=
  fun _ hs => ⟨hs, fun _ hresult => Except.ok.inj hresult ▸ hs.heap⟩

@[simp] theorem staysSound_heap : StaysSound heap :=
  yields_heap.staysSound

theorem yields_ofExcept {result : Except Failure α} (hresult : ∀ a, result = .ok a → p a) :
    Yields p (ofExcept result) := by
  intro s hs
  rw [on_ofExcept]
  exact ⟨hs, hresult⟩

@[simp] theorem staysSound_ofExcept (result : Except Failure α) : StaysSound (ofExcept result) :=
  yields_ofExcept fun _ _ => trivial

theorem yields_read {f : Heap → Except Failure α}
    (hf : ∀ h a, Heap.AllSound h → f h = .ok a → p a) : Yields p (read f) :=
  yields_bind yields_heap fun h hsound => yields_ofExcept fun a => hf h a hsound

@[simp] theorem staysSound_read (f : Heap → Except Failure α) : StaysSound (read f) :=
  yields_read fun _ _ _ _ => trivial

theorem staysSound_setHeap {h : Heap} (hsound : h.AllSound) : StaysSound (setHeap h) :=
  fun _ hs => ⟨⟨hsound, hs.names⟩, fun _ _ => trivial⟩

theorem yields_allocate {make : Heap → Value × Heap}
    (hmake : ∀ h, Heap.AllSound h → (make h).1.Sound ∧ (make h).2.AllSound) :
    Yields Value.Sound (allocate make) :=
  yields_bind yields_heap fun h hsound =>
    staysSound_bind (staysSound_setHeap (hmake h hsound).2) fun _ =>
      yields_pure (hmake h hsound).1

/-- Replacing the heap by one that is read off it. -/
theorem yields_update {f : Heap → Except Failure Heap}
    (hf : ∀ {h h'}, Heap.AllSound h → f h = .ok h' → h'.AllSound) (hrun : Yields p run) :
    Yields p (read f >>= fun h => setHeap h >>= fun _ => run) :=
  yields_bind (yields_read fun _ _ hsound hok => hf hsound hok) fun _ hsound =>
    staysSound_bind (staysSound_setHeap hsound) fun _ => hrun

@[simp] theorem staysSound_freshSerials (count : Nat) : StaysSound (freshSerials count) :=
  fun _ hs => ⟨⟨hs.heap, hs.names⟩, fun _ _ => trivial⟩

@[simp] theorem staysSound_freshSerial : StaysSound freshSerial :=
  staysSound_freshSerials 1

theorem staysSound_save (name : String) (hv : v.Sound) : StaysSound (save name v) := by
  refine fun s hs => ⟨⟨hs.heap, fun w hw => ?_⟩, fun _ _ => trivial⟩
  rcases Table.mem_values_insert hw with rfl | hw
  · exact hv
  · exact hs.names w hw

theorem yields_saved (name : String) : Yields Value.Sound (saved name) := by
  refine yields_bind yields_get fun s hs => ?_
  split
  · rename_i v hv
    exact yields_pure (hs.names v (Table.mem_values_of_get? hv))
  · exact yields_throw _

@[simp] theorem staysSound_saved (name : String) : StaysSound (saved name) :=
  (yields_saved name).staysSound

@[simp] theorem staysSound_note (entry : TraceEntry) : StaysSound (note entry) :=
  staysSound_modify (fun _ => rfl) fun _ => rfl

@[simp] theorem staysSound_log (severity : Severity) (message : String) (cause : Option Category) :
    StaysSound (log severity message cause) := by
  refine staysSound_bind staysSound_get fun s => ?_
  split_ifs
  · exact staysSound_bind (staysSound_note _) fun _ => staysSound_ofExcept _
  · exact yields_pure trivial

@[simp] theorem staysSound_datum (v : Value) : StaysSound (datum v) :=
  staysSound_bind staysSound_get fun _ => staysSound_ofExcept _

theorem yields_newDict {entries : Entries} (hentries : entries.Sound) (attributed : Bool) :
    Yields Value.Sound (allocate fun h => h.newDict attributed entries) :=
  yields_allocate fun _ hsound => ⟨Value.sound_dict _ _, hsound.newDict hentries attributed⟩

theorem yields_newContext {attributes : Entries} (hattributes : attributes.Sound) :
    Yields Value.Sound (allocate fun h => h.newContext attributes) :=
  yields_allocate fun _ hsound => ⟨Value.Hashable.sound rfl, hsound.newContext hattributes⟩

theorem yields_newConfig {sources : List Value} (hsources : ∀ source ∈ sources, source.Sound) :
    Yields Value.Sound (allocate fun h => h.newConfig sources) :=
  yields_allocate fun _ hsound =>
    ⟨Value.sound_of_parts_eq_nil nofun rfl, hsound.newConfig hsources⟩

theorem yields_copyEntries (hv : v.Sound) :
    Yields Entries.Sound (read fun h => h.copyEntries v) :=
  yields_read fun _ _ hsound hok => hsound.copyEntries hv hok

/-! ### Terms -/

mutual

/-- **The value of a term** is sound. -/
theorem yields_eval (term : Term) : Yields Value.Sound term.eval := by
  cases term with
  | none | bool | text => exact yields_pure (Value.Hashable.sound rfl)
  | int n =>
    refine yields_ofExcept fun v hv => ?_
    rw [Value.ofNumeral] at hv
    split_ifs at hv
    obtain rfl := Except.ok.inj hv
    exact Value.Hashable.sound rfl
  | float | bytes =>
    exact staysSound_bind staysSound_freshSerial fun _ => yields_pure (Value.Hashable.sound rfl)
  | raising | notCallable | plain =>
    exact staysSound_bind staysSound_freshSerial fun _ => yields_pure (Value.Hashable.sound rfl)
  -- The serial number comes first and does not matter to soundness.
  | list items | tuple items =>
    refine staysSound_bind staysSound_freshSerial fun _ => ?_
    exact yields_bind (yields_evalAll items) fun vs hvs =>
      yields_pure (Value.sound_of_not_view nofun hvs)
  | dict pairs =>
    exact yields_bind (yields_evalEntries Entries.sound_empty pairs) fun entries hentries =>
      yields_newDict hentries false
  | attributed data =>
    refine yields_bind (yields_eval data) fun v hv => ?_
    refine yields_bind (yields_read fun h entries hsound hok => ?_) fun entries hentries =>
      yields_newDict hentries true
    exact hsound.putEntries hv Entries.sound_empty hok
  | view data =>
    refine yields_bind (yields_eval data) fun v hv => ?_
    refine staysSound_bind staysSound_freshSerial fun _ => ?_
    exact yields_bind (yields_copyEntries hv) fun entries hentries =>
      yields_pure (Value.sound_view_iff.mpr hentries)
  | limits named =>
    refine yields_bind (yields_evalNamed named) fun named hnamed => ?_
    refine staysSound_bind staysSound_freshSerial fun serial => yields_ofExcept fun v hv => ?_
    exact Value.sound_makeLimits (fun _ h => absurd h List.not_mem_nil) hnamed hv
  | repeated text times =>
    exact staysSound_bind (yields_eval text).staysSound fun _ =>
      yields_pure (Value.hashable_text _).sound
  | joined texts =>
    exact staysSound_bind (yields_evalAll texts).staysSound fun _ =>
      yields_pure (Value.hashable_text _).sound
  | context data =>
    refine yields_bind (yields_eval data) fun v hv => ?_
    exact yields_bind (yields_copyEntries hv) fun attributes hattributes =>
      yields_newContext hattributes
  | saved name => exact yields_saved name

theorem yields_evalAll (terms : List Term) :
    Yields (fun vs => ∀ v ∈ vs, v.Sound) (Term.evalAll terms) := by
  cases terms with
  | nil => exact yields_pure fun _ hv => absurd hv List.not_mem_nil
  | cons term rest =>
    exact yields_bind (yields_eval term) fun v hv => yields_bind (yields_evalAll rest)
      fun vs hvs => yields_pure (List.forall_mem_cons.mpr ⟨hv, hvs⟩)

theorem yields_evalEntries {entries : Entries} (hentries : entries.Sound)
    (pairs : List (Term × Term)) : Yields Entries.Sound (Term.evalEntries entries pairs) := by
  match pairs with
  | [] => exact yields_pure hentries
  | (key, value) :: rest =>
    refine staysSound_bind (yields_eval key).staysSound fun key => ?_
    refine yields_bind (yields_eval value) fun value hvalue => ?_
    exact yields_bind (yields_ofExcept fun result hput => hentries.put hvalue hput)
      fun result hresult => yields_evalEntries hresult rest

theorem yields_evalNamed (named : List (String × Term)) :
    Yields (fun named => ∀ e ∈ named, e.2.Sound) (Term.evalNamed named) := by
  match named with
  | [] => exact yields_pure fun _ he => absurd he List.not_mem_nil
  | (name, term) :: rest =>
    exact yields_bind (yields_eval term) fun v hv => yields_bind (yields_evalNamed rest)
      fun vs hvs => yields_pure (List.forall_mem_cons.mpr ⟨hv, hvs⟩)

end

@[simp] theorem staysSound_eval (term : Term) : StaysSound term.eval :=
  (yields_eval term).staysSound

@[simp] theorem staysSound_evalAll (terms : List Term) : StaysSound (Term.evalAll terms) :=
  (yields_evalAll terms).staysSound

@[simp] theorem staysSound_evalNamed (named : List (String × Term)) :
    StaysSound (Term.evalNamed named) :=
  (yields_evalNamed named).staysSound

theorem yields_evalOption (term : Option Term) : Yields Value.Sound (Term.evalOption term) := by
  cases term with
  | none => exact yields_pure Value.sound_none
  | some term => exact yields_eval term

end Run

end BoundedVars
