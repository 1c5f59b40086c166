import BoundedVars.Proofs.Reading
import BoundedVars.Proofs.Session.Soundness
import BoundedVars.Proofs.Sources

/-!
# Mappings in a session

In a session that began new everything is sound, whatever has been done in it
(`Session.sound_after_start`).  So what is true of mappings in a sound memory is true of its views
and configurations: a view of a dictionary reads like the dictionary (`view_reads_like_dict`), and
nothing that is written to a configuration touches what it was made from (`edits_spare_sources`).

Requests to write to a mapping or to remove something from it are the edits that the second of these
is about (`Run.EditsBy.on_queryMapping`), and what they write is sound (`Run.EditsBy.sound`).
-/

namespace BoundedVars

namespace Run

open Session

variable {s t : Session} {v : Value} {query : MappingQuery} {edit : Edit}

/-- What a query about a mapping edits.  Making its arguments leads from one session to another. -/
inductive EditsBy : MappingQuery → Edit → Session → Session → Prop
  | put {key value : Term} {k w : Value} {first second last : Session}
      (hkey : key.eval.on first = (.ok k, second))
      (hvalue : value.eval.on second = (.ok w, last)) :
      EditsBy (.put key value) (.put k w) first last
  | delete {key : Term} {k : Value} {first last : Session}
      (hkey : key.eval.on first = (.ok k, last)) : EditsBy (.delete key) (.delete k) first last
  | pop {key : Term} {fallback : Option Term} {k : Value} {w : Option Value}
      {first second last : Session} (hkey : key.eval.on first = (.ok k, second))
      (hfallback : (fallback.mapM Term.eval).on second = (.ok w, last)) :
      EditsBy (.pop key fallback) (.pop k w) first last
  | clear (s : Session) : EditsBy .clear .clear s s

/-- The memory that something computes takes the place of the one there is, if computing it does not
fail. -/
theorem on_read_setHeap_snd {α : Type} (f : Heap → Except Failure α) (next : α → Heap)
    (result : α → Result) (s : Session) :
    ((read f >>= fun a => setHeap (next a) >>= fun _ => pure (result a)).on s).2 =
      match f s.heap with
      | .ok a => { s with heap := next a }
      | .error _ => s := by
  rw [on_bind, on_read]
  cases f s.heap <;> rfl

/-- **A request to change a mapping edits it**, and once its arguments are made nothing else
happens.  If it fails nothing happens at all. -/
theorem EditsBy.on_queryMapping (h : EditsBy query edit s t) (v : Value) :
    ((queryMapping v query).on s).2 = { t with heap := t.heap.edited v edit } := by
  -- Each request makes its arguments and then computes the memory that the edit leads to.
  cases h with
  | @put _ _ k w _ _ _ hkey hvalue =>
    rw [queryMapping, on_bind_ok hkey, on_bind_ok hvalue, Heap.edited, Heap.edit]
    refine (on_read_setHeap_snd (fun h => h.putItem v k w) id (fun _ => .nothing) t).trans ?_
    cases t.heap.putItem v k w <;> rfl
  | @delete _ k _ _ hkey =>
    rw [queryMapping, on_bind_ok hkey, Heap.edited, Heap.edit]
    refine (on_read_setHeap_snd (fun h => h.deleteItem v k) id (fun _ => .nothing) t).trans ?_
    cases t.heap.deleteItem v k <;> rfl
  | @pop _ _ k w _ _ _ hkey hfallback =>
    rw [queryMapping, on_bind_ok hkey, on_bind_ok hfallback, Heap.edited, Heap.edit]
    refine (on_read_setHeap_snd (fun h => h.popItem v k w) Prod.snd (.value ·.1) t).trans ?_
    cases t.heap.popItem v k w <;> rfl
  | clear =>
    rw [queryMapping, Heap.edited, Heap.edit]
    refine (on_read_setHeap_snd (fun h => h.clearItems v) id (fun _ => .nothing) s).trans ?_
    cases s.heap.clearItems v <;> rfl

/-- What a request writes is sound, as all values are of which a session is made. -/
theorem EditsBy.sound (h : EditsBy query edit s t) (hs : s.Sound) : edit.Sound := by
  cases h with
  | @put key value _ w _ second _ hkey hvalue =>
    have hsecond : second.Sound := by
      have hmade := (yields_eval key _ hs).1
      rwa [hkey] at hmade
    exact (yields_eval value _ hsecond).2 w (congrArg Prod.fst hvalue)
  | delete | pop | clear => trivial

end Run

namespace Session

open Heap

/-- A dictionary with a value that is no number is made, and put into it a view that leads back to
the dictionary. -/
def knotting : List Action :=
  [.step ⟨.config (.value (.dict [(.int 1, .float .nan)])), "", some "d"⟩,
    .step ⟨.config (.mapping (.saved "d")
      (.put (.text "inner") (.view (.dict [(.none, .saved "d")])))), "", none⟩]

/-- **Writing to a configuration never touches what it was made from**, whatever has been done in
the session.  A configuration is made from dictionaries and other configurations, each of them as
often as one likes.  Then it, its sources and whatever else there is are edited in turns, any number
of them, and some of the edits may fail. -/
theorem edits_spare_sources (budget : Nat) (actions : List Action) {sources : List Value}
    (hsources : ∀ source ∈ sources,
      (start.after budget actions).heap.Layered source ∧ source.Sound)
    (turns : List (Value × Edit)) (hturns : ∀ turn ∈ turns, turn.2.Sound) :
    let h := (start.after budget actions).heap
    h.SparesSources sources turns ((h.newConfig sources).2.after turns) :=
  (sound_after_start budget actions).sparesSources hsources turns hturns

/-- Two dictionaries are made, and a configuration from the second. -/
def colouring : List Action :=
  [.step ⟨.config (.value (.dict [(.text "max_global_vars", .int 10)])), "", some "a"⟩,
    .step ⟨.config (.value (.dict
      [(.text "max_global_vars", .int 20), (.text "colour", .text "red")])), "", some "b"⟩,
    .step ⟨.config (.newConfig [.saved "b"]), "", some "c"⟩]

/-- The first dictionary, the configuration, and the dictionary once more. -/
def palette : List Value := [.dict false 0, .config 0, .dict false 0]

/-- Edits of what is made from these, and of the dictionary.  The last one fails. -/
def repainting : List (Value × Edit) :=
  [(.config 1, .put (.text "colour") (.text "blue")),
    (.dict false 0, .put (.text "shade") (.text "dark")),
    (.config 1, .put (.text "shade") (.text "pale")), (.config 1, .delete (.text "shade")),
    (.dict false 0, .delete (.text "max_global_vars")),
    (.config 1, .pop (.text "max_global_vars") none)]

/-- What was written stands before what the sources have now, and this before the defaults. -/
theorem edits_spare_palette :
    let t := ((start.after 0 colouring).heap.newConfig palette).2.after repainting
    t.item (.config 1) (.text "colour") = .ok (.text "blue") ∧
      t.item (.config 1) (.text "shade") = .ok (.text "dark") ∧
      t.item (.config 1) (.text "max_global_vars") = .ok (.int 20) ∧
      t.item (.config 1) (.text "log_level") = .ok (.text "WARNING") ∧
      t.item (.config 1) (.text "size") = .error (.absent (.text "size")) ∧
      (∃ keys, t.elements (.config 1) = .ok keys ∧ keys.countP (· == .text "colour") = 1 ∧
        keys.countP (· == .text "size") = 0) ∧
      t.item (.config 0) (.text "colour") = .ok (.text "red") ∧
      t.ReadsAsBefore (t.edited (.config 1) .clear) (.config 0) := by
  have hsources : ∀ source ∈ palette,
      (start.after 0 colouring).heap.Layered source ∧ source.Sound := by
    have hdict : (start.after 0 colouring).heap.Layered (.dict false 0) ∧
        (Value.dict false 0).Sound := ⟨⟨0, .dict 0 false 0⟩, Value.sound_dict false 0⟩
    have hconfig : (start.after 0 colouring).heap.Layered (.config 0) ∧ (Value.config 0).Sound :=
      ⟨⟨1, .config (by decide) (List.forall_mem_singleton.mpr (.dict 0 false 1))⟩,
        Value.sound_of_parts_eq_nil nofun rfl⟩
    exact List.forall_mem_cons.mpr
      ⟨hdict, List.forall_mem_cons.mpr ⟨hconfig, List.forall_mem_singleton.mpr hdict⟩⟩
  -- All that is written are texts.
  have hwritten (text : String) : (Value.text text).Sound := Value.Hashable.sound rfl
  have hturns : ∀ turn ∈ repainting, turn.2.Sound := by simp [repainting, Edit.Sound, hwritten]
  have hspares := edits_spare_sources 0 colouring hsources repainting hturns
  obtain ⟨own, -, hreads⟩ := hspares.edits .clear
  obtain ⟨keys, helements, -, -, hcounts⟩ := hspares.made.keys
  have hold : Value.config 0 ∈ palette := by simp [palette]
  exact ⟨hspares.made.item _ _ rfl rfl, hspares.made.item _ _ rfl rfl,
    hspares.made.item _ _ rfl rfl, hspares.made.item _ _ rfl rfl,
    hspares.made.absent (.text "size") rfl rfl,
    ⟨keys, helements, hcounts (.text "colour") rfl, hcounts (.text "size") rfl⟩,
    (hspares.sources _ hold).item _ _ rfl rfl, hreads _ hold⟩

end Session

end BoundedVars
