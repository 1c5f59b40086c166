import BoundedVars.View

/-!
# Views that nobody replaced

A view carries its items with it.  Unless other entries were put in their place, all that can be
asked of it is answered by these items (`Heap.shows_view`), and every operation that would change it
is refused (`Heap.refuses_view`).
-/

namespace BoundedVars

/-- Variables as the items of a view. -/
def Vars.items (vars : Vars) : List (Value × Value) :=
  vars.entries.map fun e => (.text e.1, .text e.2)

namespace Heap

/-- A value shows items: whatever a reader asks is answered by them, in their order. -/
structure Shows (h : Heap) (v : Value) (items : List (Value × Value)) : Prop where
  keys : (h.reading v).keys = .ok (items.map (·.1))
  size : (h.reading v).size = .ok items.length
  find? : ∀ key, (h.reading v).find? key = Entries.find? ⟨items⟩ key
  contents : h.contents v = .ok ⟨items⟩

/-- A value refuses to be changed. -/
structure Refuses (h : Heap) (v : Value) : Prop where
  put : ∀ key value, h.putItem v key value = .error .readOnly
  delete : ∀ key, h.deleteItem v key = .error .readOnly
  pop : ∀ key fallback, h.popItem v key fallback = .error .readOnly
  clear : h.clearItems v = .error .readOnly

variable {h : Heap} {serial : Nat}

/-- **A view shows its items** unless they were replaced. -/
theorem shows_view (hview : h.replacement? serial = none) (items : List (Value × Value)) :
    h.Shows (.view serial items) items where
  keys := by simp [reading, elements, elementsWithin, Value.sequence?, hview]
  size := by simp [reading, length, lengthWithin, Value.sequence?, hview]
  find? key := by simp [reading, find?, findWithin, Value.sequence?, hview]
  contents := by simp [contents, hview]

/-- **A view refuses to be changed**, replaced or not. -/
theorem refuses_view (h : Heap) (serial : Nat) (items : List (Value × Value)) :
    h.Refuses (.view serial items) :=
  ⟨fun _ _ => rfl, fun _ => rfl, fun _ _ => rfl, rfl⟩

end Heap

end BoundedVars
