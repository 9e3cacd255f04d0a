/-! The order in which tasks that run side by side report back. What a program makes of their reports is meant
not to depend on it. -/

namespace MediaRelay

/-- An order of arrival: of `n` tasks, numbered from zero, `order n` lists who reports first, next, and last. -/
structure Arrival where
  order : Nat → List Nat
  perm : ∀ n, (order n).Perm (List.range n)

namespace Arrival

/-- Reports arrive in the order in which the tasks were started. -/
def inOrder : Arrival := ⟨List.range, fun _ => .refl _⟩

def reversed : Arrival := ⟨fun n => (List.range n).reverse, fun n => (List.range n).reverse_perm⟩

def arrange {α : Type} (a : Arrival) (reports : List α) : List α :=
  (a.order reports.length).filterMap (reports[·]?)

/-- The reports of a list of tasks as they arrive, each with the place of its task. -/
def collect {α : Type} (a : Arrival) (reports : List α) : List (Nat × α) :=
  a.arrange (reports.zipIdx.map fun (report, place) => (place, report))

def inPlace {α : Type} (reports : List (Nat × α)) : List α := (reports.mergeSort fun a b => a.1 ≤ b.1).map (·.2)

theorem filterMap_range_getElem? {α : Type} (l : List α) :
    (List.range l.length).filterMap (l[·]?) = l := by
  induction l with
  | nil => rfl
  | cons x xs ih =>
    rw [List.length_cons, List.range_succ_eq_map, List.filterMap_cons, List.filterMap_map]
    exact congrArg (x :: ·) ih

theorem arrange_perm {α : Type} (a : Arrival) (l : List α) : (a.arrange l).Perm l := by
  have h := (a.perm l.length).filterMap (l[·]?)
  rwa [filterMap_range_getElem?] at h

end Arrival
end MediaRelay
