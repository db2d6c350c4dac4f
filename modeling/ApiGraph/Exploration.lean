/-!
# Bounded exploration

Walks through a document carry the finite list of things they may still visit. Each
visit takes one thing out, so the list bounds the depth of the walk, and meeting a
thing that is no longer listed means that the walk has come round to it.
-/

namespace ApiGraph

variable {α : Type} [DecidableEq α]

/-- What is left to visit after one thing has been visited. -/
def afterVisit (a : α) (unvisited : List α) : List α := unvisited.filter (· ≠ a)

theorem mem_afterVisit {a b : α} {unvisited : List α} :
    b ∈ afterVisit a unvisited ↔ b ∈ unvisited ∧ b ≠ a := by
  simp [afterVisit]

theorem length_afterVisit_lt {a : α} {unvisited : List α} (h : a ∈ unvisited) :
    (afterVisit a unvisited).length < unvisited.length :=
  List.length_filter_lt_length_iff_exists.mpr ⟨a, h, by simp⟩

end ApiGraph
