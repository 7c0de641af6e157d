/-!
# Walks of finite graphs

`walk` visits the nodes that can be reached from a stack of nodes, each once, depth first: a node
when it is first taken from the stack, then its successors in order. It ends because a step either
visits a node or shortens the stack.
-/
namespace StructGen.Graph

variable {α : Type} [DecidableEq α]

/-- The number of nodes that are not seen. -/
def unseen (seen : List α) : List α → Nat
  | [] => 0
  | n :: nodes => unseen seen nodes + if n ∈ seen then 0 else 1

theorem unseen_cons_le (seen nodes : List α) (n : α) :
    unseen (n :: seen) nodes ≤ unseen seen nodes := by
  induction nodes with
  | nil => exact Nat.le_refl _
  | cons m ms ih =>
    by_cases hm : m ∈ seen <;> by_cases hn : m = n <;> simp [unseen, hm, hn] <;> omega

/-- To see a node leaves fewer unseen. -/
theorem unseen_cons_lt {seen nodes : List α} {n : α} (hn : n ∈ nodes) (hs : n ∉ seen) :
    unseen (n :: seen) nodes < unseen seen nodes := by
  induction nodes with
  | nil => cases hn
  | cons m ms ih =>
    have hle := unseen_cons_le seen ms n
    rcases List.mem_cons.1 hn with rfl | hms
    · simp [unseen, hs]
      omega
    · have := ih hms
      by_cases hm : m ∈ seen <;> by_cases hmn : m = n <;> simp [unseen, hm, hmn] <;> omega

/-- The nodes reached from a stack and not seen before, depth first. -/
def walk (nodes : List α) (next : α → List α) (seen : List α) : List α → List α
  | [] => []
  | n :: stack =>
    if _h : n ∈ nodes ∧ n ∉ seen then n :: walk nodes next (n :: seen) (next n ++ stack)
    else walk nodes next seen stack
termination_by stack => (unseen seen nodes, stack.length)
decreasing_by
  · exact Prod.Lex.left _ _ (unseen_cons_lt _h.1 _h.2)
  · exact Prod.Lex.right _ (by simp)

end StructGen.Graph
