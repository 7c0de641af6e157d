import Mathlib.Logic.Function.Iterate
import StructGen.Proofs.Discovery
/-!
# The order of a walk

`walkSubclasses_preorder`: a loop with a stack visits the classes of a hierarchy in the order of the
recursive walk, which visits a class when it is first reached and then what is below it, one direct
subclass after the other. A class may lie on the stack several times, but an entry is only taken
when all that was put above it is visited, as a call of the recursion returns before the next one is
made: to walk a stack is to fold the recursion over it (`IsDepthFirst.foldl_eq`).
-/
namespace StructGen

namespace Graph

variable {α : Type} {nodes : List α} {next : α → List α}

theorem mem_nodes_of_pushed (hnext : ∀ n ∈ nodes, ∀ m ∈ next n, m ∈ nodes) {n : α} {stack : List α}
    (hn : n ∈ nodes) (hstack : ∀ m ∈ n :: stack, m ∈ nodes) : ∀ m ∈ next n ++ stack, m ∈ nodes := by
  intro m hm
  rcases List.mem_append.1 hm with hm | hm
  · exact hnext n hn m hm
  · exact hstack m (List.mem_cons_of_mem n hm)

variable [DecidableEq α]

/-! ## The walk as a recursion -/

/-- The recursion of a depth-first walk, on the nodes visited so far: a node that was visited is
skipped, any other is visited, and then its successors in turn. -/
def IsDepthFirst (nodes : List α) (next : α → List α) (visit : List α → α → List α) : Prop :=
  ∀ seen, ∀ n ∈ nodes, visit seen n =
    if n ∈ seen then seen else (next n).foldl visit (seen ++ [n])

/-- Inside a graph the recursion can only visit what the walk visits, in the same order. -/
theorem IsDepthFirst.foldl_eq {visit : List α → α → List α} (h : IsDepthFirst nodes next visit)
    (hnext : ∀ n ∈ nodes, ∀ m ∈ next n, m ∈ nodes) (seen : List α) {stack : List α}
    (hstack : ∀ n ∈ stack, n ∈ nodes) :
    stack.foldl visit seen.reverse = seen.reverse ++ walk nodes next seen stack := by
  fun_induction walk nodes next seen stack with
  | case1 seen => rw [List.foldl_nil, List.append_nil]
  | case2 seen n stack hn ih =>
    calc (n :: stack).foldl visit seen.reverse
        = stack.foldl visit ((next n).foldl visit (seen.reverse ++ [n])) := by
          rw [List.foldl_cons, h _ n hn.1, if_neg (by simpa using hn.2)]
      _ = (next n ++ stack).foldl visit (n :: seen).reverse := by
          rw [List.foldl_append, List.reverse_cons]
      _ = seen.reverse ++ n :: walk nodes next (n :: seen) (next n ++ stack) := by
          rw [ih (mem_nodes_of_pushed hnext hn.1 hstack), List.reverse_cons, List.append_assoc,
            List.singleton_append]
  | case3 seen n stack hn ih =>
    have hnode := hstack n List.mem_cons_self
    have hseen : n ∈ seen.reverse := List.mem_reverse.2 (not_and_not_right.1 hn hnode)
    rw [List.foldl_cons, h _ n hnode, if_pos hseen,
      ih fun m hm => hstack m (List.mem_cons_of_mem n hm)]

/-- What lies above on a stack is walked first. -/
theorem walk_append (seen s t : List α) : walk nodes next seen (s ++ t) =
    walk nodes next seen s ++ walk nodes next ((walk nodes next seen s).reverse ++ seen) t := by
  fun_induction walk nodes next seen s with
  | case1 seen => rfl
  | case2 seen n s hn ih =>
    rw [List.cons_append, walk, dif_pos hn, ← List.append_assoc, ih]
    simp
  | case3 seen n s hn ih => rw [List.cons_append, walk, dif_neg hn, ih]

/-- What is visited when a walk is done with one more node. -/
def visit (nodes : List α) (next : α → List α) (seen : List α) (n : α) : List α :=
  seen ++ walk nodes next seen.reverse [n]

theorem foldl_visit (seen stack : List α) :
    stack.foldl (visit nodes next) seen = seen ++ walk nodes next seen.reverse stack := by
  induction stack generalizing seen with
  | nil => rw [List.foldl_nil, walk, List.append_nil]
  | cons n stack ih =>
    rw [List.foldl_cons, ih, ← List.singleton_append, walk_append, visit, List.reverse_append,
      List.append_assoc]

/-- The walk is such a recursion. -/
theorem isDepthFirst_visit (nodes : List α) (next : α → List α) :
    IsDepthFirst nodes next (visit nodes next) := by
  intro seen n hn
  rw [foldl_visit, visit, walk]
  by_cases hseen : n ∈ seen
  · rw [if_pos hseen, dif_neg fun h => h.2 (List.mem_reverse.2 hseen), walk, List.append_nil]
  · rw [if_neg hseen, dif_pos ⟨hn, fun h => hseen (List.mem_reverse.1 h)⟩]
    simp

/-! ## The walk as a loop -/

/-- One round of the loop, on the nodes visited so far and the stack, whose top is its end. -/
def loopStep (next : α → List α) : List α × List α → List α × List α
  | (seen, stack) =>
    match stack.getLast? with
    | none => (seen, stack)
    | some n =>
      if n ∈ seen then (seen, stack.dropLast)
      else (seen ++ [n], stack.dropLast ++ (next n).reverse)

theorem loopStep_cons (seen : List α) (n : α) (stack : List α) :
    loopStep next (seen.reverse, (n :: stack).reverse) =
      if n ∈ seen then (seen.reverse, stack.reverse)
      else ((n :: seen).reverse, (next n ++ stack).reverse) := by
  simp [loopStep]

/-- The loop empties the stack and visits what the walk visits. -/
theorem loop_ends (hnext : ∀ n ∈ nodes, ∀ m ∈ next n, m ∈ nodes) (seen : List α) {stack : List α}
    (hstack : ∀ n ∈ stack, n ∈ nodes) :
    ∃ k, (loopStep next)^[k] (seen.reverse, stack.reverse) =
      (seen.reverse ++ walk nodes next seen stack, []) := by
  fun_induction walk nodes next seen stack with
  | case1 seen => exact ⟨0, by simp⟩
  | case2 seen n stack hn ih =>
    obtain ⟨k, hk⟩ := ih (mem_nodes_of_pushed hnext hn.1 hstack)
    refine ⟨k + 1, ?_⟩
    rw [Function.iterate_succ_apply, loopStep_cons, if_neg hn.2, hk, List.reverse_cons,
      List.append_assoc, List.singleton_append]
  | case3 seen n stack hn ih =>
    obtain ⟨k, hk⟩ := ih fun m hm => hstack m (List.mem_cons_of_mem n hm)
    have hseen : n ∈ seen := not_and_not_right.1 hn (hstack n List.mem_cons_self)
    exact ⟨k + 1, by rw [Function.iterate_succ_apply, loopStep_cons, if_pos hseen, hk]⟩

end Graph

/-! ## Hierarchies -/

variable {classes : List ClassDecl}

theorem mem_subclasses {i j : Nat} : j ∈ subclasses classes i ↔ HasBase classes i j := by
  rw [← edge_iff, Graph.Edge, subclasses, List.mem_filter]
  tauto

theorem mem_range_of_mem_subclasses {i j : Nat} (h : j ∈ subclasses classes i) :
    j ∈ List.range classes.length :=
  List.mem_of_mem_filter h

/-- The walk below a class is what a loop with a stack ends with, and what a recursive walk visits:
the class, then all that is below its first direct subclass, and so on in the order of declaration,
where classes that were visited are skipped. So the class comes first, and each class below it is
visited once and nothing else is. -/
theorem walkSubclasses_preorder {root : Nat} (hroot : root < classes.length) :
    (∃ k, (Graph.loopStep (subclasses classes))^[k] ([], [root]) =
        (walkSubclasses classes root, [])) ∧
      (∃ visit, Graph.IsDepthFirst (List.range classes.length) (subclasses classes) visit) ∧
      (∀ visit, Graph.IsDepthFirst (List.range classes.length) (subclasses classes) visit →
        visit [] root = walkSubclasses classes root) ∧
      (∀ i, (subclasses classes i).Pairwise (· < ·) ∧
        ∀ j, j ∈ subclasses classes i ↔ HasBase classes i j) ∧
      (walkSubclasses classes root).head? = some root ∧ (walkSubclasses classes root).Nodup ∧
      ∀ j, j ∈ walkSubclasses classes root ↔ Relation.ReflTransGen (HasBase classes) root j := by
  have hstack : ∀ n ∈ [root], n ∈ List.range classes.length := by simpa using hroot
  have hnext : ∀ n ∈ List.range classes.length, ∀ m ∈ subclasses classes n,
      m ∈ List.range classes.length := fun _ _ _ hm => mem_range_of_mem_subclasses hm
  refine ⟨?_, ⟨_, Graph.isDepthFirst_visit _ _⟩, fun visit hvisit => ?_,
    fun i => ⟨List.pairwise_lt_range.filter _, fun j => mem_subclasses⟩, ?_,
    (Graph.nodup_walk _ _).1, fun j => ?_⟩
  · exact Graph.loop_ends hnext [] hstack
  · exact hvisit.foldl_eq hnext [] hstack
  · rw [walkSubclasses, Graph.walk, dif_pos ⟨List.mem_range.2 hroot, List.not_mem_nil⟩,
      List.head?_cons]
  · simp [walkSubclasses, Graph.mem_walk_iff, edge_eq_hasBase, hroot]

/-- Records, of which one is declared below another one as well. -/
def layeredClasses : List ClassDecl :=
  [{ name := "Record", qualifiedName := "Record" }, classBelow "app" "Document",
    classBelow "app" "Person", { classBelow "app" "Invoice" with bases := [1, 0] }]

/-- Invoices are visited with the documents, before the persons that are declared before them. -/
theorem layered_preorder :
    (∃ k, (Graph.loopStep (subclasses layeredClasses))^[k] ([], [0]) = ([0, 1, 3, 2], [])) ∧
      ∀ visit, Graph.IsDepthFirst (List.range 4) (subclasses layeredClasses) visit →
        visit [] 0 = [0, 1, 3, 2] := by
  have hroot : 0 < layeredClasses.length := by decide
  obtain ⟨hloop, -, hvisit, -⟩ := walkSubclasses_preorder hroot
  have hwalk : walkSubclasses layeredClasses 0 = [0, 1, 3, 2] := by
    have hlength : layeredClasses.length = 4 := rfl
    have hrecord : subclasses layeredClasses 0 = [1, 2, 3] := by decide
    have hdocument : subclasses layeredClasses 1 = [3] := by decide
    have hperson : subclasses layeredClasses 2 = [] := by decide
    have hinvoice : subclasses layeredClasses 3 = [] := by decide
    simp [walkSubclasses, Graph.walk, hlength, hrecord, hdocument, hperson, hinvoice]
  rw [hwalk] at hloop hvisit
  exact ⟨hloop, hvisit⟩

end StructGen
