import Mathlib.Logic.Relation
import Mathlib.Tactic.Tauto
import StructGen.Graph
/-!
# A walk visits what can be reached

`mem_walk_iff`: a walk from a stack visits exactly the nodes that can be reached from the stack
along edges inside the graph. Nothing else is visited because each visited node was on the stack,
which only ever holds successors; nothing is missed because the successors of a seen node are seen
or on the stack.
-/
namespace StructGen.Graph

variable {α : Type} {nodes : List α} {next : α → List α}

/-- `b` is a successor of `a` inside the graph. -/
def Edge (nodes : List α) (next : α → List α) (a b : α) : Prop :=
  b ∈ next a ∧ b ∈ nodes

/-- The successors of seen nodes are seen or wait on the stack. -/
def Pending (nodes : List α) (next : α → List α) (seen stack : List α) : Prop :=
  ∀ a ∈ seen, ∀ b, Edge nodes next a b → b ∈ seen ∨ b ∈ stack

theorem Pending.visit {seen stack : List α} {n : α} (h : Pending nodes next seen (n :: stack)) :
    Pending nodes next (n :: seen) (next n ++ stack) := by
  intro a ha b hb
  simp only [List.mem_cons, List.mem_append]
  rcases List.mem_cons.1 ha with rfl | ha
  · exact .inr (.inl hb.1)
  · rcases h a ha b hb with hs | hs
    · exact .inl (.inr hs)
    · rcases List.mem_cons.1 hs with rfl | hs
      · exact .inl (.inl rfl)
      · exact .inr (.inr hs)

theorem Pending.skip {seen stack : List α} {n : α} (h : Pending nodes next seen (n :: stack))
    (hn : ¬(n ∈ nodes ∧ n ∉ seen)) : Pending nodes next seen stack := by
  intro a ha b hb
  rcases h a ha b hb with hs | hs
  · exact .inl hs
  · rcases List.mem_cons.1 hs with rfl | hs
    · exact .inl (Classical.byContradiction fun hns => hn ⟨hb.2, hns⟩)
    · exact .inr hs

variable [DecidableEq α]

theorem walk_sound {seen stack : List α} {n : α} (h : n ∈ walk nodes next seen stack) :
    ∃ s ∈ stack, s ∈ nodes ∧ Relation.ReflTransGen (Edge nodes next) s n := by
  fun_induction walk nodes next seen stack with
  | case1 => cases h
  | case2 seen m stack hm ih =>
    rcases List.mem_cons.1 h with rfl | h
    · exact ⟨n, List.mem_cons_self, hm.1, .refl⟩
    · obtain ⟨s, hs, hsn, hr⟩ := ih h
      rcases List.mem_append.1 hs with hs | hs
      · exact ⟨m, List.mem_cons_self, hm.1, .head ⟨hs, hsn⟩ hr⟩
      · exact ⟨s, List.mem_cons_of_mem _ hs, hsn, hr⟩
  | case3 seen m stack _ ih =>
    obtain ⟨s, hs, hr⟩ := ih h
    exact ⟨s, List.mem_cons_of_mem _ hs, hr⟩

/-- After a walk everything on the stack is visited, and with a node its successors. -/
theorem walk_closed {seen stack : List α} (h : Pending nodes next seen stack) :
    (∀ s ∈ stack, s ∈ nodes → s ∈ seen ∨ s ∈ walk nodes next seen stack) ∧
      ∀ a b, a ∈ seen ∨ a ∈ walk nodes next seen stack → Edge nodes next a b →
        b ∈ seen ∨ b ∈ walk nodes next seen stack := by
  fun_induction walk nodes next seen stack with
  | case1 seen =>
    refine ⟨fun _ hs => absurd hs List.not_mem_nil, fun a b ha hb => ?_⟩
    rcases ha with ha | ha
    · exact .inl ((h a ha b hb).resolve_right List.not_mem_nil)
    · cases ha
  | case2 seen n stack hn ih =>
    obtain ⟨hstack, hclosed⟩ := ih h.visit
    -- `n` is visited now and counts as seen in the rest of the walk.
    have hin : ∀ x, x ∈ seen ∨ x ∈ n :: walk nodes next (n :: seen) (next n ++ stack) ↔
        x ∈ n :: seen ∨ x ∈ walk nodes next (n :: seen) (next n ++ stack) := by
      intro x
      simp only [List.mem_cons]
      tauto
    refine ⟨fun s hs hsn => (hin s).2 ?_, fun a b ha hb => (hin b).2 (hclosed a b ((hin a).1 ha) hb)⟩
    rcases List.mem_cons.1 hs with rfl | hs
    · exact .inl List.mem_cons_self
    · exact hstack s (List.mem_append_right _ hs) hsn
  | case3 seen n stack hn ih =>
    obtain ⟨hstack, hclosed⟩ := ih (h.skip hn)
    refine ⟨fun s hs hsn => ?_, hclosed⟩
    rcases List.mem_cons.1 hs with rfl | hs
    · exact .inl (Classical.byContradiction fun hns => hn ⟨hsn, hns⟩)
    · exact hstack s hs hsn

/-- A walk visits exactly what can be reached from its stack. -/
theorem mem_walk_iff {stack : List α} {n : α} :
    n ∈ walk nodes next [] stack ↔
      ∃ s ∈ stack, s ∈ nodes ∧ Relation.ReflTransGen (Edge nodes next) s n := by
  refine ⟨walk_sound, ?_⟩
  rintro ⟨s, hs, hsn, hr⟩
  have hpending : Pending nodes next [] stack := fun _ h => by cases h
  obtain ⟨hstack, hclosed⟩ := walk_closed hpending
  simp only [List.not_mem_nil, false_or] at hstack hclosed
  induction hr with
  | refl => exact hstack s hs hsn
  | tail _ hb ih => exact hclosed _ _ ih hb

end StructGen.Graph
