import Mathlib.Logic.Function.Iterate
import StructGen.Proofs.Embedding
/-!
# The search for the way back

`search_exact`: a loop with a stack and the models seen so far answers whether one model holds
another one by value. It ends as soon as it meets the goal, or when the stack is empty. A name may lie
on the stack several times, and the stack may grow, but a model that is visited puts at most its
associations on the stack, and never again; so the names on the stack and the associations of the
models that were not visited bound the rounds that are left (`load`).
-/
namespace StructGen

/-- A search: it goes on, with the models seen so far and the stack, whose top is its end, or it has
ended with an answer. -/
inductive Search
  | running (seen stack : List String)
  | ended (answer : Bool)
deriving DecidableEq, Repr

namespace Scope

/-- The stack after the loop over the associations of a model; none if the loop meets the goal. -/
def push? (scope : Scope) (goal name : String) : List String → List Association → Option (List String)
  | stack, [] => some stack
  | stack, a :: rest =>
    if a.kind.isCollection || a.target == name then push? scope goal name stack rest
    else if !scope.requested.contains a.target then push? scope goal name stack rest
    else if a.target = goal then none
    else push? scope goal name (stack ++ [a.target]) rest

/-- One round of a search. -/
def searchStep (scope : Scope) (arena : Keyed Model) (goal : String) : Search → Search
  | .ended answer => .ended answer
  | .running seen stack =>
    match stack.getLast? with
    | none => .ended false
    | some name =>
      if name ∈ seen then .running seen stack.dropLast
      else
        match arena.get? name with
        | none => .running (name :: seen) stack.dropLast
        | some m =>
          match scope.push? goal name stack.dropLast m.associations with
          | none => .ended true
          | some stack => .running (name :: seen) stack

/-- How many associations the models have that are not seen. -/
def load (seen : List String) (arena : Keyed Model) : Nat :=
  (arena.flatMap fun e => if e.1 ∈ seen then [] else e.2.associations).length

variable {scope : Scope} {arena : Keyed Model} {start goal name : String} {seen stack : List String}

/-! ## What a round does -/

theorem push?_eq (goal name : String) (stack : List String) (m : Model) :
    scope.push? goal name stack m.associations =
      if goal ∈ scope.embedded name m then none else some (stack ++ scope.embedded name m) := by
  unfold embedded
  induction m.associations generalizing stack with
  | nil => simp [push?]
  | cons a rest ih =>
    unfold push?
    split
    · next hkind => rw [ih, List.filter_cons_of_neg (by grind)]
    split
    · next hmissing => rw [ih, List.filter_cons_of_neg (by grind)]
    · rw [List.filter_cons_of_pos (by grind), List.map_cons]
      split
      · next hgoal => rw [if_pos (hgoal ▸ List.mem_cons_self)]
      · next hgoal =>
        simp only [ih, List.mem_cons, Ne.symm hgoal, false_or, List.append_assoc,
          List.singleton_append]

theorem step_nil (seen : List String) :
    scope.searchStep arena goal (.running seen []) = .ended false := rfl

/-- A round takes a name from the stack. It skips a model that is seen, ends at a model that holds the
goal, and puts what any other model holds on the stack. -/
theorem step_concat (seen stack : List String) (name : String) :
    scope.searchStep arena goal (.running seen (stack ++ [name])) =
      if name ∈ seen then .running seen stack
      else if goal ∈ scope.next arena name then .ended true
      else .running (name :: seen) (stack ++ scope.next arena name) := by
  cases hm : arena.get? name with
  | none =>
    have hnext : scope.next arena name = [] := by simp [next, hm]
    simp [searchStep, hm, hnext]
  | some m =>
    have hnext : scope.next arena name = scope.embedded name m := by simp [next, hm]
    simp only [searchStep, List.getLast?_concat, List.dropLast_concat, hm, hnext, push?_eq]
    by_cases hgoal : goal ∈ scope.embedded name m <;> simp [hgoal]

theorem iterate_ended (answer : Bool) (k : Nat) :
    (scope.searchStep arena goal)^[k] (.ended answer) = .ended answer :=
  Function.iterate_fixed rfl k

/-! ## Rounds that are left -/

theorem load_nil (arena : Keyed Model) :
    load [] arena = (arena.flatMap fun e => e.2.associations).length := by
  simp [load]

theorem load_cons (seen : List String) (e : String × Model) (arena : Keyed Model) :
    load seen (e :: arena) =
      (if e.1 ∈ seen then 0 else e.2.associations.length) + load seen arena := by
  unfold load
  rw [List.flatMap_cons, List.length_append]
  split <;> rfl

theorem load_seen_le (name : String) (seen : List String) (arena : Keyed Model) :
    load (name :: seen) arena ≤ load seen arena := by
  induction arena with
  | nil => exact Nat.le_refl _
  | cons e arena ih =>
    rw [load_cons, load_cons]
    by_cases he : e.1 ∈ seen <;> by_cases hname : e.1 = name <;> simp [he, hname] <;> omega

/-- The associations of a model that is visited are no longer to be done. -/
theorem load_seen_add {m : Model} (hm : arena.get? name = some m) (hseen : name ∉ seen) :
    load (name :: seen) arena + m.associations.length ≤ load seen arena := by
  induction arena with
  | nil => cases hm
  | cons e arena ih =>
    rw [load_cons, load_cons]
    rw [Keyed.get?_cons] at hm
    by_cases hname : e.1 = name
    · have hle := load_seen_le name seen arena
      obtain rfl : e.2 = m := by simpa [hname] using hm
      simp [hname, hseen]
      omega
    · have hle := ih (by simpa [hname, Ne.symm hname] using hm)
      by_cases he : e.1 ∈ seen <;> simp [he, hname] <;> omega

/-- A visit puts no more on the stack than it takes from the load. -/
theorem load_visit (hseen : name ∉ seen) :
    load (name :: seen) arena + (scope.next arena name).length ≤ load seen arena := by
  unfold next
  cases hm : arena.get? name with
  | none => exact load_seen_le name seen arena
  | some m =>
    have hheld : (scope.embedded name m).length ≤ m.associations.length := by
      rw [embedded, List.length_map]
      exact List.length_filter_le _ _
    have hload := load_seen_add hm hseen
    simp only
    omega

/-! ## What a search knows -/

/-- What holds between the rounds of a search: all on the stack is held by the start or the start
itself, and what a seen model holds is not the goal, and seen or on the stack. -/
structure Searching (scope : Scope) (arena : Keyed Model) (start goal : String)
    (seen stack : List String) : Prop where
  begun : start ∈ seen ∨ start ∈ stack
  reached : ∀ n ∈ stack, Relation.ReflTransGen (scope.Holds arena) start n
  pending : ∀ a ∈ seen, ∀ b, scope.Holds arena a b → b ≠ goal ∧ (b ∈ seen ∨ b ∈ stack)

namespace Searching

theorem initial (scope : Scope) (arena : Keyed Model) (start goal : String) :
    Searching scope arena start goal [] [start] where
  begun := .inr List.mem_cons_self
  reached := by simpa using Relation.ReflTransGen.refl
  pending := by simp

theorem skip (h : Searching scope arena start goal seen (stack ++ [name])) (hseen : name ∈ seen) :
    Searching scope arena start goal seen stack := by
  -- What was on the stack is still there, or is the name that is seen.
  have hleft : ∀ b, b ∈ seen ∨ b ∈ stack ++ [name] → b ∈ seen ∨ b ∈ stack := by
    rintro b (hb | hb)
    · exact .inl hb
    · rcases List.mem_append.1 hb with hb | hb
      · exact .inr hb
      · exact .inl (List.mem_singleton.1 hb ▸ hseen)
  exact ⟨hleft _ h.begun, fun n hn => h.reached n (List.mem_append_left _ hn),
    fun a ha b hb => (h.pending a ha b hb).imp_right (hleft b)⟩

theorem visit (h : Searching scope arena start goal seen (stack ++ [name]))
    (hgoal : goal ∉ scope.next arena name) :
    Searching scope arena start goal (name :: seen) (stack ++ scope.next arena name) := by
  have hname := h.reached name (by simp)
  have hleft : ∀ b, b ∈ seen ∨ b ∈ stack ++ [name] →
      b ∈ name :: seen ∨ b ∈ stack ++ scope.next arena name := by
    rintro b (hb | hb)
    · exact .inl (List.mem_cons_of_mem _ hb)
    · rcases List.mem_append.1 hb with hb | hb
      · exact .inr (List.mem_append_left _ hb)
      · exact .inl (List.mem_singleton.1 hb ▸ List.mem_cons_self)
  refine ⟨hleft _ h.begun, fun n hn => ?_, fun a ha b hb => ?_⟩
  · rcases List.mem_append.1 hn with hn | hn
    · exact h.reached n (List.mem_append_left _ hn)
    · exact hname.tail (mem_next.1 hn)
  · rcases List.mem_cons.1 ha with rfl | ha
    · have hnext := mem_next.2 hb
      exact ⟨fun heq => hgoal (heq ▸ hnext), .inr (List.mem_append_right _ hnext)⟩
    · exact (h.pending a ha b hb).imp_right (hleft b)

/-- A model that is taken from the stack and holds the goal ends a chain. -/
theorem found (h : Searching scope arena start goal seen (stack ++ [name]))
    (hgoal : goal ∈ scope.next arena name) :
    Relation.TransGen (scope.Holds arena) start goal :=
  .tail' (h.reached name (by simp)) (mem_next.1 hgoal)

/-- When the stack is empty, all that the start holds is seen and none of it holds the goal. -/
theorem exhausted (h : Searching scope arena start goal seen []) :
    ¬Relation.TransGen (scope.Holds arena) start goal := by
  have hseen : ∀ n, Relation.ReflTransGen (scope.Holds arena) start n → n ∈ seen := by
    intro n hn
    induction hn with
    | refl => simpa using h.begun
    | tail _ hb ih => simpa using (h.pending _ ih _ hb).2
  intro hchain
  obtain ⟨n, hn, hgoal⟩ := Relation.TransGen.tail'_iff.1 hchain
  exact (h.pending n (hseen n hn) goal hgoal).1 rfl

end Searching

/-! ## The whole search -/

/-- A search ends with the answer after as many rounds as names and associations are left to do, and
one more. -/
theorem iterate_searchStep (harena : scope.arena = some arena) {k : Nat} :
    ∀ {seen stack}, Searching scope arena start goal seen stack →
      stack.length + load seen arena ≤ k →
      (scope.searchStep arena goal)^[k + 1] (.running seen stack) =
        .ended (scope.embeds start goal) := by
  have hanswer := embeds_iff harena (a := start) (b := goal)
  induction k with
  | zero =>
    intro seen stack h hk
    obtain rfl : stack = [] := List.eq_nil_of_length_eq_zero (by omega)
    rw [Function.iterate_one, step_nil, Bool.eq_false_iff.2 (mt hanswer.1 h.exhausted)]
  | succ k ih =>
    intro seen stack h hk
    rw [Function.iterate_succ_apply]
    rcases List.eq_nil_or_concat' stack with rfl | ⟨stack, name, rfl⟩
    · rw [step_nil, iterate_ended, Bool.eq_false_iff.2 (mt hanswer.1 h.exhausted)]
    rw [List.length_append, List.length_singleton] at hk
    rw [step_concat]
    split
    · next hseen => exact ih (h.skip hseen) (by omega)
    split
    · next hgoal => rw [iterate_ended, hanswer.2 (h.found hgoal)]
    · next hseen hgoal =>
      have hload : load (name :: seen) arena + (scope.next arena name).length ≤ load seen arena :=
        load_visit hseen
      exact ih (h.visit hgoal) (by rw [List.length_append]; omega)

/-- The search ends within as many rounds as the arena has associations, and two more. It says yes if
and only if there is a chain of at least one step from the start to the goal, in which each model is
in the arena and declares a single association to the next one, another requested model. -/
theorem search_exact (requested : List String) (arena : Keyed Model) (start goal : String) :
    let scope : Scope := ⟨requested, some arena⟩
    (∀ k, (arena.flatMap fun e => e.2.associations).length + 2 ≤ k →
        (scope.searchStep arena goal)^[k] (.running [] [start]) = .ended (scope.embeds start goal)) ∧
      (scope.embeds start goal = true ↔ Relation.TransGen (scope.Holds arena) start goal) := by
  intro scope
  refine ⟨fun k hk => ?_, embeds_iff rfl⟩
  obtain ⟨k, rfl⟩ := Nat.exists_eq_add_of_le' (Nat.one_le_of_lt hk)
  refine iterate_searchStep rfl (Searching.initial scope arena start goal) ?_
  rw [load_nil, List.length_singleton]
  omega

end Scope

end StructGen
