import StructGen.GoStruct.Synthesis
import StructGen.Resolution
/-!
# The second pass of a run

The models of an arena are resolved and synthesized together. The pass starts again without the
models that failed until none does, so that no field refers to a struct that is not emitted. An
integer that cannot be written ends the run at the first attempt that comes to it.
-/
namespace StructGen

open Number

/-- A model that was converted. -/
structure Conversion where
  spec : GoStruct
  resolution : Resolution
deriving DecidableEq, Repr, Inhabited

/-- Tries to convert one model of an arena among the available ones. -/
def tryConvert (arena : Keyed Model) (available : List String) (m : Model) :
    Except Obstacle Conversion := do
  let resolution := Scope.resolve { requested := available, arena := some arena } m
  let spec ← m.synthesize resolution.links
  return { spec, resolution }

/-- Why a run ends in its first round, if it does: the first attempt comes to an integer that cannot
be written. -/
def digitFault? (arena : Keyed Model) : Option DigitFault :=
  arena.findSome? fun e =>
    match tryConvert arena arena.keys e.2 with
    | .error (.digits fault) => some fault
    | _ => none

/-- What stops a model as a fault of the model. In a run that does not end in its first round only
faults do. -/
def Obstacle.toFault : Obstacle → Fault
  | fault f => f
  | digits f => .other f.message []

/-- Converts one model of an arena among the available ones. -/
def convertModel (arena : Keyed Model) (available : List String) (m : Model) :
    Except Fault Conversion :=
  (tryConvert arena available m).mapError Obstacle.toFault

/-- The models that are converted in one round. -/
def convertedIn (arena : Keyed Model) (available : List (String × Model)) : Keyed Conversion :=
  available.filterMap fun e =>
    match convertModel arena (available.map Prod.fst) e.2 with
    | .ok c => some (e.1, c)
    | .error _ => none

/-- The models that fail in one round. -/
def failedIn (arena : Keyed Model) (available : List (String × Model)) : Keyed Fault :=
  available.filterMap fun e =>
    match convertModel arena (available.map Prod.fst) e.2 with
    | .ok _ => none
    | .error fault => some (e.1, fault)

/-- The models that are left when some have failed. -/
def standing (faults : Keyed Fault) (available : List (String × Model)) : List (String × Model) :=
  available.filter fun e => !faults.keys.contains e.1

/-- What the second pass comes to: the conversions of the last round and the faults of all. -/
structure Converted where
  conversions : Keyed Conversion := []
  faults : Keyed Fault := []
deriving Repr, Inhabited

theorem length_filter_lt {α : Type} (p : α → Bool) {l : List α} (h : ∃ x ∈ l, p x = false) :
    (l.filter p).length < l.length := by
  refine Nat.lt_of_le_of_ne (List.length_filter_le p l) fun he => ?_
  obtain ⟨x, hx, hp⟩ := h
  have := List.length_filter_eq_length_iff.1 he x hx
  simp [hp] at this

/-- A round in which a model fails leaves fewer for the next. -/
theorem standing_length_lt {arena : Keyed Model} {available : List (String × Model)}
    (h : failedIn arena available ≠ []) :
    (standing (failedIn arena available) available).length < available.length := by
  refine length_filter_lt _ ?_
  obtain ⟨f, fs, hf⟩ := List.exists_cons_of_ne_nil h
  have hmem : f ∈ failedIn arena available := by simp [hf]
  have hkey : (failedIn arena available).keys.contains f.1 = true := by simp [hf, Keyed.keys]
  simp only [failedIn, List.mem_filterMap] at hmem
  obtain ⟨e, he, heq⟩ := hmem
  refine ⟨e, he, ?_⟩
  split at heq
  · cases heq
  · cases heq
    simpa using hkey

/-- The second pass: rounds without the models that failed, until none does. -/
def convert (arena : Keyed Model) (available : List (String × Model)) : Converted :=
  let faults := failedIn arena available
  if _h : faults = [] then { conversions := convertedIn arena available }
  else
    let rest := convert arena (standing faults available)
    { rest with faults := faults ++ rest.faults }
termination_by available.length
decreasing_by
  exact standing_length_lt _h

end StructGen
