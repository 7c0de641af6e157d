import Mathlib.Data.List.Basic
import StructGen.Setting
/-!
# Settings read back

`readSettings` reads the settings of a field as the persistence layer does: it cuts the text at
semicolons, and a piece that ends in a backslash is joined to the next by a semicolon in place of
the backslash. `readSettings_eq_iff`: a text is read as some settings if and only if these, with
their semicolons escaped, make up the text and none but the last of them ends in a backslash.
-/
namespace StructGen

namespace Settings

/-! ## Reading -/

/-- A piece and those after it, where one that ends in a backslash is joined to the next. -/
def joinPieces (piece : List Char) : List (List Char) → List (List Char)
  | [] => [piece]
  | next :: rest =>
    if piece.getLast? = some '\\' then joinPieces (piece.dropLast ++ ';' :: next) rest
    else piece :: joinPieces next rest

/-- The settings in a text. -/
def read (value : List Char) : List (List Char) :=
  match value.splitOn ';' with
  | [] => []
  | piece :: rest => joinPieces piece rest

/-- A text with its semicolons escaped. -/
def escape (s : List Char) : List Char :=
  s.flatMap fun c => if c = ';' then ['\\', ';'] else [c]

variable {s t piece : List Char} {c : Char} {rest : List (List Char)}

theorem joinPieces_ne_nil (piece : List Char) (rest : List (List Char)) :
    joinPieces piece rest ≠ [] := by
  induction rest generalizing piece with
  | nil => simp [joinPieces]
  | cons next rest ih =>
    unfold joinPieces
    split
    · exact ih _
    · simp

/-- A character in front of a piece stays there, unless it is a backslash that ends the piece. -/
theorem joinPieces_cons (h : piece ≠ [] ∨ c ≠ '\\') (rest : List (List Char)) :
    joinPieces (c :: piece) rest = (joinPieces piece rest).modifyHead (c :: ·) := by
  induction rest generalizing piece with
  | nil => rfl
  | cons next rest ih =>
    unfold joinPieces
    cases piece with
    | nil =>
      have hc : c ≠ '\\' := h.resolve_left (· rfl)
      simp [hc]
    | cons d piece =>
      rw [List.getLast?_cons_cons]
      split
      · rw [List.dropLast_cons_cons, List.cons_append, ih (.inl (by simp))]
      · rfl

/-- None of the joined pieces ends in a backslash, but for the last. -/
theorem getLast?_of_mem_joinPieces (piece : List Char) (rest : List (List Char)) :
    ∀ s ∈ (joinPieces piece rest).dropLast, s.getLast? ≠ some '\\' := by
  induction rest generalizing piece with
  | nil => simp [joinPieces]
  | cons next rest ih =>
    unfold joinPieces
    split
    · exact ih _
    · next hlast =>
      rw [List.dropLast_cons_of_ne_nil (joinPieces_ne_nil _ _), List.forall_mem_cons]
      exact ⟨hlast, ih next⟩

/-! ## Reading by characters -/

theorem exists_splitOn (value : List Char) : ∃ piece rest, value.splitOn ';' = piece :: rest :=
  List.exists_cons_of_ne_nil (List.splitOn_ne_nil ';' value)

theorem read_ne_nil (value : List Char) : read value ≠ [] := by
  obtain ⟨piece, rest, h⟩ := exists_splitOn value
  unfold read
  rw [h]
  exact joinPieces_ne_nil piece rest

theorem read_nil : read [] = [[]] := by
  simp [read, joinPieces]

theorem read_separator (t : List Char) : read (';' :: t) = [] :: read t := by
  obtain ⟨piece, rest, h⟩ := exists_splitOn t
  simp [read, List.splitOn_cons_eq_if_modifyHead, h, joinPieces]

/-- An escaped semicolon belongs to a setting. -/
theorem read_escaped (t : List Char) :
    read ('\\' :: ';' :: t) = (read t).modifyHead (';' :: ·) := by
  obtain ⟨piece, rest, h⟩ := exists_splitOn t
  have hsplit : ('\\' :: ';' :: t).splitOn ';' = ['\\'] :: piece :: rest := by
    simp [List.splitOn_cons_eq_if_modifyHead, h]
  unfold read
  rw [hsplit, h]
  exact joinPieces_cons (.inr (by decide)) rest

/-- Any other character belongs to one too. -/
theorem read_cons (hc : c ≠ ';') (h : c ≠ '\\' ∨ t.head? ≠ some ';') :
    read (c :: t) = (read t).modifyHead (c :: ·) := by
  obtain ⟨piece, rest, hsplit⟩ := exists_splitOn t
  have hcons : (c :: t).splitOn ';' = (c :: piece) :: rest := by
    simp [List.splitOn_cons_eq_if_modifyHead, hsplit, hc]
  unfold read
  rw [hcons, hsplit]
  by_cases hpiece : piece ≠ [] ∨ c ≠ '\\'
  · exact joinPieces_cons hpiece rest
  · -- A lone backslash ends the text, since no semicolon follows it.
    obtain ⟨hnil, hback⟩ := not_or.1 hpiece
    have ht : [';'].intercalate (t.splitOn ';') = t := List.intercalate_splitOn ';'
    rw [hsplit, not_not.1 hnil] at ht
    cases rest with
    | nil => simp [joinPieces, not_not.1 hnil]
    | cons next rest =>
      rw [List.intercalate_cons_cons] at ht
      rw [← ht] at h
      simp [not_not.1 hback] at h

/-! ## What was written is read, and what is read was written -/

theorem escape_cons (c : Char) (s : List Char) :
    escape (c :: s) = (if c = ';' then ['\\', ';'] else [c]) ++ escape s :=
  List.flatMap_cons

theorem head?_escape_append (c : Char) (s t : List Char) :
    (escape (c :: s) ++ t).head? ≠ some ';' := by
  rw [escape_cons]
  split
  · simp
  · next hc => simpa using hc

/-- An escaped setting is read up to what follows it, if it does not end in a backslash there. -/
theorem read_escape_append (h : t.head? = some ';' → s.getLast? ≠ some '\\') :
    read (escape s ++ t) = (read t).modifyHead (s ++ ·) := by
  -- What follows is read first; each character of the setting is then put in front of it.
  induction s with
  | nil =>
    obtain ⟨r, rs, hr⟩ := List.exists_cons_of_ne_nil (read_ne_nil t)
    simp [escape, hr]
  | cons c s ih =>
    have hs : t.head? = some ';' → s.getLast? ≠ some '\\' := by
      intro ht
      have hlast := h ht
      cases s with
      | nil => simp
      | cons d s => rwa [List.getLast?_cons_cons] at hlast
    have hcompose : ((read t).modifyHead (s ++ ·)).modifyHead (c :: ·) =
        (read t).modifyHead (c :: s ++ ·) := by
      rw [List.modifyHead_modifyHead]
      rfl
    rw [escape_cons]
    split
    · next hc =>
      rw [← hcompose, ← ih hs, hc]
      exact read_escaped _
    · next hc =>
      rw [← hcompose, ← ih hs]
      refine read_cons hc ?_
      by_cases hback : c = '\\'
      · right
        cases s with
        | nil =>
          intro ht
          exact h ht (by simp [hback])
        | cons d s => exact head?_escape_append d s t
      · exact .inl hback

/-- Escaped settings between semicolons are read as they were. -/
theorem read_intercalate {ss : List (List Char)} (hne : ss ≠ [])
    (hlast : ∀ s ∈ ss.dropLast, s.getLast? ≠ some '\\') :
    read ([';'].intercalate (ss.map escape)) = ss := by
  induction ss with
  | nil => exact absurd rfl hne
  | cons s rest ih =>
    cases rest with
    | nil =>
      have hread := read_escape_append (s := s) (t := []) (by simp)
      simpa [read_nil] using hread
    | cons s' rest =>
      rw [List.dropLast_cons_cons, List.forall_mem_cons] at hlast
      have htail := ih (by simp) hlast.2
      rw [List.map_cons, List.map_cons, List.intercalate_cons_cons, List.append_assoc,
        read_escape_append fun _ => hlast.1, List.singleton_append, read_separator, ← List.map_cons,
        htail]
      simp

theorem intercalate_modifyHead {ss : List (List Char)} (hne : ss ≠ []) (c : Char) :
    [';'].intercalate ((ss.modifyHead (c :: ·)).map escape) =
      (if c = ';' then ['\\', ';'] else [c]) ++ [';'].intercalate (ss.map escape) := by
  obtain ⟨s, rest, rfl⟩ := List.exists_cons_of_ne_nil hne
  rw [List.modifyHead_cons, List.map_cons, List.map_cons, escape_cons]
  cases rest with
  | nil => simp
  | cons s' rest => simp [List.intercalate_cons_cons]

/-- What is read makes up the text again. -/
theorem intercalate_read : ∀ value, [';'].intercalate ((read value).map escape) = value
  | [] => by simp [read_nil, escape]
  | c :: t => by
    have ht := intercalate_read t
    by_cases hc : c = ';'
    · obtain ⟨r, rs, hr⟩ := List.exists_cons_of_ne_nil (read_ne_nil t)
      rw [hr] at ht
      rw [hc, read_separator, hr, List.map_cons, List.map_cons, List.intercalate_cons_cons,
        ← List.map_cons, ht]
      rfl
    · by_cases hescaped : c ≠ '\\' ∨ t.head? ≠ some ';'
      · rw [read_cons hc hescaped, intercalate_modifyHead (read_ne_nil t), ht, if_neg hc]
        rfl
      · -- The two characters that stand for a semicolon are read together.
        obtain ⟨hback, hsemicolon⟩ := not_or.1 hescaped
        obtain ⟨t', rfl⟩ := List.head?_eq_some_iff.1 (not_not.1 hsemicolon)
        have ht' := intercalate_read t'
        rw [not_not.1 hback, read_escaped, intercalate_modifyHead (read_ne_nil t'), ht', if_pos rfl]
        rfl

end Settings

/-! ## Settings as texts -/

/-- The settings in the text of a field. -/
def readSettings (value : String) : List String :=
  (Settings.read value.toList).map String.ofList

theorem joinSettings_toList (ss : List String) :
    (joinSettings ss).toList = [';'].intercalate (ss.map String.toList) := by
  simp [joinSettings, String.toList_intercalate]

theorem escapeSetting_toList (s : String) :
    (escapeSetting s).toList = Settings.escape s.toList :=
  String.toList_ofList

theorem escapeSetting_eq_self {s : String} : escapeSetting s = s ↔ ';' ∉ s.toList := by
  rw [← String.toList_inj, escapeSetting_toList]
  induction s.toList with
  | nil => simp [Settings.escape]
  | cons c t ih =>
    rw [Settings.escape_cons]
    by_cases hc : c = ';'
    · simp [hc]
    · simp [hc, Ne.symm hc, ih]

/-- The text ends in a backslash. -/
def EndsInBackslash (s : String) : Prop :=
  s.toList.getLast? = some '\\'

instance (s : String) : Decidable (EndsInBackslash s) :=
  inferInstanceAs (Decidable (_ = _))

/-- A text is read as these settings if and only if they make it up when they are escaped, and none
but the last ends in a backslash. -/
theorem readSettings_eq_iff {value : String} {ss : List String} : readSettings value = ss ↔
    ss ≠ [] ∧ joinSettings (ss.map escapeSetting) = value ∧
      ∀ s ∈ ss.dropLast, ¬EndsInBackslash s := by
  have hjoin : (joinSettings (ss.map escapeSetting)).toList =
      [';'].intercalate ((ss.map String.toList).map Settings.escape) := by
    rw [joinSettings_toList, List.map_map, List.map_map]
    congr 1
    exact List.map_congr_left fun s _ => escapeSetting_toList s
  have hread : readSettings value = ss ↔ Settings.read value.toList = ss.map String.toList := by
    constructor
    · rintro rfl
      simp [readSettings, List.map_map, Function.comp_def]
    · intro h
      simp [readSettings, h, List.map_map, Function.comp_def]
  have hends : (∀ s ∈ ss.dropLast, ¬EndsInBackslash s) ↔
      ∀ s ∈ (ss.map String.toList).dropLast, s.getLast? ≠ some '\\' := by
    rw [← List.map_dropLast, List.forall_mem_map]
    rfl
  rw [hread, hends, ← String.toList_inj, hjoin]
  constructor
  · intro h
    rw [← h]
    refine ⟨?_, Settings.intercalate_read _, ?_⟩
    · rintro rfl
      exact Settings.read_ne_nil _ h
    · obtain ⟨piece, rest, hsplit⟩ := Settings.exists_splitOn value.toList
      rw [Settings.read, hsplit]
      exact Settings.getLast?_of_mem_joinPieces piece rest
  · rintro ⟨hne, hvalue, hlast⟩
    rw [← hvalue]
    exact Settings.read_intercalate (by simpa using hne) hlast

end StructGen
