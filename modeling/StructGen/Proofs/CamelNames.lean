import StructGen.Proofs.Selection
import StructGen.Proofs.UnderscoredNames
/-!
# Camel names

A camel name is made of capitalised words, as the names of classes are. Its underscored form is read
word by word off the name, and camelizing cuts it at the underscores alone, so that both go by the
same words. `camelName_selects`: camelizing the underscored form gives the name back, and a class of
that name is selected by the one as by the other.
-/
namespace StructGen

open Naming

/-- A capital and small letters, with or without digits behind them. -/
def IsCamelWord (w : List Char) : Prop :=
  ∃ c small digits, w = c :: (small ++ digits) ∧ c.isUpper = true ∧ small ≠ [] ∧
    (∀ x ∈ small, x.isLower = true) ∧ ∀ x ∈ digits, x.isDigit = true

/-- Camel words, one after the other. -/
def IsCamelName (n : String) : Prop :=
  ∃ ws : List (List Char), ws ≠ [] ∧ (∀ w ∈ ws, IsCamelWord w) ∧ n.toList = ws.flatten

/-! ## The characters of names -/

/-- What holds of each of the first 128 characters. -/
theorem forall_ascii {p : Char → Prop} (h : ∀ i : Fin 128, p (Char.ofNat i)) :
    ∀ c : Char, c.toNat < 128 → p c := by
  intro c hc
  have hp := h ⟨c.toNat, hc⟩
  rwa [Char.ofNat_toNat] at hp

theorem Naming.toNat_lt_of_isWordChar {c : Char} (h : isWordChar c = true) : c.toNat < 128 := by
  simp only [isWordChar, Char.isUpper, Char.isLower, Char.isDigit, Bool.or_eq_true,
    Bool.and_eq_true, decide_eq_true_eq, ge_iff_le, UInt32.le_iff_toNat_le] at h
  have hvalue : c.toNat = c.val.toNat := rfl
  simp at h
  omega

theorem Text.upperChar_letter {c : Char} (h : c.isAlpha = true) : upperChar c = [c.toUpper] := by
  -- The tables of upper case are not structured by letters, so each letter is looked up.
  have hletters : ∀ c : Char, c.toNat < 128 → c.isAlpha = true → upperChar c = [c.toUpper] :=
    forall_ascii (by decide +kernel)
  exact hletters c (toNat_lt_of_isWordChar (by simp [isWordChar_eq, h])) h

/-- The text is written in letters, digits and underscores. -/
def IsUnderscored (s : List Char) : Prop :=
  ∀ c ∈ s, c = '_' ∨ isWordChar c = true

/-- Such a character is no white space and parts no path. -/
theorem IsUnderscored.plain {s : List Char} (h : IsUnderscored s) {c : Char} (hc : c ∈ s) :
    Text.isBlank c = false ∧ c ≠ ':' ∧ (c == '/' || c == '.') = false := by
  have hword : ∀ c : Char, c.toNat < 128 → isWordChar c = true →
      Text.isBlank c = false ∧ c ≠ ':' ∧ (c == '/' || c == '.') = false :=
    forall_ascii (by decide +kernel)
  rcases h c hc with rfl | hc
  · decide
  · exact hword c (toNat_lt_of_isWordChar hc) hc

theorem Text.strip_eq_self {p : Char → Bool} {s : List Char} (h : ∀ c ∈ s, p c = false) :
    strip p s = s := by
  have hdrop : ∀ t : List Char, (∀ c ∈ t, p c = false) → t.dropWhile p = t := fun t ht =>
    List.dropWhile_eq_self_iff.2 fun hlt => by simp [ht _ (List.getElem_mem hlt)]
  rw [strip, hdrop s h, hdrop s.reverse fun c hc => h c (List.mem_reverse.1 hc),
    List.reverse_reverse]

theorem slashed_eq_self {s : List Char} (h : ':' ∉ s) : slashed s = s := by
  fun_induction slashed s with
  | case1 rest ih => simp at h
  | case2 c rest hc ih => rw [ih fun hrest => h (List.mem_cons_of_mem c hrest)]
  | case3 => rfl

namespace IsUnderscored

variable {s : String}

theorem trim_eq (h : IsUnderscored s.toList) : Text.trim s = s := by
  rw [Text.trim, Text.strip_eq_self fun c hc => (h.plain hc).1, String.ofList_toList]

/-- Camelizing cuts such a text at the underscores alone. -/
theorem camelize_eq (h : IsUnderscored s.toList) :
    camelize s = String.ofList (camelSegment s.toList) := by
  have hslashed : slashed (Text.strip Text.isBlank s.toList) = s.toList := by
    rw [Text.strip_eq_self fun c hc => (h.plain hc).1,
      slashed_eq_self fun hc => (h.plain hc).2.1 rfl]
  unfold camelize
  rw [hslashed]
  by_cases hempty : s.toList = []
  · simp [hempty, Text.runs, camelSegment]
  · rw [Text.runs_of_forall (fun c hc => (h.plain hc).2.2) hempty]
    simp

end IsUnderscored

/-! ## Words -/

theorem takeWhile_eq_nil_of_head {p : Char → Bool} {s : List Char}
    (h : ∀ c ∈ s.head?, p c = false) : s.takeWhile p = [] := by
  cases s with
  | nil => rfl
  | cons c s => exact List.takeWhile_cons_of_neg (by simp [h c rfl])

namespace IsCamelWord

variable {w : List Char}

theorem isWordChar (h : IsCamelWord w) : ∀ x ∈ w, isWordChar x = true := by
  obtain ⟨c, small, digits, rfl, hc, -, hsmall, hdigits⟩ := h
  intro x hx
  rcases List.mem_cons.1 hx with rfl | hx
  · simp [Naming.isWordChar, hc]
  · rcases List.mem_append.1 hx with hx | hx
    · simp [Naming.isWordChar, hsmall x hx]
    · simp [Naming.isWordChar, hdigits x hx]

theorem ne_nil (h : IsCamelWord w) : w ≠ [] := by
  obtain ⟨c, small, digits, rfl, -⟩ := h
  exact List.cons_ne_nil c _

theorem isUpper_head (h : IsCamelWord w) : ∀ c ∈ w.head?, c.isUpper = true := by
  obtain ⟨c, small, digits, rfl, hc, -⟩ := h
  simpa using hc

/-- The word ends at the next capital. -/
theorem chunkWords_append (h : IsCamelWord w) {rest : List Char}
    (hrest : ∀ c ∈ rest.head?, c.isUpper = true) :
    chunkWords (w ++ rest) = w :: chunkWords rest := by
  obtain ⟨c, small, digits, rfl, hc, hne, hsmall, hdigits⟩ := h
  -- The small letters end at a digit or at the next word, and the digits at the next word.
  have hafter : (digits ++ rest).takeWhile Char.isLower = [] := by
    refine takeWhile_eq_nil_of_head fun x hx => ?_
    rw [List.head?_append, Option.mem_def, Option.or_eq_some_iff] at hx
    rcases hx with hx | ⟨-, hx⟩
    · simpa using (not_letter_of_isDigit (hdigits x (List.mem_of_mem_head? hx))).1
    · simpa using Char.not_isLower_of_isUpper (hrest x hx)
  have hend : rest.takeWhile Char.isDigit = [] := by
    refine takeWhile_eq_nil_of_head fun x hx => ?_
    exact not_isDigit_of_isAlpha (by simp [Char.isAlpha, hrest x hx])
  have hspan : spanWord Char.isLower (small ++ (digits ++ rest)) = (small ++ digits, rest) := by
    simp only [spanWord, List.takeWhile_append_of_pos hsmall, List.dropWhile_append_of_pos hsmall,
      hafter, dropWhile_of_takeWhile hafter, List.takeWhile_append_of_pos hdigits,
      List.dropWhile_append_of_pos hdigits, hend, dropWhile_of_takeWhile hend, List.append_nil]
  have hnext : nextWord c (small ++ (digits ++ rest)) = (small ++ digits, rest) := by
    have hhead : (small ++ (digits ++ rest)).head?.any Char.isLower = true := by
      obtain ⟨x, small, rfl⟩ := List.exists_cons_of_ne_nil hne
      simpa using hsmall x List.mem_cons_self
    have hcapitals := takeWhile_isUpper_of_small hhead
    simp only [nextWord, hc, Char.not_isLower_of_isUpper hc, hcapitals,
      dropWhile_of_takeWhile hcapitals, hhead, hspan, List.getLast?_nil, if_true, if_false,
      Bool.false_eq_true]
  rw [List.cons_append, List.append_assoc, chunkWords, hnext]

/-- In lower case and with its first character in upper case, it is the word again. -/
theorem capitalize_lower (h : IsCamelWord w) : Text.capitalize (w.map Char.toLower) = w := by
  obtain ⟨c, small, digits, rfl, hc, -, hsmall, hdigits⟩ := h
  have hfirst : Text.upperChar c.toLower = [c] := by
    rw [Text.upperChar_letter (by simp [Char.isAlpha, hc]), Char.toUpper_toLower_eq_toUpper,
      Char.toUpper_eq_of_not_isLower (Char.not_isLower_of_isUpper hc)]
  have hrest : (small ++ digits).map Char.toLower = small ++ digits := by
    refine (List.map_congr_left fun x hx => ?_).trans (List.map_id _)
    refine Char.toLower_eq_of_not_isUpper ?_
    rcases List.mem_append.1 hx with hx | hx
    · exact Char.not_isUpper_of_isLower (hsmall x hx)
    · exact (not_letter_of_isDigit (hdigits x hx)).2
  rw [List.map_cons, Text.capitalize, hfirst, hrest]
  rfl

end IsCamelWord

/-! ## Names -/

section

variable {ws : List (List Char)}

theorem flatten_ne_nil (hws : ∀ w ∈ ws, IsCamelWord w) (hsome : ws ≠ []) : ws.flatten ≠ [] := by
  obtain ⟨w, hw⟩ := List.exists_mem_of_ne_nil ws hsome
  exact List.flatten_ne_nil_iff.2 ⟨w, hw, (hws w hw).ne_nil⟩

theorem isUpper_head_flatten (hws : ∀ w ∈ ws, IsCamelWord w) :
    ∀ c ∈ ws.flatten.head?, c.isUpper = true := by
  cases ws with
  | nil => simp
  | cons w ws =>
    have hw := hws w List.mem_cons_self
    rw [List.flatten_cons, List.head?_append_of_ne_nil _ hw.ne_nil]
    exact hw.isUpper_head

theorem isWordChar_flatten (hws : ∀ w ∈ ws, IsCamelWord w) :
    ∀ c ∈ ws.flatten, isWordChar c = true := by
  intro c hc
  obtain ⟨w, hw, hc⟩ := List.mem_flatten.1 hc
  exact (hws w hw).isWordChar c hc

/-- A name of camel words is read word by word. -/
theorem chunkWords_camelWords (hws : ∀ w ∈ ws, IsCamelWord w) : chunkWords ws.flatten = ws := by
  induction ws with
  | nil => simp [chunkWords]
  | cons w ws ih =>
    have hrest := fun v hv => hws v (List.mem_cons_of_mem w hv)
    rw [List.flatten_cons, (hws w List.mem_cons_self).chunkWords_append (isUpper_head_flatten hrest),
      ih hrest]

/-- Between the underscores are the words, which are capitalised again. -/
theorem camelSegment_lower (hws : ∀ w ∈ ws, IsCamelWord w) :
    camelSegment (['_'].intercalate (ws.map (·.map Char.toLower))) = ws.flatten := by
  have hruns : Text.runs (· == '_') (['_'].intercalate (ws.map (·.map Char.toLower))) =
      ws.map (·.map Char.toLower) := by
    refine Text.runs_intercalate rfl fun r hr => ?_
    obtain ⟨w, hw, rfl⟩ := List.mem_map.1 hr
    refine ⟨by simpa using (hws w hw).ne_nil, fun x hx => ?_⟩
    obtain ⟨c, hc, rfl⟩ := List.mem_map.1 hx
    exact not_underscore_of_isWordChar (isWordChar_toLower ((hws w hw).isWordChar c hc))
  rw [camelSegment, hruns, List.flatMap_map,
    List.flatMap_congr fun w hw => (hws w hw).capitalize_lower]
  simp

/-- A name without underscores is one segment, which starts with a capital. -/
theorem camelSegment_flatten (hws : ∀ w ∈ ws, IsCamelWord w) (hne : ws.flatten ≠ []) :
    camelSegment ws.flatten = ws.flatten := by
  have hword := isWordChar_flatten hws
  have hruns : Text.runs (· == '_') ws.flatten = [ws.flatten] :=
    Text.runs_of_forall (fun c hc => not_underscore_of_isWordChar (hword c hc)) hne
  rw [camelSegment, hruns, List.flatMap_singleton]
  cases hname : ws.flatten with
  | nil => exact absurd hname hne
  | cons c rest =>
    have hc : c.isUpper = true := isUpper_head_flatten hws c (by simp [hname])
    rw [Text.capitalize, Text.upperChar_letter (by simp [Char.isAlpha, hc]),
      Char.toUpper_eq_of_not_isLower (Char.not_isLower_of_isUpper hc)]
    rfl

end

theorem isUnderscored_underscore (s : String) : IsUnderscored (underscore s).toList := by
  intro c hc
  rcases mem_underscore hc with rfl | hc | hc
  · exact .inl rfl
  · exact .inr (by simp [isWordChar, hc])
  · exact .inr (by simp [isWordChar, hc])

namespace IsCamelName

variable {n : String}

theorem isUnderscored (h : IsCamelName n) : IsUnderscored n.toList := by
  obtain ⟨ws, -, hws, hn⟩ := h
  exact fun c hc => .inr (isWordChar_flatten hws c (hn ▸ hc))

theorem camelize_eq (h : IsCamelName n) : camelize n = n := by
  rw [h.isUnderscored.camelize_eq]
  obtain ⟨ws, hsome, hws, hn⟩ := h
  rw [hn, camelSegment_flatten hws (flatten_ne_nil hws hsome), ← hn, String.ofList_toList]

/-- The words of a camel name come back out of its underscored form. -/
theorem camelize_underscore (h : IsCamelName n) : camelize (underscore n) = n := by
  rw [(isUnderscored_underscore n).camelize_eq]
  obtain ⟨ws, hsome, hws, hn⟩ := h
  have hwords : words n.toList = ws := by
    have hruns : Text.runs (fun c => !isWordChar c) ws.flatten = [ws.flatten] :=
      Text.runs_of_forall (fun c hc => by simp [isWordChar_flatten hws c hc])
        (flatten_ne_nil hws hsome)
    rw [hn, words, hruns, List.flatMap_singleton, chunkWords_camelWords hws]
  rw [underscore, hwords, String.toList_ofList, camelSegment_lower hws, ← hn, String.ofList_toList]

end IsCamelName

/-! ## Classes of such a name -/

/-- A camel name is what its underscored form is camelized to. So a class of that name is selected by
the name as by the underscored form, unless another class has one of the two as one of its names. -/
theorem camelName_selects {n : String} (h : IsCamelName n) :
    camelize (underscore n) = n ∧
      ∀ (classes : List ClassDecl) (schema? : Nat → Option (Except Refusal Model)) (i : Nat)
        (decl : ClassDecl), InHierarchy classes i decl → decl.name = n →
        (∀ j d, InHierarchy classes j d → j ≠ i → ¬d.HasName n ∧ ¬d.HasName (underscore n)) →
        Selects classes schema? n i decl ∧ Selects classes schema? (underscore n) i decl ∧
          (Catalog.ofClasses classes schema?).select (underscore n) =
            (Catalog.ofClasses classes schema?).select n := by
  have htrip := h.camelize_underscore
  refine ⟨htrip, ?_⟩
  rintro classes schema? i decl hlisted rfl hothers
  have hname : decl.HasName decl.name := .inl rfl
  have hcamel : Selects classes schema? decl.name i decl := by
    simp only [selects_iff hlisted, spells_iff, h.isUnderscored.trim_eq, h.camelize_eq, or_self]
    exact ⟨hname, fun j d hd hne => (hothers j d hd hne).1⟩
  have hunderscored : Selects classes schema? (underscore decl.name) i decl := by
    simp only [selects_iff hlisted, spells_iff, htrip,
      (isUnderscored_underscore decl.name).trim_eq]
    refine ⟨.inr hname, fun j d hd hne => ?_⟩
    exact not_or.2 ⟨(hothers j d hd hne).2, (hothers j d hd hne).1⟩
  exact ⟨hcamel, hunderscored, hunderscored.answer.trans hcamel.answer.symm⟩

/-- The class of line items is selected by its underscored name. -/
theorem lineItem_selected : IsCamelName "LineItem" ∧ underscore "LineItem" = "line_item" ∧
    Selects recordClasses recordTable? "line_item" 1 (classBelow "app" "LineItem") := by
  have hcamel : IsCamelName "LineItem" := by
    have hline : IsCamelWord ['L', 'i', 'n', 'e'] :=
      ⟨'L', ['i', 'n', 'e'], [], rfl, rfl, by simp, List.all_eq_true.1 rfl, by simp⟩
    have hitem : IsCamelWord ['I', 't', 'e', 'm'] :=
      ⟨'I', ['t', 'e', 'm'], [], rfl, rfl, by simp, List.all_eq_true.1 rfl, by simp⟩
    exact ⟨[_, _], List.cons_ne_nil _ _, List.forall_mem_cons.2 ⟨hline, by simpa using hitem⟩, rfl⟩
  have hstem : underscore "LineItem" = "line_item" := by decide +kernel
  have hlisted : InHierarchy recordClasses 1 (classBelow "app" "LineItem") :=
    inHierarchy_of_base rfl List.mem_cons_self
  obtain ⟨-, hselects⟩ := camelName_selects hcamel
  obtain ⟨-, hunderscored, -⟩ := hselects recordClasses recordTable? 1 _ hlisted rfl
    (forall_inHierarchy (by decide +kernel))
  exact ⟨hcamel, hstem, hstem ▸ hunderscored⟩

end StructGen
