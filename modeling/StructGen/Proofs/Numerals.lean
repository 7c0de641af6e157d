import Mathlib.Data.List.TakeWhile
import StructGen.Validation
/-!
# Integers in text

Text is taken for an integer if it shows one: white space around a sign, digits with single
underscores between them, and a fraction of zeros. The reader cuts the text from the left, at the
sign and at the point; what it finds is there to be found because digits are neither.
-/
namespace StructGen.ReadAs

/-- The signs, and whether they make a number negative. -/
inductive IsSign : List Char → Bool → Prop
  | none : IsSign [] false
  | plus : IsSign ['+'] false
  | minus : IsSign ['-'] true

/-- Characters show digits: at least one, with single underscores between them at most. -/
inductive ShowsDigits : List Char → List Char → Prop
  | last {c : Char} (hc : c.isDigit = true) : ShowsDigits [c] [c]
  | digit {c : Char} {shown ds : List Char} (hc : c.isDigit = true) (h : ShowsDigits shown ds) :
    ShowsDigits (c :: shown) (c :: ds)
  | underscore {c : Char} {shown ds : List Char} (hc : c.isDigit = true)
    (h : ShowsDigits shown ds) : ShowsDigits (c :: '_' :: shown) (c :: ds)

/-- The fractions of integers. -/
inductive IsZeros : List Char → Prop
  | none : IsZeros []
  | zeros (n : Nat) : IsZeros ('.' :: List.replicate (n + 1) '0')

/-- Text shows an integer. -/
def ShowsInt (s : String) (n : Int) : Prop :=
  ∃ sign negative shown ds fraction,
    Text.strip Text.isWhiteSpace s.toList = sign ++ (shown ++ fraction) ∧
      IsSign sign negative ∧ ShowsDigits shown ds ∧ IsZeros fraction ∧
      n = if negative then -(Number.Decimal.digitsValue ds : Int) else Number.Decimal.digitsValue ds

/-! ## Digits -/

theorem ne_of_isDigit {c d : Char} (hc : c.isDigit = true) (hd : d.isDigit = false) : c ≠ d := by
  rintro rfl
  rw [hc] at hd
  cases hd

theorem ShowsDigits.exists_cons {shown ds : List Char} (h : ShowsDigits shown ds) :
    ∃ c rest, shown = c :: rest ∧ c.isDigit = true := by
  cases h with
  | last hc | digit hc | underscore hc => exact ⟨_, _, rfl, hc⟩

theorem ShowsDigits.no_point {shown ds : List Char} (h : ShowsDigits shown ds) :
    ∀ c ∈ shown, (c != '.') = true := by
  have hdigit : ∀ {c : Char}, c.isDigit = true → (c != '.') = true :=
    fun hc => bne_iff_ne.2 (ne_of_isDigit hc rfl)
  induction h with
  | last hc => simpa using hdigit hc
  | digit hc _ ih => exact List.forall_mem_cons.2 ⟨hdigit hc, ih⟩
  | underscore hc _ ih =>
    exact List.forall_mem_cons.2 ⟨hdigit hc, List.forall_mem_cons.2 ⟨by decide, ih⟩⟩

theorem digitsOf?_digit {c : Char} (hc : c.isDigit = true) (after : Bool) (rest : List Char) :
    digitsOf? after (c :: rest) = (digitsOf? true rest).map (c :: ·) := by
  have hne : c ≠ '_' := ne_of_isDigit hc rfl
  simp [digitsOf?, hc]

theorem ShowsDigits.digitsOf? {shown ds : List Char} (h : ShowsDigits shown ds) (after : Bool) :
    digitsOf? after shown = some ds := by
  induction h generalizing after with
  | last hc => rw [digitsOf?_digit hc]; rfl
  | digit hc _ ih => rw [digitsOf?_digit hc, ih]; rfl
  | underscore hc _ ih =>
    rw [digitsOf?_digit hc, ReadAs.digitsOf?, if_pos rfl, ih]
    rfl

/-- What is read behind a digit: nothing, more digits, or an underscore and more digits. -/
theorem showsDigits_of_digitsOf? {after : Bool} {shown ds : List Char}
    (h : digitsOf? after shown = some ds) : ShowsDigits shown ds ∨
      after = true ∧ (shown = [] ∧ ds = [] ∨ ∃ rest, shown = '_' :: rest ∧ ShowsDigits rest ds) := by
  induction shown generalizing after ds with
  | nil =>
    cases after with
    | true => exact .inr ⟨rfl, .inl ⟨rfl, by cases h; rfl⟩⟩
    | false => cases h
  | cons c rest ih =>
    by_cases hunderscore : c = '_'
    · subst hunderscore
      cases after with
      | true =>
        have hrest : digitsOf? false rest = some ds := h
        exact .inr ⟨rfl, .inr ⟨rest, rfl, (ih hrest).resolve_right nofun⟩⟩
      | false => cases h
    · by_cases hc : c.isDigit = true
      · rw [digitsOf?_digit hc, Option.map_eq_some_iff] at h
        obtain ⟨ds, hrest, rfl⟩ := h
        refine .inl ?_
        rcases ih hrest with hshows | ⟨-, ⟨rfl, rfl⟩ | ⟨rest, rfl, hshows⟩⟩
        · exact .digit hc hshows
        · exact .last hc
        · exact .underscore hc hshows
      · simp [digitsOf?, hc] at h

/-! ## Fractions -/

theorem isZeroFraction_iff {fraction : List Char} : isZeroFraction fraction = true ↔ IsZeros fraction := by
  constructor
  · intro h
    cases fraction with
    | nil => exact .none
    | cons c zeros =>
      by_cases hc : c = '.'
      · subst hc
        simp only [isZeroFraction, Bool.and_eq_true, Bool.not_eq_true', List.isEmpty_eq_false_iff,
          List.all_eq_true, beq_iff_eq] at h
        obtain ⟨hne, hzeros⟩ := h
        obtain ⟨n, hn⟩ := Nat.exists_eq_succ_of_ne_zero (mt List.length_eq_zero_iff.1 hne)
        rw [List.eq_replicate_of_mem hzeros, hn]
        exact .zeros n
      · simp [isZeroFraction, hc] at h
  · intro h
    cases h with
    | none => rfl
    | zeros n => simp [isZeroFraction]

/-! ## Signs -/

theorem readSign_spec (cs : List Char) : ∃ sign,
    IsSign sign (Number.Decimal.readSign cs).1 ∧ cs = sign ++ (Number.Decimal.readSign cs).2 := by
  unfold Number.Decimal.readSign
  split
  · exact ⟨_, .minus, rfl⟩
  · exact ⟨_, .plus, rfl⟩
  · exact ⟨_, .none, rfl⟩

theorem readSign_append {sign rest : List Char} {negative : Bool} (h : IsSign sign negative)
    (hdigit : ∃ c rest', rest = c :: rest' ∧ c.isDigit = true) :
    Number.Decimal.readSign (sign ++ rest) = (negative, rest) := by
  cases h with
  | plus | minus => rfl
  | none =>
    obtain ⟨c, rest, rfl, hc⟩ := hdigit
    have hminus : c ≠ '-' := ne_of_isDigit hc rfl
    have hplus : c ≠ '+' := ne_of_isDigit hc rfl
    simp [Number.Decimal.readSign, hminus, hplus]

/-! ## Integers -/

theorem takeWhile_point {shown ds fraction : List Char} (h : ShowsDigits shown ds)
    (hfraction : IsZeros fraction) :
    (shown ++ fraction).takeWhile (· != '.') = shown ∧
      (shown ++ fraction).dropWhile (· != '.') = fraction := by
  have hstop : fraction.takeWhile (· != '.') = [] ∧ fraction.dropWhile (· != '.') = fraction := by
    cases hfraction <;> exact ⟨rfl, rfl⟩
  rw [List.takeWhile_append_of_pos h.no_point, List.dropWhile_append_of_pos h.no_point, hstop.1,
    hstop.2, List.append_nil]
  exact ⟨rfl, rfl⟩

theorem intOfText?_eq_some {s : String} {n : Int} : intOfText? s = some n ↔ ShowsInt s n := by
  constructor
  · intro h
    obtain ⟨sign, hsign, hcut⟩ := readSign_spec (Text.strip Text.isWhiteSpace s.toList)
    simp only [intOfText?] at h
    split at h
    · next hzeros =>
      obtain ⟨ds, hds, rfl⟩ := Option.map_eq_some_iff.1 h
      refine ⟨sign, _, _, ds, _, ?_, hsign, (showsDigits_of_digitsOf? hds).resolve_right nofun,
        isZeroFraction_iff.1 hzeros, rfl⟩
      rw [List.takeWhile_append_dropWhile]
      exact hcut
    · cases h
  · rintro ⟨sign, negative, shown, ds, fraction, hs, hsign, hshown, hfraction, rfl⟩
    have hdigit : ∃ c rest, shown ++ fraction = c :: rest ∧ c.isDigit = true := by
      obtain ⟨c, rest, rfl, hc⟩ := hshown.exists_cons
      exact ⟨c, rest ++ fraction, rfl, hc⟩
    obtain ⟨hwhole, hrest⟩ := takeWhile_point hshown hfraction
    simp only [intOfText?, hs, readSign_append hsign hdigit, hwhole, hrest,
      isZeroFraction_iff.2 hfraction, hshown.digitsOf?, if_true, Option.map_some]

end StructGen.ReadAs
