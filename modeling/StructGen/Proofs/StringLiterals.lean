import Mathlib.Data.List.Basic
import StructGen.Source
/-!
# String literals of the emitted source

`readLiteral` reads a string literal by the rules of the Go language: a raw one between backquotes,
in which carriage returns do not count, or an interpreted one between double quotes, with escapes.
A literal stands for bytes, since an escape can name a single byte; it is read as a text if its
bytes encode one. `readLiteral_quote` and `readLiteral_tagLiteral`: what is emitted as a literal
reads back.
-/
namespace StructGen

namespace Literal

/-! ## Reading -/

/-- The value of a hexadecimal digit. -/
def digit? (c : Char) : Option Nat :=
  if c.isDigit then some (c.toNat - 48)
  else if 'a' ≤ c ∧ c ≤ 'f' then some (c.toNat - 87)
  else if 'A' ≤ c ∧ c ≤ 'F' then some (c.toNat - 55)
  else none

/-- The number that digits stand for. -/
def number? (base : Nat) (digits : List Char) : Option Nat :=
  digits.foldlM (fun n c => (digit? c).bind fun d => if d < base then some (base * n + d) else none) 0

/-- The byte of a number. -/
def byte? (n : Nat) : Option (List UInt8) :=
  if n < 256 then some [UInt8.ofNat n] else none

/-- The bytes of the character with a code point. -/
def codePoint? (n : Nat) : Option (List UInt8) :=
  if n.isValidChar then some (String.utf8EncodeChar (Char.ofNat n)) else none

/-- Reads the number of a byte or of a character, of a fixed count of digits. -/
def readNumber (base count : Nat) (value? : Nat → Option (List UInt8)) (s : List Char) :
    Option (List UInt8 × List Char) :=
  if s.length < count then none
  else ((number? base (s.take count)).bind value?).map fun bytes => (bytes, s.drop count)

/-- The character that is named by one letter or mark after a backslash. -/
def named? : Char → Option Char
  | 'a' => some '\x07'
  | 'b' => some '\x08'
  | 'f' => some '\x0c'
  | 'n' => some '\n'
  | 'r' => some '\r'
  | 't' => some '\t'
  | 'v' => some '\x0b'
  | '\\' => some '\\'
  | '"' => some '"'
  | _ => none

/-- Reads what follows a backslash. -/
def readEscape : List Char → Option (List UInt8 × List Char)
  | [] => none
  | c :: s =>
    match named? c with
    | some d => some (String.utf8EncodeChar d, s)
    | none =>
      if c = 'x' then readNumber 16 2 byte? s
      else if c = 'u' then readNumber 16 4 codePoint? s
      else if c = 'U' then readNumber 16 8 codePoint? s
      else readNumber 8 3 byte? (c :: s)

theorem length_readNumber {base count : Nat} {value? : Nat → Option (List UInt8)}
    {s rest : List Char} {bytes : List UInt8}
    (h : readNumber base count value? s = some (bytes, rest)) : rest.length + count = s.length := by
  unfold readNumber at h
  split at h
  · cases h
  · obtain ⟨bytes, -, heq⟩ := Option.map_eq_some_iff.1 h
    obtain ⟨rfl, rfl⟩ := Prod.mk.inj heq
    rw [List.length_drop]
    omega

theorem length_readEscape {s rest : List Char} {bytes : List UInt8}
    (h : readEscape s = some (bytes, rest)) : rest.length < s.length := by
  cases s with
  | nil => cases h
  | cons c s =>
    rw [List.length_cons]
    simp only [readEscape] at h
    split at h
    · cases h
      exact Nat.lt_succ_self _
    · split at h
      · have := length_readNumber h
        omega
      split at h
      · have := length_readNumber h
        omega
      split at h
      · have := length_readNumber h
        omega
      · have := length_readNumber h
        rw [List.length_cons] at this
        omega

/-- Reads an interpreted literal from behind its opening quote: the bytes up to the closing quote,
and what follows it. A line break ends no literal but spoils it. -/
def readInterpreted : List Char → Option (List UInt8 × List Char)
  | [] => none
  | c :: s =>
    if c = '"' then some ([], s)
    else if c = '\n' then none
    else if c = '\\' then
      match _h : readEscape s with
      | none => none
      | some (bytes, rest) => (readInterpreted rest).map fun p => (bytes ++ p.1, p.2)
    else (readInterpreted s).map fun p => (String.utf8EncodeChar c ++ p.1, p.2)
termination_by s => s.length
decreasing_by
  · have := length_readEscape _h
    rw [List.length_cons]
    omega
  · exact Nat.lt_succ_self _

/-- The text that bytes encode, if they encode one. -/
def textOf? (bytes : List UInt8) : Option String :=
  String.fromUTF8? bytes.toByteArray

end Literal

/-- Reads a string literal. -/
def readLiteral (source : String) : Option String :=
  match source.toList with
  | '\x60' :: s =>
    -- Nothing is escaped in a raw literal, and carriage returns do not count.
    if s.getLast? = some '\x60' ∧ '\x60' ∉ s.dropLast then
      some (String.ofList (s.dropLast.filter (· != '\r')))
    else none
  | '"' :: s =>
    match Literal.readInterpreted s with
    | some (bytes, []) => Literal.textOf? bytes
    | _ => none
  | _ => none

/-! ## Reading what was quoted -/

namespace Literal

theorem digit_hexDigit : ∀ n < 16, digit? (Text.hexDigit n) = some n := by
  decide

/-- The four digits of a control character stand for it. -/
theorem number_control {c : Char} (hc : c.toNat < 0x20) :
    number? 16 ['0', '0', Text.hexDigit (c.toNat / 16), Text.hexDigit (c.toNat % 16)] =
      some c.toNat := by
  have hzero : digit? '0' = some 0 := by decide
  have hhigh := digit_hexDigit (c.toNat / 16) (by omega)
  have hlow := digit_hexDigit (c.toNat % 16) (by omega)
  have hlt : c.toNat / 16 < 16 := by omega
  simp [number?, hzero, hhigh, hlow, hlt, Nat.mod_lt, Nat.div_add_mod]

/-- The number of a control character reads back. -/
theorem readNumber_control {c : Char} (hc : c.toNat < 0x20) (rest : List Char) :
    readNumber 16 4 codePoint?
        ('0' :: '0' :: Text.hexDigit (c.toNat / 16) :: Text.hexDigit (c.toNat % 16) :: rest) =
      some (String.utf8EncodeChar c, rest) := by
  have hvalid : c.toNat.isValidChar := .inl (by omega)
  have hlength : ¬rest.length + 1 + 1 + 1 + 1 < 4 := by omega
  simp [readNumber, codePoint?, number_control hc, hvalid, hlength, Char.ofNat_toNat]

theorem readInterpreted_of_readEscape {s rest : List Char} {bytes : List UInt8}
    (h : readEscape s = some (bytes, rest)) :
    readInterpreted ('\\' :: s) = (readInterpreted rest).map fun p => (bytes ++ p.1, p.2) := by
  rw [readInterpreted, if_neg (by decide), if_neg (by decide), if_pos rfl]
  split
  · next hnone =>
    rw [h] at hnone
    cases hnone
  · next bytes' rest' hsome =>
    rw [h] at hsome
    cases hsome
    rfl

/-- A character reads back from what is written for it. -/
theorem readInterpreted_escapeChar (c : Char) (t : List Char) :
    readInterpreted (Text.escapeChar c ++ t) =
      (readInterpreted t).map fun p => (String.utf8EncodeChar c ++ p.1, p.2) := by
  have hnamed : ∀ d, named? d = some c → readInterpreted ('\\' :: d :: t) =
      (readInterpreted t).map fun p => (String.utf8EncodeChar c ++ p.1, p.2) := by
    intro d hd
    apply readInterpreted_of_readEscape
    rw [readEscape, hd]
  unfold Text.escapeChar
  split
  · next h => exact hnamed '"' (by rw [h]; rfl)
  split
  · next h => exact hnamed '\\' (by rw [h]; rfl)
  split
  · next h => exact hnamed 'n' (by rw [h]; rfl)
  split
  · next h => exact hnamed 'r' (by rw [h]; rfl)
  split
  · next h => exact hnamed 't' (by rw [h]; rfl)
  split
  · next h => exact hnamed 'b' (by rw [h]; rfl)
  split
  · next h => exact hnamed 'f' (by rw [h]; rfl)
  split
  · next h =>
    exact readInterpreted_of_readEscape (readNumber_control h t)
  · next hquote hback hbreak _ _ _ _ _ =>
    rw [List.singleton_append, readInterpreted]
    simp [hquote, hback, hbreak]

theorem readInterpreted_escape (s rest : List Char) :
    readInterpreted (Text.escape s ++ '"' :: rest) = some (s.flatMap String.utf8EncodeChar, rest) := by
  induction s with
  | nil =>
    rw [Text.escape, List.flatMap_nil, List.nil_append, readInterpreted]
    rfl
  | cons c s ih =>
    have hcons : Text.escape (c :: s) = Text.escapeChar c ++ Text.escape s := List.flatMap_cons
    rw [hcons, List.append_assoc, readInterpreted_escapeChar, ih]
    rfl

/-- The bytes that encode a text give it back. -/
theorem textOf_utf8Encode (s : String) :
    textOf? (s.toList.flatMap String.utf8EncodeChar) = some s := by
  have hbytes : (s.toList.flatMap String.utf8EncodeChar).toByteArray = s.toByteArray :=
    String.utf8Encode_toList
  unfold textOf? String.fromUTF8?
  rw [hbytes, dif_pos s.isValidUTF8]
  rfl

end Literal

theorem readLiteral_quote (s : String) : readLiteral (Text.quote s) = some s := by
  unfold readLiteral Text.quote
  rw [String.toList_ofList, List.cons_append]
  simp only [Literal.readInterpreted_escape, Literal.textOf_utf8Encode]

/-- A tag reads back from its literal, raw or interpreted. -/
theorem readLiteral_tagLiteral {tag : String} (h : '\r' ∉ tag.toList) :
    readLiteral (tagLiteral tag) = some tag := by
  unfold tagLiteral
  split
  · exact readLiteral_quote tag
  · next hraw =>
    have hraw : '\x60' ∉ tag.toList := by simpa using hraw
    have hkept : tag.toList.filter (· != '\r') = tag.toList :=
      List.filter_eq_self.2 fun c hc => by
        rw [bne_iff_ne]
        rintro rfl
        exact h hc
    unfold readLiteral
    simp [String.toList_append, hraw, hkept]

end StructGen
