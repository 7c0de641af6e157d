import StructGen.Keyed
import StructGen.Number.Nearest
import StructGen.Text.Blank
import StructGen.Value
/-!
# Validation

Records are read from dynamic values. A reader coerces what can be taken for its type and says of
everything else what is wrong and where; a record is read to its end, so that all its issues are
reported, in the order of its fields.
-/
namespace StructGen

/-- What can be wrong with a value. -/
inductive IssueKind
  | missing
  | textExpected
  | textUndecodable
  | boolExpected
  | boolUnreadable
  | intExpected
  | intUnreadable
  | intTooLong
  | intWithFraction
  | numberNotFinite
  | listExpected
  | recordExpected
  | choiceUnknown
deriving DecidableEq, Repr, Inhabited

/-- The name of a kind in reports. -/
def IssueKind.name : IssueKind → String
  | missing => "missing"
  | textExpected => "string_type"
  | textUndecodable => "string_unicode"
  | boolExpected => "bool_type"
  | boolUnreadable => "bool_parsing"
  | intExpected => "int_type"
  | intUnreadable => "int_parsing"
  | intTooLong => "int_parsing_size"
  | intWithFraction => "int_from_float"
  | numberNotFinite => "finite_number"
  | listExpected => "list_type"
  | recordExpected => "model_type"
  | choiceUnknown => "enum"

/-- A step from a value into one of its parts. -/
inductive Step
  | field (name : String)
  | index (n : Nat)
deriving DecidableEq, Repr, Inhabited

/-- Something wrong at a place in a value. -/
structure Issue where
  path : List Step
  kind : IssueKind
deriving DecidableEq, Repr, Inhabited

/-- An issue seen from outside the part it is in. -/
def Issue.within (step : Step) (i : Issue) : Issue :=
  { i with path := step :: i.path }

/-- A result, or all that is wrong. -/
inductive Checked (α : Type)
  | accepted (a : α)
  | refused (issues : List Issue)
deriving Repr

namespace Checked

/-- A refusal for one reason at the value itself. -/
def refuse {α : Type} (kind : IssueKind) : Checked α :=
  refused [⟨[], kind⟩]

/-- Changes a result. -/
def map {α β : Type} (f : α → β) : Checked α → Checked β
  | accepted a => accepted (f a)
  | refused issues => refused issues

/-- Puts two results together; the issues of both are kept. -/
def both {α β : Type} : Checked (α → β) → Checked α → Checked β
  | accepted f, accepted a => accepted (f a)
  | accepted _, refused e => refused e
  | refused e, accepted _ => refused e
  | refused e, refused e' => refused (e ++ e')

instance : Applicative Checked where
  pure := accepted
  seq f x := both f (x ())
  map := map

/-- The issues of a part, seen from outside. -/
def within {α : Type} (step : Step) : Checked α → Checked α
  | accepted a => accepted a
  | refused issues => refused (issues.map (Issue.within step))

end Checked

/-- Reads a value as a value of a type. -/
abbrev ReadAs (α : Type) := Value → Checked α

namespace ReadAs

/-- Any value. -/
def any : ReadAs Value :=
  .accepted

/-- Bytes as text, if they are text in UTF-8. -/
def textOfBytes? (bs : List UInt8) : Option String :=
  String.fromUTF8? ⟨bs.toArray⟩

/-- What `r` reads from the text of bytes. -/
def decoded {α : Type} (undecodable : IssueKind) (r : String → Checked α) (bs : List UInt8) :
    Checked α :=
  match textOfBytes? bs with
  | some s => r s
  | none => .refuse undecodable

/-- Text: also bytes. -/
def text : ReadAs String
  | .text s => .accepted s
  | .bytes bs => decoded .textUndecodable .accepted bs
  | _ => .refuse .textExpected

/-- Null, or what `r` reads. -/
def orNull {α : Type} (r : ReadAs α) : ReadAs (Option α)
  | .null => .accepted none
  | v => (r v).map some

/-- The words for a truth value. -/
def boolWords : List (String × Bool) :=
  [("0", false), ("off", false), ("f", false), ("false", false), ("n", false), ("no", false),
    ("1", true), ("on", true), ("t", true), ("true", true), ("y", true), ("yes", true)]

/-- A truth value in a word. -/
def boolOfText (s : String) : Checked Bool :=
  match boolWords.lookup (s.map Char.toLower) with
  | some b => .accepted b
  | none => .refuse .boolUnreadable

/-- A truth value in a number: 0 or 1. -/
def boolOfInt (n : Int) : Checked Bool :=
  if n = 0 then .accepted false
  else if n = 1 then .accepted true
  else .refuse .boolUnreadable

/-- The bound of words of 64 bits with a sign. -/
def wordBound : Nat := 0x8000000000000000

/-- A truth value in a binary number, which has to be an integer of 64 bits. -/
def boolOfBinary (x : Number.Binary64) : Checked Bool :=
  match x.toInt? with
  | some n => if n.natAbs < wordBound then boolOfInt n else .refuse .boolExpected
  | none => .refuse .boolExpected

/-- A truth value: also 0 or 1, or a word for it. -/
def bool : ReadAs Bool
  | .bool b => .accepted b
  | .int n => if -wordBound ≤ n ∧ n < wordBound then boolOfInt n else .refuse .boolExpected
  | .float x => boolOfBinary x
  | .decimal d => boolOfBinary d.toBinary64
  | .text s => boolOfText s
  | .bytes bs => decoded .boolUnreadable boolOfText bs
  | _ => .refuse .boolExpected

/-- Digits with single underscores between them; `after` is true if a digit stands before. -/
def digitsOf? (after : Bool) : List Char → Option (List Char)
  | [] => if after then some [] else none
  | '_' :: rest => if after then digitsOf? false rest else none
  | c :: rest => if c.isDigit then (digitsOf? true rest).map (c :: ·) else none

/-- The fraction of an integer: nothing, or a point and zeros. -/
def isZeroFraction : List Char → Bool
  | [] => true
  | '.' :: zeros => !zeros.isEmpty && zeros.all (· == '0')
  | _ => false

/-- An integer in text, with white space around it and a fraction of zeros. -/
def intOfText? (s : String) : Option Int :=
  let (negative, body) := Number.Decimal.readSign (Text.strip Text.isWhiteSpace s.toList)
  let whole := body.takeWhile (· != '.')
  if isZeroFraction (body.dropWhile (· != '.')) then
    (digitsOf? false whole).map fun ds =>
      let n : Int := Number.Decimal.digitsValue ds
      if negative then -n else n
  else none

/-- The most digits of an integer in text. -/
def intDigits : Nat := 4300

/-- An integer in text. -/
def intOfText (s : String) : Checked Int :=
  match intOfText? s with
  | some n =>
    if Nat.pow 10 intDigits ≤ n.natAbs then .refuse .intTooLong else .accepted n
  | none => .refuse .intUnreadable

/-- An integer in a binary number, which has to have 64 bits. -/
def intOfBinary (x : Number.Binary64) : Checked Int :=
  match x with
  | .nan | .infinite _ => .refuse .numberNotFinite
  | x =>
    match x.toInt? with
    | some n => if n.natAbs < wordBound then .accepted n else .refuse .intTooLong
    | none => .refuse .intWithFraction

/-- An integer in a decimal. -/
def intOfDecimal (d : Number.Decimal) : Checked Int :=
  match d with
  | .finite negative c e =>
    if (intDigits : Int) < e then .refuse .intTooLong
    else
      match (Number.Decimal.finite negative c e).toInt? with
      | some n => .accepted n
      | none => .refuse .intWithFraction
  | .infinite _ | .nan .. => .refuse .numberNotFinite

/-- An integer: also a truth value, a number without a fraction, or text that shows one. -/
def int : ReadAs Int
  | .int n => .accepted n
  | .bool b => .accepted (if b then 1 else 0)
  | .float x => intOfBinary x
  | .decimal d => intOfDecimal d
  | .text s => intOfText s
  | .bytes bs => decoded .intUnreadable intOfText bs
  | _ => .refuse .intExpected

/-- The choice of a name. -/
def choiceOfText {α : Type} (choices : List α) (name : α → String) (s : String) : Checked α :=
  match choices.find? (name · = s) with
  | some a => .accepted a
  | none => .refuse .choiceUnknown

/-- One of `choices`, by its name. -/
def choice {α : Type} (choices : List α) (name : α → String) : ReadAs α
  | .text s => choiceOfText choices name s
  | .bytes bs => decoded .choiceUnknown (choiceOfText choices name) bs
  | _ => .refuse .choiceUnknown

/-- The items of a list, of which the first is number `start`. -/
def items {α : Type} (r : ReadAs α) (start : Nat) : List Value → Checked (List α)
  | [] => .accepted []
  | v :: vs => List.cons <$> (r v).within (.index start) <*> items r (start + 1) vs

/-- A list of what `r` reads. -/
def list {α : Type} (r : ReadAs α) : ReadAs (List α)
  | .list vs => items r 0 vs
  | _ => .refuse .listExpected

/-- A record, read from its entries. -/
def record {α : Type} (read : Keyed Value → Checked α) : ReadAs α
  | .dict entries => read entries
  | _ => .refuse .recordExpected

end ReadAs

namespace Keyed

/-- The field of a name, which has to be there. -/
def field {α : Type} (entries : Keyed Value) (name : String) (r : ReadAs α) : Checked α :=
  match entries.get? name with
  | some v => (r v).within (.field name)
  | none => .refused [⟨[.field name], .missing⟩]

/-- The field of a name, or `absent` if it is not there. -/
def fieldOr {α : Type} (entries : Keyed Value) (name : String) (absent : α) (r : ReadAs α) :
    Checked α :=
  match entries.get? name with
  | some v => (r v).within (.field name)
  | none => .accepted absent

end Keyed

end StructGen
