import StructGen.Text.Casing.Tables
/-!
# Upper and lower case

Full case mapping of the Unicode standard: a letter may become several (`ß` to `SS`), and a
capital sigma at the end of a word becomes `ς`.
-/
namespace StructGen.Text

/-- The character a run list maps a character to; itself when no run covers it. -/
def mapByRuns (rs : List CaseRun) (c : Char) : Char :=
  match rs.findSome? (·.map? c.toNat) with
  | some n => Char.ofNat n
  | none => c

/-- A character in upper case. -/
def upperChar (c : Char) : List Char :=
  match longUpper.lookup c.toNat with
  | some ns => ns.map Char.ofNat
  | none => [mapByRuns upperRuns c]

/-- A text in upper case. -/
def upper (s : String) : String :=
  String.ofList (s.toList.flatMap upperChar)

/-- The code point of a character lies in one of the ranges. -/
def inRanges (rs : List (Nat × Nat)) (c : Char) : Bool :=
  rs.any fun r => r.1 ≤ c.toNat && c.toNat ≤ r.2

/-- The first character that the search for a neighbouring letter does not skip is a letter. -/
def letterFirst (s : List Char) : Bool :=
  match s.find? (fun c => !inRanges caseIgnorableRanges c) with
  | some c => inRanges casedRanges c
  | none => false

/-- A capital sigma ends a word when a letter stands before it and none after it. -/
def endsWord (before after : List Char) : Bool :=
  letterFirst before && !letterFirst after

/-- A character in lower case; `before` holds the preceding characters, nearest first. -/
def lowerChar (before : List Char) (c : Char) (after : List Char) : List Char :=
  if c == 'İ' then ['i', '\u0307']
  else if c == 'Σ' then [if endsWord before after then 'ς' else 'σ']
  else [mapByRuns lowerRuns c]

/-- The characters that follow `before`, in lower case. -/
def lowerFrom (before : List Char) : List Char → List Char
  | [] => []
  | c :: after => lowerChar before c after ++ lowerFrom (c :: before) after

/-- A text in lower case. -/
def lower (s : String) : String :=
  String.ofList (lowerFrom [] s.toList)

/-- A text with its first character in upper case. -/
def capitalize : List Char → List Char
  | [] => []
  | c :: rest => upperChar c ++ rest

end StructGen.Text
