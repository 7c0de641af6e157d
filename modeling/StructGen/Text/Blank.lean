/-!
# White space and runs

Text is trimmed, and cut into words, at the characters of `isBlank`. `runs` is the general cut:
the maximal stretches of characters that are no separators.
-/
namespace StructGen.Text

/-- White space in the sense of the Unicode standard. -/
def isWhiteSpace (c : Char) : Bool :=
  let n := c.toNat
  (0x09 ≤ n && n ≤ 0x0d) || n == 0x20 || n == 0x85 || n == 0xa0 || n == 0x1680 ||
    (0x2000 ≤ n && n ≤ 0x200a) || n == 0x2028 || n == 0x2029 || n == 0x202f || n == 0x205f ||
    n == 0x3000

/-- The characters at which text is trimmed and cut into words: white space and the four controls
that separate information. -/
def isBlank (c : Char) : Bool :=
  isWhiteSpace c || (0x1c ≤ c.toNat && c.toNat ≤ 0x1f)

/-- Drops the characters of a class from both ends. -/
def strip (p : Char → Bool) (s : List Char) : List Char :=
  ((s.dropWhile p).reverse.dropWhile p).reverse

/-- A text without the white space at its ends. -/
def trim (s : String) : String :=
  String.ofList (strip isBlank s.toList)

/-- The maximal stretches of characters that are no separators, in order. -/
def runs (sep : Char → Bool) : List Char → List (List Char)
  | [] => []
  | c :: rest =>
    if sep c then runs sep rest
    else
      match rest, runs sep rest with
      | d :: _, w :: ws => if sep d then [c] :: w :: ws else (c :: w) :: ws
      | _, ws => [c] :: ws

/-- Puts the words of a text on one line, with one space between neighbours. -/
def oneLine (s : String) : String :=
  String.ofList ([' '].intercalate (runs isBlank s.toList))

end StructGen.Text
