import StructGen.Value
/-!
# Declared defaults

A default is a value that stands in the declaration, or one that is only known when a row is written.
-/
namespace StructGen.Declared

/-- A default as it is declared. -/
inductive DeclaredDefault
  /-- A value that is known. -/
  | scalar (v : Value)
  /-- A value that is only known when a row is written. -/
  | computed
deriving Repr, Inhabited

/-- The value of a default, if it is known. -/
def DeclaredDefault.value : DeclaredDefault → Value
  | scalar v => v
  | computed => .null

/-- The declared default, unless it is the null value, which is none. -/
def DeclaredDefault.notNull? : DeclaredDefault → Option DeclaredDefault
  | scalar .null => none
  | d => some d

end StructGen.Declared
