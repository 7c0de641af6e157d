import StructGen.Log.Message.Arguments
import StructGen.Log.Message.Placement
/-!
# Messages

A message is a text with placeholders and the arguments that fill them. `%%` is a percent sign, and
any other percent sign starts a placeholder. A message without arguments stands as it is.
-/
namespace StructGen.Log

/-- The widest that a placeholder can ask for. -/
def widthLimit : Nat := 0x7fffffffffffffff

/-- What a placeholder is filled with, and the arguments that are left. Its letter stands `index`
characters into the message. -/
def Placeholder.filled (p : Placeholder) (index : Nat) (args : Arguments) :
    Except MessageFault (List Char × Arguments) := do
  let args ← args.select p.key
  let (width, args) ← args.count? widthLimit .widthTooLarge p.width
  let (precision, args) ← args.count? Placement.precisionLimit .precisionTooLarge p.precision
  match p.letter with
  | none => .error .incomplete
  | some letter =>
    let (v, args) ← args.next
    match ArgumentForm.ofLetter? letter with
    | none => .error (.unsupportedLetter letter index)
    | some form =>
      let shown ← (Placement.ofCounts p.flags width precision).place v form
      return (shown, args)

/-- Fills the placeholders of the end of a message that has `length` characters. -/
def fill (length : Nat) (args : Arguments) : List Char → Except MessageFault (List Char)
  | [] => if args.isSpent then .ok [] else .error .tooManyArguments
  | '%' :: '%' :: rest => do
    let filled ← fill length args rest
    return '%' :: filled
  | c :: rest =>
    if c = '%' then
      match _h : Placeholder.read rest with
      | (p, tail) => do
        let (shown, args) ← p.filled (length - tail.length - 1) args
        let filled ← fill length args tail
        return shown ++ filled
    else do
      let filled ← fill length args rest
      return c :: filled
termination_by s => s.length
decreasing_by
  all_goals
    simp only [List.length_cons]
    try have := Placeholder.length_read_le rest
    try simp only [_h] at this
    omega

/-- A message with its placeholders filled. -/
def formatMessage (message : String) (args : Arguments) : Except MessageFault String :=
  if args.values.isEmpty then .ok message
  else (fill message.length args message.toList).map String.ofList

end StructGen.Log
