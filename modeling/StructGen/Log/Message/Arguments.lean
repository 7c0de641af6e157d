import StructGen.Log.Message.Fault
import StructGen.Log.Message.Placeholder
import StructGen.Value
/-!
# Arguments

The arguments of a message are taken one after the other. A single value with parts also stands for
the arguments as a whole: it may be left over, and if it is a dictionary, a placeholder with a key
puts the entry of this key in the place of all arguments.
-/
namespace StructGen.Log

/-- What fills the placeholders of a message. -/
structure Arguments where
  values : List Value := []
  /-- The value with parts that stands for all arguments. -/
  whole : Option Value := none
deriving Repr, Inhabited

namespace Arguments

/-- The arguments of a call. A single dictionary with entries stands for all of them. -/
def ofList (values : List Value) : Arguments where
  values
  whole := match values with
    | [.dict (e :: rest)] => some (.dict (e :: rest))
    | _ => none

/-- A value that stands for all arguments; an empty or zero one stands for none. -/
def ofValue (v : Value) : Arguments :=
  match v with
  | .null | .bool false | .int 0 | .text "" | .bytes [] | .list [] | .dict [] => {}
  | .float (.finite _ 0 _) | .decimal (.finite _ 0 _) => {}
  | .bytes _ | .list _ | .dict _ => { values := [v], whole := some v }
  | _ => { values := [v] }

/-- Nothing is left that has to be used. -/
def isSpent (args : Arguments) : Bool :=
  args.values.isEmpty || args.whole.isSome

/-- The next argument and those after it. -/
def next (args : Arguments) : Except MessageFault (Value × Arguments) :=
  match args.values with
  | v :: values => .ok (v, { args with values })
  | [] => .error .tooFewArguments

/-- The arguments after the key of a placeholder. -/
def select (args : Arguments) (key : PlaceholderKey) : Except MessageFault Arguments :=
  match key, args.whole with
  | .absent, _ => .ok args
  | _, none => .error .keyless
  | .unclosed, some _ => .error .unclosedKey
  | .name key, some (.dict entries) =>
    match entries.lookup key with
    | some v => .ok { args with values := [v] }
    | none => .error (.missingKey key)
  | .name _, some _ => .error .keyless

/-- The number of a width or precision. It is at most `limit`, and as an argument at least
`-limit - 1`. -/
def count (args : Arguments) (limit : Nat) (excess : MessageFault) :
    PlaceholderCount → Except MessageFault (Int × Arguments)
  | .digits n => if limit < n then .error excess else .ok (n, args)
  | .argument => do
    let (v, args) ← args.next
    match v with
    | .int n => if n < -limit - 1 ∨ limit < n then .error .countOverflow else .ok (n, args)
    | .bool b => .ok (b.toNat, args)
    | _ => .error .untypedCount

/-- The number of a width or precision that may be absent. -/
def count? (args : Arguments) (limit : Nat) (excess : MessageFault) :
    Option PlaceholderCount → Except MessageFault (Option Int × Arguments)
  | none => .ok (none, args)
  | some c => (args.count limit excess c).map fun (n, args) => (some n, args)

end Arguments

end StructGen.Log
