/-!
# Record notation

Values are shown to a reader of the log by their constructor and its arguments: `Return`,
`Jump(3247)`, `Load { x: 10, nn: 5 }`.

* `tuple`: a constructor with positional arguments;
* `record`: a constructor with named fields.
-/

namespace Chip8.Text

/-- A constructor with positional arguments; without any it is its bare name. -/
def tuple (name : String) (args : List String) : String :=
  if args.isEmpty then name else name ++ "(" ++ ", ".intercalate args ++ ")"

/-- A constructor with named fields; without any it is its bare name. -/
def record (name : String) (fields : List (String × String)) : String :=
  if fields.isEmpty then name
  else name ++ " \x7b " ++ ", ".intercalate (fields.map fun (k, v) => k ++ ": " ++ v) ++ " \x7d"

end Chip8.Text
