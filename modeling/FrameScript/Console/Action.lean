import FrameScript.Expression.Value
import FrameScript.Text.Alphanumeric
import FrameScript.Text.Blank
import FrameScript.Text.Quoted

/-!
# Actions

A mark may name an action: a handler with arguments in parentheses, or the arguments alone. The
arguments are written as an expression that has a value of its own.
-/

namespace FrameScript.Console.Action

open Expression (Tree)

/-- The arguments in an action: those in parentheses after the name of a handler, none if it has a
name only, and else all of it. -/
def argumentsOf (s : Text) : Text :=
  match s.dropWhile fun c => Text.isWord c || c == '.' with
  | [] => ['(', ')']
  | c :: rest =>
    if c = '(' ∧ (c :: rest).getLast? = some ')' ∧ !rest.contains '\n' then c :: rest else s

/-- The complaint about an action, if anything is wrong with it. -/
def complaint? (action : Text) : Option String :=
  let arguments := argumentsOf (Text.trim action)
  let complaint (message : String) : String :=
    s!"error parsing {String.ofList (Text.quoted action)}; {message}"
  match Tree.read arguments with
  | .error fault =>
    if fault.isOfWriting then
      some (s!"error parsing {String.ofList (Text.quoted arguments)} in "
        ++ s!"{String.ofList (Text.quoted action)}; {fault.message}")
    else some (complaint fault.message)
  | .ok tree => tree.valueFault?.map fun fault => complaint fault.message

end FrameScript.Console.Action
