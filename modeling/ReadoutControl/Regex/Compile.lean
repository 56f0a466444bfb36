import ReadoutControl.Regex.Matcher
import ReadoutControl.Regex.Meaning
import ReadoutControl.Regex.Parser
import ReadoutControl.Regex.Size

set_option autoImplicit false

/-!
From the text of an expression to a regular expression.
-/

namespace ReadoutControl.Regex

/-- The regular expression of a text that is well formed and not too large. -/
def ofText? (cs : List Char) : Option Regex :=
  (Ast.parse? cs).bind fun ast =>
    ((ofAst? .standard ast).map (·.1)).filter (!isTooLarge ·)

/-- The text of an expression that is to match from the start to the end of a name. -/
def anchored (expr : List Char) : List Char :=
  ['^', '(', '?', ':'] ++ expr ++ [')', '$']

end ReadoutControl.Regex
