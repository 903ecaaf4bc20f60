/-!
# Fragments of the generated program

The entry routine and the members of the generated class are lists of fragments, each of which knows
its own text.

## Main definitions

* `Fragment` — code taken over as it is, or an instruction that writes something.
* `Fragment.render`, `renderRegion` — the text of a fragment, and of a list of them.
-/

namespace Stencil

/-- A piece of the generated program. -/
inductive Fragment where
  /-- Code taken over as it is. -/
  | raw (code : String)
  /-- An instruction that writes a text, which is given as the inside of a verbatim literal. -/
  | literal (text : String)
  /-- An instruction that writes the value of an expression. -/
  | expression (code : String)
  deriving DecidableEq, Repr, Inhabited

/-- The text of a fragment, where `writer` is what the program writes through and `indent` stands in
front of each instruction. -/
def Fragment.render (writer indent : String) : Fragment → String
  | .raw code => code
  | .literal text => indent ++ writer ++ ".Write(@\"" ++ text ++ "\");\n"
  | .expression code => indent ++ writer ++ ".Write(" ++ code ++ ");\n"

/-- The text of a list of fragments, one behind the other. -/
def renderRegion (writer indent : String) (fragments : List Fragment) : String :=
  String.join (fragments.map (Fragment.render writer indent))

end Stencil
