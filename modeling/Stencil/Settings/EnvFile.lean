import Stencil.Text.Blank

/-!
# Files of variables

A file of variables binds a name to a value on each line, `NAME=value`, which may begin with the
word `export`.  A value in single or double quotes may go on over several lines and mark characters
by a backslash; any other value ends with its line, or with a blank and a `#`, which begins a
comment.  A value may refer to other variables, `${NAME}` or `${NAME:-value otherwise}`.  Lines that
are not of this form are passed over, and so is a byte-order mark in front of the first one.

## Main definitions

* `EnvFile.bindings` — the bindings of a file, in order, with the values as they are written.
* `EnvFile.expand` — a value with its references replaced.
* `EnvFile.read` — the values that the names of a file end up with.
-/

namespace Stencil

namespace EnvFile

/-- Every line end as a line feed. -/
def withLineFeeds : List Char → List Char
  | [] => []
  | '\r' :: '\n' :: rest => '\n' :: withLineFeeds rest
  | c :: rest => (if c = '\r' then '\n' else c) :: withLineFeeds rest

/-- A blank within a line. -/
def isInnerBlank (c : Char) : Bool := isBlank c && c != '\n' && c != '\r'

/-- What stands behind the word `export` and a blank, if the text begins with them. -/
def skipExport (s : List Char) : List Char :=
  let word := "export".toList
  let rest := s.drop word.length
  if word.isPrefixOf s && (rest.head?.any isInnerBlank) then rest.dropWhile isInnerBlank else s

/-- The name of a binding, and what stands behind it.  A name in single quotes may hold anything
else; a comment has no name. -/
def readKey? : List Char → Option (Option (List Char) × List Char)
  | '#' :: rest => some (none, '#' :: rest)
  | '\x27' :: rest =>
      let name := rest.takeWhile (· != '\x27')
      match name, rest.drop name.length with
      | _ :: _, _ :: behind => some (some name, behind)
      | _, _ => none
  | s =>
      let name := s.takeWhile fun c => c != '=' && c != '#' && !isBlank c
      if name.isEmpty then none else some (some name, s.drop name.length)

/-- Where a quoted value ends: at the first quote that no backslash marks.  A backslash marks the
character behind it, whichever that is.  `index` is the place in the value. -/
def closingQuote? (quote : Char) (index : Nat) : List Char → Option Nat
  | [] => none
  | '\\' :: _ :: rest => closingQuote? quote (index + 2) rest
  | c :: rest => if c = quote then some index else closingQuote? quote (index + 1) rest

/-- The character that a backslash makes of the one behind it, in a value in single quotes. -/
def singleEscape? (c : Char) : Option Char :=
  if c = '\\' || c = '\x27' then some c else none

/-- The character that a backslash makes of the one behind it, in a value in double quotes. -/
def doubleEscape? (c : Char) : Option Char :=
  [('\\', '\\'), ('\x27', '\x27'), ('"', '"'), ('a', '\x07'), ('b', '\x08'), ('f', '\x0c'),
   ('n', '\n'), ('r', '\r'), ('t', '\t'), ('v', '\x0b')].lookup c

/-- A value with the marked characters replaced. -/
def unmark (escape? : Char → Option Char) : List Char → List Char
  | [] => []
  | [c] => [c]
  | c :: d :: rest =>
      match c, escape? d with
      | '\\', some e => e :: unmark escape? rest
      | _, _ => c :: unmark escape? (d :: rest)

/-- A value in quotes, and what stands behind it. -/
def readQuotedValue? (quote : Char) (escape? : Char → Option Char) (s : List Char) :
    Option (List Char × List Char) :=
  (closingQuote? quote 0 s).map fun n => (unmark escape? (s.take n), s.drop (n + 1))

/-- A line up to the blanks in front of a comment. -/
def beforeComment : List Char → List Char
  | [] => []
  | c :: rest =>
      if isBlank c && ((c :: rest).dropWhile isBlank).head? = some '#' then []
      else c :: beforeComment rest

/-- The value of a binding, and what stands behind it.  `s` begins right behind the equals sign, and
blanks there may already belong to a comment. -/
def readValue? (s : List Char) : Option (List Char × List Char) :=
  match s.dropWhile isInnerBlank with
  | '\x27' :: rest => readQuotedValue? '\x27' singleEscape? rest
  | '"' :: rest => readQuotedValue? '"' doubleEscape? rest
  | _ =>
      let line := s.takeWhile (· != '\n')
      some (trimBlanks (beforeComment line), s.drop line.length)

/-- What stands behind the blanks and the comment at the end of a line, if nothing else is left on
it. -/
def endLine? (s : List Char) : Option (List Char) :=
  let afterBlanks := s.dropWhile isInnerBlank
  let rest := if afterBlanks.head? = some '#' then afterBlanks.dropWhile (· != '\n') else s
  match rest.dropWhile isInnerBlank with
  | [] => some []
  | '\n' :: behind => some behind
  | _ => none

/-- What stands behind the end of the line. -/
def nextLine (s : List Char) : List Char := (s.dropWhile (· != '\n')).drop 1

/-- One binding at the front of a text, if there is one, and what stands behind it.  A name without
an equals sign is bound to nothing. -/
def readBinding (s : List Char) : Option (List Char × Option (List Char)) × List Char :=
  match readKey? (skipExport s) with
  | none => (none, nextLine (skipExport s))
  | some (key, afterKey) =>
      let finish (value : Option (List Char)) (rest : List Char) :=
        match endLine? rest with
        | some behind => (key.map (·, value), behind)
        | none => (none, nextLine rest)
      match afterKey.dropWhile isInnerBlank with
      | '=' :: rest =>
          match readValue? rest with
          | some (value, behind) => finish (some value) behind
          | none => (none, nextLine rest)
      | rest => finish none rest

/-- The bindings of a text, in order. -/
def bindingsFrom (s : List Char) : List (String × Option (List Char)) :=
  match s.dropWhile isBlank with
  | [] => []
  | c :: rest =>
      let binding := readBinding (c :: rest)
      let others := if binding.2.length < s.length then bindingsFrom binding.2 else []
      match binding.1 with
      | none => others
      | some (name, value) => (String.ofList name, value) :: others
termination_by s.length
decreasing_by assumption

/-- A text without the byte-order mark it may begin with. -/
def dropMark : List Char → List Char
  | '\uFEFF' :: rest => rest
  | s => s

/-- The bindings of a file, in order. -/
def bindings (file : String) : List (String × Option (List Char)) :=
  bindingsFrom (withLineFeeds (dropMark file.toList))

/-- The reference at the front of a text, its name and the value otherwise, and what stands behind
it. -/
def reference? : List Char → Option ((List Char × List Char) × List Char)
  | '$' :: '\x7b' :: s =>
      let name := s.takeWhile fun c => c != '\x7d' && c != ':'
      match s.drop name.length with
      | '\x7d' :: rest => some ((name, []), rest)
      | ':' :: '-' :: behind =>
          let otherwise := behind.takeWhile (· != '\x7d')
          match behind.drop otherwise.length with
          | '\x7d' :: rest => some ((name, otherwise), rest)
          | _ => none
      | _ => none
  | _ => none

/-- A value with its references replaced by what `find?` knows of them. -/
def expand (find? : String → Option String) (s : List Char) : List Char :=
  match s with
  | [] => []
  | c :: rest =>
      match reference? (c :: rest) with
      | some ((name, otherwise), behind) =>
          let value := ((find? (String.ofList name)).map String.toList).getD otherwise
          value ++ (if behind.length < (c :: rest).length then expand find? behind else [])
      | none => c :: expand find? rest
termination_by s.length
decreasing_by
  · assumption
  · exact Nat.lt_succ_self _

/-- Bind a name, in its old place if it has one. -/
def bindName (name : String) (value : Option String) :
    List (String × Option String) → List (String × Option String)
  | [] => [(name, value)]
  | (other, old) :: rest =>
      if other = name then (name, value) :: rest else (other, old) :: bindName name value rest

/-- What names are bound to behind `known`, each value seeing the variables of `environment` and,
before these, the names bound earlier. -/
def resolve (environment : List (String × String)) (known : List (String × Option String)) :
    List (String × Option (List Char)) → List (String × Option String)
  | [] => known
  | (name, value) :: rest =>
      let find? (n : String) : Option String :=
        match known.lookup n with
        | some bound => some (bound.getD "")
        | none => environment.lookup n
      let value := value.map fun v => String.ofList (expand find? v)
      resolve environment (bindName name value known) rest

/-- The names that a file binds, in the order in which they first occur, with the values they end up
with. -/
def read (environment : List (String × String)) (file : String) :
    List (String × Option String) :=
  resolve environment [] (bindings file)

end EnvFile

end Stencil
