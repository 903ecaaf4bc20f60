import Stencil.Text.DecimalDigit
import Stencil.Text.Quoted

/-!
# The arguments of the command line

The command line takes a template and a program, and options anywhere between them.  A long option
may be cut short as long as it can be told from the others, short options may be put together behind
one hyphen, and `--` ends the options.  Options act in the order of the arguments, as soon as they
are met; what is missing or left over is found out at the end.

## Main definitions

* `Flag` — the options.
* `Argument`, `Argument.classify` — arguments by what they are.
* `Request`, `Request.parse` — what arguments ask for.
-/

namespace Stencil

/-- The options of the command line. -/
inductive Flag where
  /-- Show what the command line takes. -/
  | help
  /-- Report more. -/
  | verbosity
  /-- Show the version. -/
  | version
  deriving DecidableEq, Repr, Inhabited

namespace Flag

/-- The short form of an option. -/
def short : Flag → Char
  | help => 'h'
  | verbosity => 'v'
  | version => 'V'

/-- The long form of an option. -/
def long : Flag → String
  | help => "--help"
  | verbosity => "--verbosity"
  | version => "--version"

/-- The options, in the order in which they are shown. -/
def all : List Flag := [help, verbosity, version]

/-- The option with a given short form. -/
def ofShort? (c : Char) : Option Flag := all.find? (·.short = c)

/-- Both forms of an option, as messages name it. -/
def display (f : Flag) : String := "-" ++ String.singleton f.short ++ "/" ++ f.long

end Flag

/-- Why arguments are refused. -/
inductive UsageFault where
  /-- A long option is cut too short. -/
  | ambiguous (argument : String) (candidates : List Flag)
  /-- An option is given a value. -/
  | unwantedValue (flag : Flag) (value : String)
  /-- Arguments are missing. -/
  | missing (names : List String)
  /-- Arguments are left over. -/
  | unrecognized (arguments : List String)
  deriving DecidableEq, Repr, Inhabited

/-- The wording of a refusal. -/
def UsageFault.message : UsageFault → String
  | ambiguous argument candidates =>
      "ambiguous option: " ++ argument ++ " could match "
        ++ ", ".intercalate (candidates.map Flag.long)
  | unwantedValue flag value =>
      "argument " ++ flag.display ++ ": ignored explicit argument " ++ quoted value
  | missing names => "the following arguments are required: " ++ ", ".intercalate names
  | unrecognized arguments => "unrecognized arguments: " ++ " ".intercalate arguments

/-- An argument by what it is. -/
inductive Argument where
  /-- A value. -/
  | value (text : String)
  /-- The end of the options. -/
  | endOfOptions
  /-- The options that an argument stands for, or why it is refused when its turn comes. -/
  | flags (flags : Except UsageFault (List Flag))
  /-- Something in the form of an option that is none. -/
  | unknown (text : String)

namespace Argument

/-- A negative number, which is a value: digits, or a point with digits behind it and perhaps in
front of it.  A line feed may end it. -/
def isNegativeNumber : List Char → Bool
  | '-' :: rest =>
      let number := if rest.getLast? = some '\n' then rest.dropLast else rest
      let digits := number.takeWhile isDecimalDigit
      match number.drop digits.length with
      | [] => !digits.isEmpty
      | '.' :: fraction => !fraction.isEmpty && fraction.all isDecimalDigit
      | _ => false
  | _ => false

/-- An argument that names no option though it begins with a hyphen. -/
def ofUnknown (text : String) : Argument :=
  if isNegativeNumber text.toList || text.toList.contains ' ' then .value text else .unknown text

/-- The options that letters behind one hyphen stand for, where `flag` is the one read last and no
option takes what is left over. -/
def expandShort (flag : Flag) : List Char → Except UsageFault (List Flag)
  | [] => .ok [flag]
  | c :: rest =>
      match Flag.ofShort? c with
      | none => .error (.unwantedValue flag (String.ofList (c :: rest)))
      | some next => (expandShort next rest).map (flag :: ·)

/-- An option in its long form, which takes no value. -/
def ofLong (flag : Flag) : Option (List Char) → Argument
  | none => .flags (.ok [flag])
  | some unwanted => .flags (.error (.unwantedValue flag (String.ofList unwanted)))

/-- An argument in front of the end of the options. -/
def ofText (text : String) : Except UsageFault Argument :=
  match text.toList with
  | '-' :: '-' :: rest =>
      let name := '-' :: '-' :: rest.takeWhile (· != '=')
      let behind := (rest.dropWhile (· != '=')).tail?
      match Flag.all.find? fun f => f.long.toList = name with
      | some flag => .ok (ofLong flag behind)
      | none =>
          match Flag.all.filter fun f => name.isPrefixOf f.long.toList with
          | [] => .ok (ofUnknown text)
          | [flag] => .ok (ofLong flag behind)
          | candidates => .error (.ambiguous text candidates)
  | '-' :: c :: rest =>
      match Flag.ofShort? c, rest with
      | none, _ => .ok (ofUnknown text)
      | some flag, ['='] => .ok (.flags (.error (.unwantedValue flag "")))
      | some flag, '=' :: tail => .ok (.flags (expandShort flag tail))
      | some flag, tail => .ok (.flags (expandShort flag tail))
  | _ => .ok (.value text)

/-- The arguments by what they are; behind the end of the options all are values. -/
def classify : List String → Except UsageFault (List Argument)
  | [] => .ok []
  | text :: rest =>
      if text = "--" then .ok (.endOfOptions :: rest.map .value)
      else
        match ofText text, classify rest with
        | .error fault, _ => .error fault
        | .ok _, .error fault => .error fault
        | .ok argument, .ok arguments => .ok (argument :: arguments)

/-- Whether an argument is in the form of an option. -/
def isOption : Argument → Bool
  | flags _ | unknown _ => true
  | value _ | endOfOptions => false

/-- A value, or the end of the options, as it was given. -/
def given : Argument → String
  | value text | unknown text => text
  | endOfOptions => "--"
  | flags _ => ""

/-- A value where one is due.  A further `--` is no value. -/
def due (text : String) : Option String := if text = "--" then none else some text

/-- As many values as are due, up to `n`, with the end of the options beside them left out, and what
is left over. -/
def takeValues : Nat → List Argument → List (Option String) × List Argument
  | n + 1, .endOfOptions :: .value text :: rest =>
      let others := takeValues n rest
      (some text :: others.1, others.2)
  | n + 1, .value text :: .endOfOptions :: rest =>
      let others := takeValues n rest
      (due text :: others.1, others.2)
  | n + 1, .value text :: rest =>
      let others := takeValues n rest
      (due text :: others.1, others.2)
  | _, rest => ([], rest)

end Argument

/-- What the arguments of the command line ask for. -/
inductive Request where
  /-- To show what the command line takes. -/
  | help
  /-- To show the version. -/
  | version
  /-- To transform a template into a program, each of which may be lost to a further `--`, and to
  report as much as `verbosity` more options ask for. -/
  | transform (template program : Option String) (verbosity : Nat)
  deriving DecidableEq, Repr, Inhabited

namespace Request

/-- What is gathered from arguments. -/
structure Gathered where
  /-- The values, in order. -/
  values : List (Option String) := []
  /-- What is neither a value that is due nor an option. -/
  extras : List String := []
  /-- How often more reports are asked for. -/
  verbosity : Nat := 0

/-- The names of the values. -/
def valueNames : List String := ["InputTt", "OutputCs"]

/-- Take in what stands between two options. -/
def Gathered.takeIn (g : Gathered) (segment : List Argument) : Gathered :=
  let taken := Argument.takeValues (valueNames.length - g.values.length) segment
  { g with
    values := g.values ++ taken.1
    extras := g.extras ++ taken.2.map Argument.given }

/-- Let options act in order; the first one that shows something is the end. -/
def Gathered.act (g : Gathered) : List Flag → Except Request Gathered
  | [] => .ok g
  | .help :: _ => .error .help
  | .version :: _ => .error .version
  | .verbosity :: rest => { g with verbosity := g.verbosity + 1 }.act rest

/-- What is asked for once all arguments are taken in. -/
def Gathered.finish (g : Gathered) : Except UsageFault Request :=
  match g.values, g.extras with
  | [template, program], [] => .ok (.transform template program g.verbosity)
  | [_, _], extras => .error (.unrecognized extras)
  | values, _ => .error (.missing (valueNames.drop values.length))

/-- What arguments ask for behind what is gathered, where `segment` holds what was passed since the
last option, last argument first. -/
def parseFrom (g : Gathered) (segment : List Argument) :
    List Argument → Except UsageFault Request
  | [] => (g.takeIn segment.reverse).finish
  | .unknown text :: rest =>
      let g := g.takeIn segment.reverse
      parseFrom { g with extras := g.extras ++ [text] } [] rest
  | .flags (.error fault) :: _ => .error fault
  | .flags (.ok flags) :: rest =>
      match (g.takeIn segment.reverse).act flags with
      | .error request => .ok request
      | .ok g => parseFrom g [] rest
  | argument :: rest => parseFrom g (argument :: segment) rest

/-- What arguments ask for. -/
def parse (arguments : List String) : Except UsageFault Request :=
  match Argument.classify arguments with
  | .error fault => .error fault
  | .ok arguments => parseFrom {} [] arguments

end Request

end Stencil
