import Stencil.Template.Block

/-!
# Events

Everything the compiler reports on its way is an event.  An event has a level, the verbosity from
which on it is worth a line, and a channel: what directives say goes to the sink of the caller, all
else goes to the log.  The caller's sink is either a record of its own or the log again, so one list
of events underlies every record and every log.

## Main definitions

* `Notice` — a message and its level.
* `Event` — what is reported, with `Event.notice` and `Event.channel`.
* `Sink`, `diagnosticsOf`, `logOf` — what of a list of events is recorded, and what is logged.

## Main results

* `diagnosticsOf_append` — what is recorded follows the order of events.
-/

namespace Stencil

/-- A message and the verbosity from which on it is shown. -/
structure Notice where
  /-- The least verbosity that shows the message. -/
  level : Int := 1
  /-- The message. -/
  message : String
  deriving DecidableEq, Repr, Inhabited

/-- A notice is shown at a verbosity that reaches its level; without a verbosity nothing is. -/
def Notice.passes (verbosity : Option Int) (notice : Notice) : Bool :=
  match verbosity with
  | none => false
  | some v => notice.level ≤ v

/-- Where an event is reported. -/
inductive Channel where
  /-- The log. -/
  | log
  /-- The sink of the caller. -/
  | sink
  deriving DecidableEq, Repr, Inhabited

/-- Something worth reporting. -/
inductive Event where
  /-- A directive sets something that only the reader of the report makes use of. -/
  | announced (label value : String)
  /-- A directive asks for a namespace. -/
  | usingNamespace (name : String)
  /-- A directive gives the extension of the output. -/
  | outputExtension (value : String)
  /-- A directive settles the output path. -/
  | outputFile (path : String)
  /-- A directive comes too late to settle the output path. -/
  | outputFileKept (path ignored : String)
  /-- A directive has a name that means nothing. -/
  | directiveIgnored (name : String) (line : Int)
  /-- A directive has a property that means nothing. -/
  | propertyIgnored (property directive : String)
  /-- A piece of code is about to be taken in. -/
  | assembling (kind : CodeKind) (line : Int) (mode : Mode)
  /-- A template is read to its end. -/
  | scanned (script classFeature : Nat)
  /-- A template file is about to be read. -/
  | scanning (template : String)
  /-- A program is written. -/
  | wrote (length : Nat) (target : String)
  /-- The paths of a command line are about to be checked. -/
  | checkingEnvironment
  /-- The template of a command line is in place. -/
  | templateFound (path : String)
  /-- The place for the program of a command line exists. -/
  | programPlanned (path : String)
  /-- The transformation of a command line is about to start. -/
  | transforming (template program : String)
  /-- The transformation of a command line is done. -/
  | completed
  /-- The program that a transformation made. -/
  | summaryProgram (program : String)
  /-- Where the program of a transformation writes to. -/
  | summaryOutput (output : String)
  /-- The numbers of fragments of a transformation. -/
  | summaryFragments (script classFeature : String)
  deriving DecidableEq, Repr, Inhabited

namespace Event

/-- What directives report goes to the sink of the caller, all else to the log. -/
def channel : Event → Channel
  | announced _ _ | usingNamespace _ | outputExtension _ | outputFile _ | outputFileKept _ _
  | directiveIgnored _ _ | propertyIgnored _ _ => .sink
  | assembling _ _ _ | scanned _ _ | scanning _ | wrote _ _ | checkingEnvironment
  | templateFound _ | programPlanned _ | transforming _ _ | completed | summaryProgram _
  | summaryOutput _ | summaryFragments _ _ => .log

/-- The least verbosity that shows an event. -/
def level : Event → Int
  | announced _ _ | usingNamespace _ | outputExtension _ | outputFile _ | outputFileKept _ _
  | transforming _ _ | completed => 1
  | scanned _ _ | scanning _ | wrote _ _ | checkingEnvironment | templateFound _
  | programPlanned _ | summaryProgram _ | summaryOutput _ | summaryFragments _ _ => 2
  | directiveIgnored _ _ | propertyIgnored _ _ | assembling _ _ _ => 3

/-- The wording of an event. -/
def message : Event → String
  | announced label value => label ++ ": " ++ value
  | usingNamespace name => "Using namespace: " ++ name
  | outputExtension value => "Output file extension: " ++ value
  | outputFile path => "Output file: " ++ path
  | outputFileKept path ignored =>
      "Output file already set to '" ++ path ++ "', ignoring '" ++ ignored ++ "'"
  | directiveIgnored name line =>
      "Ignoring unrecognized directive '" ++ name ++ "' at line " ++ toString line
  | propertyIgnored property directive =>
      "Ignoring unrecognized property '" ++ property ++ "' of directive '" ++ directive ++ "'"
  | assembling kind line mode =>
      kind.name ++ " block at line " ++ toString line ++ " (" ++ mode.name ++ " mode)"
  | scanned script classFeature =>
      "Scanned " ++ toString script ++ " script and " ++ toString classFeature
        ++ " class feature fragments"
  | scanning template => "Scanning " ++ template
  | wrote length target => "Wrote " ++ toString length ++ " characters to " ++ target
  | checkingEnvironment => "Checking environment..."
  | templateFound path => "Template: " ++ path
  | programPlanned path => "Program: " ++ path
  | transforming template program =>
      "Transforming template '" ++ template ++ "' to intermediate assembly '" ++ program ++ "'..."
  | completed => "Transformation completed."
  | summaryProgram program => "  Program: " ++ program
  | summaryOutput output => "  Renders to: " ++ output
  | summaryFragments script classFeature =>
      "  Fragments: " ++ script ++ " script, " ++ classFeature ++ " class feature"

/-- An event as a notice. -/
def notice (e : Event) : Notice := ⟨e.level, e.message⟩

end Event

/-- What the caller does with the reports of directives. -/
inductive Sink where
  /-- Keep them in a record of its own. -/
  | record
  /-- Pass them on to the log. -/
  | log
  deriving DecidableEq, Repr, Inhabited

/-- Whether a sink sends what comes through a channel to the log. -/
def Sink.logs : Sink → Channel → Bool
  | .record, .sink => false
  | _, _ => true

/-- The notices that a sink keeps in the caller's record, in the order of events. -/
def diagnosticsOf (sink : Sink) (events : List Event) : List Notice :=
  (events.filter fun e => !sink.logs e.channel).map Event.notice

/-- The messages that reach the log, in the order of events. -/
def logOf (verbosity : Option Int) (sink : Sink) (events : List Event) : List String :=
  (events.filter fun e => sink.logs e.channel && e.notice.passes verbosity).map Event.message

theorem diagnosticsOf_append (sink : Sink) (e₁ e₂ : List Event) :
    diagnosticsOf sink (e₁ ++ e₂) = diagnosticsOf sink e₁ ++ diagnosticsOf sink e₂ := by
  simp [diagnosticsOf]

end Stencil
