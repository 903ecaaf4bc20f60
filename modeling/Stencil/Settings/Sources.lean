import Stencil.Settings
import Stencil.Settings.EnvFile
import Stencil.Settings.WholeNumber
import Stencil.Text.LowerCase

/-!
# Where settings come from

A setting may be given outright, by a variable of the environment, or by a file of variables; the
first of these that has it counts, and only that one has to be right.  The variable of a setting is
its name behind a common beginning.  Names are taken without regard to case.  What is given outright
and what a file of variables holds must be settings, while other variables of the environment are
nobody's business.

## Main definitions

* `SettingName` — the names of the settings, in order.
* `SettingProblem` — what is wrong with what was given.
* `Settings.ofSources` — the settings that the sources give, or all that is wrong with them.
-/

namespace Stencil

/-- The settings by name. -/
inductive SettingName where
  /-- The name of the generated class. -/
  | className
  /-- The name of the field that the program writes through. -/
  | writerName
  /-- The name of the method that holds the entry routine. -/
  | entryMethod
  /-- What stands in front of each instruction. -/
  | indent
  /-- The encoding of templates. -/
  | sourceEncoding
  /-- The encoding of generated programs. -/
  | programEncoding
  /-- The length of a template's extension. -/
  | sourceExtensionLength
  deriving DecidableEq, Repr, Inhabited

namespace SettingName

/-- The settings, in the order in which problems are reported. -/
def all : List SettingName :=
  [className, writerName, entryMethod, indent, sourceEncoding, programEncoding,
   sourceExtensionLength]

/-- The name of a setting. -/
def name : SettingName → String
  | className => "class_name"
  | writerName => "writer_name"
  | entryMethod => "entry_method"
  | indent => "indent"
  | sourceEncoding => "source_encoding"
  | programEncoding => "program_encoding"
  | sourceExtensionLength => "source_extension_length"

/-- The variable of a setting, in lower case. -/
def variableName (s : SettingName) : String := "simplet4_" ++ s.name

end SettingName

/-- What can be wrong with a setting. -/
inductive SettingFlaw where
  /-- It is no text. -/
  | notText
  /-- It is no number. -/
  | notNumber
  /-- It is a number with a fraction. -/
  | notWhole
  /-- It is a text that holds no whole number. -/
  | notDecimal
  /-- It is a number of double precision that is too large, or a text with too many digits. -/
  | tooLarge
  /-- It is beyond all numbers. -/
  | notFinite
  /-- It is below zero. -/
  | negative
  /-- There is no such setting. -/
  | unknown
  deriving DecidableEq, Repr, Inhabited

/-- A flaw and the name it is found under. -/
structure SettingProblem where
  /-- What is wrong. -/
  flaw : SettingFlaw
  /-- The name as given, or that of the setting. -/
  name : String
  deriving DecidableEq, Repr, Inhabited

/-- Where settings come from, the first source counting most. -/
structure SettingSources where
  /-- What is given outright. -/
  given : Table := []
  /-- The variables of the environment. -/
  environment : List (String × String) := []
  /-- The text of the file of variables, if there is one. -/
  envFile : Option String := none
  deriving Inhabited

namespace SettingSources

/-- The first entry whose name is `name` but for its case. -/
def lookupFolded {α : Type} (name : String) (entries : List (String × α)) : Option α :=
  entries.findSome? fun entry => if lowerCase entry.1 = name then some entry.2 else none

/-- The names that the file of variables binds, in lower case. -/
def fileBindings (sources : SettingSources) : List (String × Option String) :=
  match sources.envFile with
  | none => []
  | some file =>
      (EnvFile.read sources.environment file).foldl
        (fun known entry => EnvFile.bindName (lowerCase entry.1) entry.2 known) []

/-- What the sources have for a setting.  Of names that differ in case only, the first of those
given outright counts, and the last of the others. -/
def find? (sources : SettingSources) (s : SettingName) : Option Value :=
  (lookupFolded s.name sources.given)
    <|> (lookupFolded s.variableName sources.environment.reverse).map .text
    <|> ((sources.fileBindings.lookup s.variableName).join).map .text

/-- The names that are no settings: those of the file of variables, unless they are bound to nothing
or are a setting without the common beginning, and then those given outright. -/
def unknownNames (sources : SettingSources) : List String :=
  let inFile := sources.fileBindings.filterMap fun (name, value) =>
    let isSetting := SettingName.all.any fun s => s.name = name || s.variableName = name
    if (value.getD "").isEmpty || isSetting then none else some name
  let outright := sources.given.filterMap fun (name, _) =>
    if SettingName.all.any (fun s => s.name = lowerCase name) then none else some name
  (inFile ++ outright).eraseDups

end SettingSources

/-- A setting that is a text. -/
def Value.toText : Value → Except SettingFlaw String
  | .text s => .ok s
  | _ => .error .notText

/-- A setting that counts something. -/
def Value.toCount (value : Value) : Except SettingFlaw Nat :=
  match value.toWhole with
  | .error .type => .error .notNumber
  | .error .fraction => .error .notWhole
  | .error .text => .error .notDecimal
  | .error .size => .error .tooLarge
  | .error .infinite => .error .notFinite
  | .ok n => if n < 0 then .error .negative else .ok n.toNat

namespace Settings

/-- Settings with one of them replaced. -/
def set (settings : Settings) (value : Value) : SettingName → Except SettingFlaw Settings
  | .className => value.toText.map fun s => { settings with className := s }
  | .writerName => value.toText.map fun s => { settings with writerName := s }
  | .entryMethod => value.toText.map fun s => { settings with entryMethod := s }
  | .indent => value.toText.map fun s => { settings with indent := s }
  | .sourceEncoding => value.toText.map fun s => { settings with sourceEncoding := s }
  | .programEncoding => value.toText.map fun s => { settings with programEncoding := s }
  | .sourceExtensionLength =>
      value.toCount.map fun n => { settings with sourceExtensionLength := n }

/-- Set what the sources have for a list of names, gathering what is wrong with them. -/
def setAll (sources : SettingSources) (settings : Settings) :
    List SettingName → Settings × List SettingProblem
  | [] => (settings, [])
  | s :: rest =>
      match (sources.find? s).map fun value => settings.set value s with
      | none => setAll sources settings rest
      | some (.ok settings) => setAll sources settings rest
      | some (.error flaw) =>
          let others := setAll sources settings rest
          (others.1, ⟨flaw, s.name⟩ :: others.2)

/-- The settings that sources give, or all that is wrong with what they give. -/
def ofSources (sources : SettingSources) : Except (List SettingProblem) Settings :=
  let (settings, problems) := setAll sources {} SettingName.all
  match problems ++ sources.unknownNames.map fun name => ⟨.unknown, name⟩ with
  | [] => .ok settings
  | problem :: problems => .error (problem :: problems)

end Settings

end Stencil
