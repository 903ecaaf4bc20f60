import Stencil.Files.FileTree
import Stencil.Program
import Stencil.Template.Scan

/-!
# Transforming files

A template file is scanned, and the program it leads to is written to a file of its own.  A program
is written to a temporary file first, which is then moved over its target; whatever goes wrong, the
temporary file is taken away again, unless that is refused.

## Main definitions

* `Failure` — everything that can go wrong with files, the faults that are expected and the others.
* `FileTree.scanFile` — the scan of a template file.
* `FileTree.writeProgram` — the program of a scan, written to a file.
* `FileTree.transform` — both, with a `Summary` of what was done.
-/

namespace Stencil

/-- What can go wrong with files. -/
inductive Failure where
  /-- A fault that is expected of a transformation. -/
  | expected (fault : TransformFault)
  /-- The first character of a template cannot be read, or a codec gives up without finding the
  bytes that are no text. -/
  | undecodable (fault : DecodeFault)
  /-- The program has no bytes in its encoding. -/
  | unencodable (fault : EncodeFault)
  /-- No encoding has this name. -/
  | unknownEncoding (name : String)
  /-- A path holds the character that ends paths. -/
  | nullInPath
  /-- The name of an encoding holds the character that ends names. -/
  | nullInEncoding
  /-- A path is due, and there is none. -/
  | lostPath
  /-- The operating system refuses to look at a path, or to take away the file that it leads to. -/
  | inaccessible (fault : FileFault) (path : String)
  /-- A summary lacks an entry. -/
  | missingEntry (name : String)
  deriving DecidableEq, Repr, Inhabited

/-- The wording of a failure. -/
def Failure.message : Failure → String
  | expected fault => fault.message
  | undecodable fault => fault.message
  | unencodable fault => fault.message
  | unknownEncoding name => "unknown encoding: " ++ name
  | nullInPath => "embedded null byte"
  | nullInEncoding => "embedded null character"
  | lostPath => "expected str, bytes or os.PathLike object, not list"
  | inaccessible fault path =>
      "[Errno " ++ toString fault.number ++ "] " ++ fault.message ++ ": " ++ quoted path
  | missingEntry name => quoted name

/-- A path that no file can have, or the name of an encoding that cannot be looked up. -/
def holdsNull (s : String) : Bool := s.toList.contains '\x00'

/-- What a transformation did. -/
structure Summary where
  /-- The path of the program, as given. -/
  programFile : String
  /-- Where the program writes to. -/
  outputFile : Option String
  /-- The namespaces the program uses. -/
  usings : List String
  /-- How many fragments the entry routine has. -/
  scriptFragments : Nat
  /-- How many fragments the members of the class have. -/
  classFragments : Nat
  deriving DecidableEq, Repr, Inhabited

/-- What comes of an operation on files. -/
structure FileRun (α : Type) where
  /-- The result, or what went wrong. -/
  result : Except Failure α
  /-- The files afterwards. -/
  tree : FileTree
  /-- What was reported. -/
  events : List Event := []

/-- The failure of a scan of the template at a path that gets to a fault behind its first character.
It is expected if the bytes that are no text have been found. -/
def DecodeFault.failure (fault : DecodeFault) (template : String) : Failure :=
  if fault.isLocated then .expected (.unreadable template (some fault.message))
  else .undecodable fault

/-- What a scan of the template at a path gathered, or why it did not come to its end. -/
def Scan.result (scan : Scan) (template : String) : Except Failure ScanState :=
  match scan.ending with
  | .complete => .ok scan.state
  | .broken fault => .error (.expected (.malformed (fault.within template)))
  | .unreadable fault => .error (fault.failure template)

namespace FileTree

/-- The source that a template file makes. -/
def readSource (t : FileTree) (settings : Settings) (template : String)
    (codecs : Codecs := .none) : Except Failure Source :=
  if holdsNull settings.sourceEncoding then .error .nullInEncoding
  else if holdsNull template then .error .nullInPath
  else
    match t.readFile template with
    | .error fault => .error (.expected (.unreadable template (some fault.message)))
    | .ok bytes =>
        match Encoding.ofName? settings.sourceEncoding codecs with
        | none => .error (.unknownEncoding settings.sourceEncoding)
        | some encoding => .ok (encoding.decode bytes)

/-- The scan of a template file.  Its first character is looked at before the scan begins. -/
def scanFile (t : FileTree) (settings : Settings) (template : String) (codecs : Codecs := .none) :
    FileRun ScanState :=
  let opening : Event := .scanning template
  match t.readSource settings template codecs with
  | .error failure => { result := .error failure, tree := t, events := [opening] }
  | .ok source =>
      match source.text, source.fault with
      | [], some fault => { result := .error (.undecodable fault), tree := t, events := [opening] }
      | _, _ =>
          let scan := (Registry.builtIn settings).scanSource template source
          { result := scan.result template, tree := t, events := opening :: scan.events }

/-- The bytes of a program in the encoding with a given name. -/
def encodeProgram (encodingName program : String) (codecs : Codecs := .none) :
    Except Failure Bytes :=
  if holdsNull encodingName then .error .nullInEncoding
  else
    match Encoding.ofName? encodingName codecs with
    | none => .error (.unknownEncoding encodingName)
    | some encoding =>
        match encoding.encode program.toList with
        | .error fault => .error (.unencodable fault)
        | .ok bytes => .ok bytes

/-- The path of the temporary file at a location, which is made for a program at a path. -/
def temporaryPath (l : Location) (program : Path) : String :=
  Path.toString ⟨max 1 program.slashes, l⟩

/-- Take away the temporary file at a location because of a failure.  If that is refused, the file
stays, and the failure is the refusal. -/
def withdraw (t : FileTree) (l : Location) (program : Path) (failure : Failure) : FileRun String :=
  match t.refused? .remove l.dropLast with
  | some fault => { result := .error (.inaccessible fault (temporaryPath l program)), tree := t }
  | none => { result := .error failure, tree := t.remove l }

/-- Write the program of a scan to a file, by way of a temporary file beside it. -/
def writeProgram (t : FileTree) (settings : Settings) (s : ScanState) (programPath : String)
    (codecs : Codecs := .none) : FileRun String :=
  let target := Path.ofString programPath
  let refused (fault : FileFault) : Failure :=
    .expected (.unwritable programPath (some fault.message))
  match s.program settings with
  | .error fault => { result := .error (.expected fault), tree := t }
  | .ok program =>
      if holdsNull programPath then { result := .error .nullInPath, tree := t }
      else
        match t.createTemporary target.parent target.name with
        | .error fault => { result := .error (refused fault), tree := t }
        | .ok (temporary, created) =>
            match encodeProgram settings.programEncoding program codecs with
            | .error failure => created.withdraw temporary target failure
            | .ok bytes =>
                match created.publish temporary bytes target with
                | .error (fault, failed) => failed.withdraw temporary target (refused fault)
                | .ok published =>
                    { result := .ok program, tree := published,
                      events := [.wrote program.length target.toString] }

/-- Transform a template file into a program file. -/
def transform (t : FileTree) (settings : Settings) (template programPath : String)
    (codecs : Codecs := .none) : FileRun Summary :=
  let scanned := t.scanFile settings template codecs
  match scanned.result with
  | .error failure => { result := .error failure, tree := t, events := scanned.events }
  | .ok s =>
      let written := t.writeProgram settings s programPath codecs
      { written with
        result := written.result.map fun _ =>
          { programFile := programPath, outputFile := s.outputPath, usings := s.usings,
            scriptFragments := s.script.length, classFragments := s.classFeature.length }
        events := scanned.events ++ written.events }

end FileTree

end Stencil
