import Stencil.Encoding.Utf8
import Stencil.Files.Path
import Stencil.KeyedList

/-!
# Trees of files

A tree of files holds directories and files with their bytes.  A path is followed component by
component, from the root or from the working directory; every component but the last must lead to a
directory.  Whatever is attempted, the operating system may refuse it at some locations; the tree
says where, and why.  Paths and names are texts of whole characters, and a file that is opened can
be read to its end.

## Main definitions

* `Refusal`, `Attempt` — what is refused, and what it is refused to.
* `FileTree` — the tree, by locations.
* `FileTree.locate` — where a path leads.
* `FileTree.readFile`, `FileTree.isFile`, `FileTree.isDirectory` — looking at what is there.
* `FileTree.createTemporary`, `FileTree.publish` — making a new file, and putting it in the place of
  another.
* `FileTree.changes` — what differs between two trees.

## Main results

* `FileTree.find?_put`, `FileTree.refused?_allowReading` — an operation concerns one location only.
* `FileTree.remove_put` — taking away what was added leaves the tree as it was.
-/

namespace Stencil

/-- The components that lead from the root to a place. -/
abbrev Location := List String

/-- What is at a location. -/
inductive Entry where
  /-- A file with its bytes. -/
  | file (bytes : Bytes)
  /-- A directory. -/
  | directory
  deriving DecidableEq, Repr, Inhabited

/-- Why the operating system refuses an operation on files: because of rights, for want of space,
and so on.  A refusal does not tell that nothing is there; that is for the tree to say. -/
structure Refusal where
  /-- The number that the operating system gives it. -/
  number : Nat
  /-- Its wording. -/
  message : String
  /-- It is none of the numbers that tell that there is nothing. -/
  number_not_absent : number ∉ [2, 9, 20, 40]
  deriving DecidableEq, Repr

instance : Inhabited Refusal := ⟨⟨13, "Permission denied", by decide⟩⟩

/-- Why an operation on files fails. -/
inductive FileFault where
  /-- Nothing is there. -/
  | notFound
  /-- A directory is there. -/
  | isDirectory
  /-- A file is where a directory should be. -/
  | notDirectory
  /-- A component or the path as a whole is too long. -/
  | nameTooLong
  /-- The path leads to a place that cannot be replaced. -/
  | busy
  /-- Something is there already. -/
  | alreadyThere
  /-- The operating system refuses. -/
  | refused (refusal : Refusal)
  deriving DecidableEq, Repr, Inhabited

namespace FileFault

/-- The wording of a fault. -/
def message : FileFault → String
  | notFound => "No such file or directory"
  | isDirectory => "Is a directory"
  | notDirectory => "Not a directory"
  | nameTooLong => "File name too long"
  | busy => "Device or resource busy"
  | alreadyThere => "File exists"
  | refused refusal => refusal.message

/-- The number that the operating system gives a fault. -/
def number : FileFault → Nat
  | notFound => 2
  | isDirectory => 21
  | notDirectory => 20
  | nameTooLong => 36
  | busy => 16
  | alreadyThere => 17
  | refused refusal => refusal.number

end FileFault

/-- Where a path leads. -/
inductive Place where
  /-- To a directory. -/
  | directory (location : Location)
  /-- To a file. -/
  | file (location : Location) (bytes : Bytes)
  /-- To a name that is free in a directory. -/
  | free (directory : Location) (name : String)
  deriving DecidableEq, Repr, Inhabited

/-- The location of a place. -/
def Place.location : Place → Location
  | directory l => l
  | file l _ => l
  | free d name => d ++ [name]

/-- What may be refused at a location. -/
inductive Attempt where
  /-- To look something up in a directory. -/
  | search
  /-- To open a file or a directory. -/
  | read
  /-- To make a file in a directory. -/
  | create
  /-- To fill a new file in a directory. -/
  | write
  /-- To move a file to a name in a directory. -/
  | replace
  /-- To take a file away from a directory. -/
  | remove
  deriving DecidableEq, Repr, Inhabited

/-- Directories and files by location. -/
structure FileTree where
  /-- Where paths start that do not start at the root. -/
  workingDirectory : Location
  /-- What is at which location; the root is always there. -/
  entries : List (Location × Entry)
  /-- What is refused at which location. -/
  refusals : List ((Attempt × Location) × Refusal) := []
  deriving DecidableEq, Repr, Inhabited

namespace FileTree

/-- What is at a location. -/
def find? (t : FileTree) (l : Location) : Option Entry :=
  if l = [] then some .directory else t.entries.lookup l

/-- Why something is refused at a location; nothing if it is not. -/
def refused? (t : FileTree) (attempt : Attempt) (l : Location) : Option FileFault :=
  (t.refusals.lookup (attempt, l)).map .refused

/-- Put something at a location, in the place of what is there. -/
def put (t : FileTree) (l : Location) (entry : Entry) : FileTree :=
  { t with entries := (l, entry) :: without l t.entries }

/-- Take away what is at a location. -/
def remove (t : FileTree) (l : Location) : FileTree :=
  { t with entries := without l t.entries }

/-- Let the file at a location be read. -/
def allowReading (t : FileTree) (l : Location) : FileTree :=
  { t with refusals := without (.read, l) t.refusals }

theorem find?_put {l : Location} (hl : l ≠ []) (t : FileTree) (entry : Entry) (m : Location) :
    (t.put l entry).find? m = if m = l then some entry else t.find? m := by
  simp only [find?, put, List.lookup_cons]
  by_cases hm : m = l
  · subst hm; simp [hl]
  · rw [beq_false_of_ne hm, lookup_without]; simp [hm]

@[simp] theorem refused?_put (t : FileTree) (l : Location) (entry : Entry) (attempt : Attempt)
    (m : Location) : (t.put l entry).refused? attempt m = t.refused? attempt m := rfl

@[simp] theorem find?_allowReading (t : FileTree) (l m : Location) :
    (t.allowReading l).find? m = t.find? m := rfl

theorem refused?_allowReading (t : FileTree) (l : Location) (attempt : Attempt) (m : Location) :
    (t.allowReading l).refused? attempt m =
      if (attempt, m) = (.read, l) then none else t.refused? attempt m := by
  rw [refused?, allowReading, lookup_without]
  split <;> rfl

/-- Taking away what was added leaves the tree as it was. -/
theorem remove_put {t : FileTree} {l : Location} (hl : l ≠ []) (entry : Entry)
    (h : t.find? l = none) : (t.put l entry).remove l = t := by
  rw [find?, if_neg hl] at h
  obtain ⟨workingDirectory, entries, refusals⟩ := t
  simp only [put, remove, without_cons_self, FileTree.mk.injEq, true_and, and_true]
  -- the entry is gone, and nothing else was under that location
  rw [without_eq_self (by rw [without_eq_self h]; exact h), without_eq_self h]

/-! ### Following paths -/

/-- The longest component of a path in bytes. -/
def maxNameSize : Nat := 255

/-- The longest path in bytes. -/
def maxPathSize : Nat := 4095

/-- Where components lead from a directory.  Each of them is looked up in the directory that those
before it lead to, even if it leads to that directory itself. -/
def walk (t : FileTree) : Location → List String → Except FileFault Place
  | here, [] => .ok (.directory here)
  | here, c :: rest =>
      if c = "" then t.walk here rest
      else
        match t.refused? .search here with
        | some fault => .error fault
        | none =>
            if c = "." then t.walk here rest
            else if c = ".." then t.walk here.dropLast rest
            else if c.utf8ByteSize > maxNameSize then .error .nameTooLong
            else
              match t.find? (here ++ [c]), rest with
              | some .directory, rest => t.walk (here ++ [c]) rest
              | some (.file bytes), [] => .ok (.file (here ++ [c]) bytes)
              | some (.file _), _ :: _ => .error .notDirectory
              | none, [] => .ok (.free here c)
              | none, _ :: _ => .error .notFound

/-- Where a path leads. -/
def locate (t : FileTree) (path : String) : Except FileFault Place :=
  if path.isEmpty then .error .notFound
  else if path.utf8ByteSize > maxPathSize then .error .nameTooLong
  else
    t.walk (if path.toList.head? = some '/' then [] else t.workingDirectory)
      (writtenComponents path)

/-! ### Looking at files -/

/-- The bytes of the file that a path leads to. -/
def readFile (t : FileTree) (path : String) : Except FileFault Bytes :=
  match t.locate path with
  | .error fault => .error fault
  | .ok place =>
      match t.refused? .read place.location, place with
      | some fault, _ => .error fault
      | none, .file _ bytes => .ok bytes
      | none, .directory _ => .error .isDirectory
      | none, .free _ _ => .error .notFound

/-- What a path leads to meets a condition; what is not there meets none. -/
def holds (t : FileTree) (condition : Place → Bool) (path : String) : Except FileFault Bool :=
  if path.toList.contains '\x00' then .ok false
  else
    match t.locate path with
    | .ok place => .ok (condition place)
    | .error .notFound | .error .notDirectory => .ok false
    | .error fault => .error fault

/-- Whether a path leads to a file. -/
def isFile (t : FileTree) : String → Except FileFault Bool :=
  t.holds fun
    | .file _ _ => true
    | _ => false

/-- Whether a path leads to a directory. -/
def isDirectory (t : FileTree) : String → Except FileFault Bool :=
  t.holds fun
    | .directory _ => true
    | _ => false

/-! ### Making files -/

/-- The name of a temporary file for `name`: hidden, and told from others by a number. -/
def temporaryName (name : String) (n : Nat) : String :=
  "." ++ name ++ "." ++ String.ofList ((Nat.toDigits 10 n).leftpad 8 '0') ++ ".tmp"

/-- The location that components name from a directory.  A component that leads back undoes the one
before it, whether or not anything is there. -/
def resolve : Location → List String → Location
  | here, [] => here
  | here, c :: rest => resolve (if c = ".." then here.dropLast else here ++ [c]) rest

/-- The location of the directory that a path names. -/
def directoryOf (t : FileTree) (directory : Path) : Location :=
  resolve (if directory.slashes = 0 then t.workingDirectory else []) directory.components

/-- Make an empty temporary file for `name` in a directory, under the first name that is free.  The
directory is resolved by its name alone. -/
def createTemporary (t : FileTree) (directory : Path) (name : String) :
    Except FileFault (Location × FileTree) :=
  let here := t.directoryOf directory
  let first := temporaryName name 0
  match t.locate (Path.toString ⟨1, here ++ [first]⟩) with
  | .error fault => .error fault
  | .ok _ =>
      match t.refused? .create here with
      | some fault => .error fault
      | none =>
          let names := (List.range (t.entries.length + 1)).map (temporaryName name)
          match names.find? fun n => t.find? (here ++ [n]) = none with
          | none => .error .alreadyThere
          | some n => .ok (here ++ [n], t.put (here ++ [n]) (.file []))

/-- Move a file with these bytes over what a path leads to, which may be a file or nothing.  It may
be read there, even if the file that was there might not. -/
def moveOver (t : FileTree) (l : Location) (bytes : Bytes) (path : Path) :
    Except FileFault FileTree :=
  match t.locate path.parent.toString with
  | .error fault => .error fault
  | .ok (.file _ _) => .error .notDirectory
  | .ok (.free _ _) => .error .notFound
  | .ok (.directory d) =>
      if !path.endsInName then .error .busy
      else
        match t.locate path.toString with
        | .error fault => .error fault
        | .ok place =>
            match t.refused? .replace d, place with
            | some fault, _ => .error fault
            | none, .directory _ => .error .isDirectory
            | none, place =>
                let target := place.location
                .ok (((t.remove l).put target (.file bytes)).allowReading target)

/-- Fill a new file with bytes and move it over what a path leads to.  If that fails, there is the
tree with the new file in it. -/
def publish (t : FileTree) (l : Location) (bytes : Bytes) (path : Path) :
    Except (FileFault × FileTree) FileTree :=
  match t.refused? .write l.dropLast with
  | some fault => .error (fault, t)
  | none =>
      let filled := t.put l (.file bytes)
      (filled.moveOver l bytes path).mapError fun fault => (fault, filled)

/-- Make the directories that components lead through from a directory. -/
def makeDirectoriesFrom (t : FileTree) (here : Location) : List String → FileTree
  | [] => t
  | c :: rest =>
      if c = "" ∨ c = "." then t.makeDirectoriesFrom here rest
      else if c = ".." then t.makeDirectoriesFrom here.dropLast rest
      else
        let t := match t.find? (here ++ [c]) with
          | some _ => t
          | none => t.put (here ++ [c]) .directory
        t.makeDirectoriesFrom (here ++ [c]) rest

/-- Make the directories that a path leads through. -/
def makeDirectories (t : FileTree) (path : String) : FileTree :=
  t.makeDirectoriesFrom (if path.toList.head? = some '/' then [] else t.workingDirectory)
    (writtenComponents path)

/-- Write a file, making the directories that lead to it; a directory stays what it is. -/
def writeFile (t : FileTree) (path : String) (bytes : Bytes) : FileTree :=
  let t := t.makeDirectories (Path.ofString path).parent.toString
  match t.locate path with
  | .ok (.file l _) => t.put l (.file bytes)
  | .ok (.free here name) => t.put (here ++ [name]) (.file bytes)
  | _ => t

/-- Delete the file that a path leads to. -/
def deleteFile (t : FileTree) (path : String) : FileTree :=
  match t.locate path with
  | .ok (.file l _) => t.remove l
  | _ => t

/-! ### Comparing trees -/

/-- The files below a location, by their paths from there. -/
def filesBelow (t : FileTree) (l : Location) : List (String × Bytes) :=
  t.entries.filterMap fun (place, entry) =>
    match entry with
    | .directory => none
    | .file bytes =>
        if l.isPrefixOf place then some ("/".intercalate (place.drop l.length), bytes) else none

/-- What differs between two trees. -/
structure Changes where
  /-- The files that are new or have other bytes, by path. -/
  written : List (String × Bytes)
  /-- The paths of the files that are gone. -/
  deleted : List String
  deriving DecidableEq, Repr, Inhabited

/-- What differs below a location between this tree and a later one, in the order of paths. -/
def changes (before after : FileTree) (l : Location) : Changes :=
  let old := before.filesBelow l
  let new := after.filesBelow l
  { written :=
      (new.filter fun file => old.lookup file.1 != some file.2).mergeSort
        fun a b => decide (a.1 ≤ b.1)
    deleted :=
      ((old.map (·.1)).filter fun path => (new.lookup path).isNone).mergeSort
        fun a b => decide (a ≤ b) }

end FileTree

end Stencil
