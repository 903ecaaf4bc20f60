/-!
# Paths

A path names a file by the directories that lead to it.  Its normal form leaves out repeated
slashes, components that stand for the directory itself and a slash at the end; a component that
leads back to the parent directory stays, because it need not undo the one before it.

## Main definitions

* `splitSlashes` — the components of a path as it is written.
* `Path` — paths in normal form, with `Path.ofString` and `Path.toString`.
* `Path.parent`, `Path.name` — the directory of a path, and what the path is called there.
-/

namespace Stencil

/-- The pieces of a text between its slashes. -/
def splitSlashes : List Char → List (List Char)
  | [] => [[]]
  | c :: cs =>
      match c, splitSlashes cs with
      | '/', pieces => [] :: pieces
      | _, piece :: pieces => (c :: piece) :: pieces
      | _, [] => [[c]]

/-- The components of a path as it is written, empty ones included. -/
def writtenComponents (path : String) : List String :=
  (splitSlashes path.toList).map String.ofList

/-- A path in normal form. -/
structure Path where
  /-- How many slashes it begins with: none, one, or two, which are not the same as one. -/
  slashes : Nat
  /-- Its components, none of them empty or a single dot. -/
  components : List String
  deriving DecidableEq, Repr, Inhabited

namespace Path

/-- The root of all paths. -/
def root : Path := ⟨1, []⟩

/-- The normal form of a path.  More than two slashes at its front count as one. -/
def ofString (path : String) : Path where
  slashes :=
    match (path.toList.takeWhile (· == '/')).length with
    | 0 => 0
    | 2 => 2
    | _ => 1
  components := (writtenComponents path).filter fun c => c != "" && c != "."

/-- A path as it is written. -/
protected def toString (p : Path) : String :=
  if p.slashes = 0 && p.components.isEmpty then "."
  else String.ofList (List.replicate p.slashes '/') ++ "/".intercalate p.components

/-- What a path is called in its directory; nothing for a root or for the directory itself. -/
def name (p : Path) : String := p.components.getLast?.getD ""

/-- The directory that a path is in. -/
def parent (p : Path) : Path := { p with components := p.components.dropLast }

/-- A path ends in a name if it does not lead to the directory itself, to its parent, or to the
root. -/
def endsInName (p : Path) : Bool :=
  match p.components.getLast? with
  | none => false
  | some c => c != ".."

end Path

end Stencil
