import Stencil.Files.FileTree

/-!
# Where paths lead

A path leads through directories to a directory, to a file, or to a free name.  The way depends on
the directories of a tree alone and on which of them may be searched, so a path still leads to the
same location when files come and go, and to a file there once one has been put there.

## Main definitions

* `FileTree.Holds` — what a place tells of is in a tree.

## Main results

* `FileTree.holds_of_locate` — a path leads to what is in the tree.
* `FileTree.locate_of_directories` — a path leads to a file that has been put where it led before.
-/

namespace Stencil

namespace FileTree

/-- What is at a place in a tree: the file it tells of, or nothing where it tells of a free name. -/
def Holds (t : FileTree) : Place → Prop
  | .directory _ => True
  | .file l bytes => l ≠ [] ∧ t.find? l = some (.file bytes)
  | .free d name => t.find? (d ++ [name]) = none

/-- Components lead to what is in the tree. -/
theorem holds_of_walk {t : FileTree} {here : Location} {cs : List String} {place : Place}
    (h : t.walk here cs = .ok place) : t.Holds place := by
  fun_induction walk t here cs with
  | case1 here =>
    cases h
    trivial
  | case2 here rest ih => exact ih h
  | case3 here c rest hc fault hrefused => cases h
  | case4 here rest hsearch hc ih => exact ih h
  | case5 here rest hsearch hc hdot ih => exact ih h
  | case6 here c rest hc hsearch hdot hup hlong => cases h
  | case7 here c hc hsearch hdot hup hlong rest hfind ih => exact ih h
  | case8 here c hc hsearch hdot hup hlong bytes hfind =>
    cases h
    exact ⟨by simp, hfind⟩
  | case9 => cases h
  | case10 here c hc hsearch hdot hup hlong hfind =>
    cases h
    exact hfind
  | case11 => cases h

theorem holds_of_locate {t : FileTree} {path : String} {place : Place}
    (h : t.locate path = .ok place) : t.Holds place := by
  unfold locate at h
  split at h
  · cases h
  split at h
  · cases h
  · exact holds_of_walk h

/-- Where a path leads, unless that is a directory, is below the root and no directory. -/
theorem location_of_holds {t : FileTree} {place : Place} (h : t.Holds place)
    (hplace : ∀ l, place ≠ .directory l) :
    place.location ≠ [] ∧ t.find? place.location ≠ some .directory := by
  cases place with
  | directory l => exact absurd rfl (hplace l)
  | file l bytes =>
    refine ⟨h.1, fun hdirectory => ?_⟩
    rw [Place.location, h.2] at hdirectory
    cases hdirectory
  | free d name =>
    have hnone : t.find? (d ++ [name]) = none := h
    refine ⟨by simp [Place.location], fun hdirectory => ?_⟩
    rw [Place.location, hnone] at hdirectory
    cases hdirectory

section Directories

variable {t t' : FileTree} {place : Place} {bytes : Bytes}

/-- Components lead through the same directories in a tree that has them, and to a file that has
been put where they led. -/
theorem walk_of_directories {here : Location} {cs : List String}
    (hdirectories : ∀ l, t.find? l = some .directory → t'.find? l = some .directory)
    (hsearch : ∀ l, t'.refused? .search l = t.refused? .search l)
    (hfile : t'.find? place.location = some (.file bytes)) (hplace : ∀ l, place ≠ .directory l)
    (h : t.walk here cs = .ok place) : t'.walk here cs = .ok (.file place.location bytes) := by
  fun_induction walk t here cs with
  | case1 here =>
    cases h
    exact absurd rfl (hplace here)
  | case2 here rest ih =>
    rw [walk.eq_def]
    simpa using ih h
  | case3 here c rest hc fault hrefused => cases h
  | case4 here rest hnone hc ih =>
    rw [walk.eq_def]
    simpa [hsearch, hnone] using ih h
  | case5 here rest hnone hc hdot ih =>
    rw [walk.eq_def]
    simpa [hsearch, hnone] using ih h
  | case6 here c rest hc hnone hdot hup hlong => cases h
  | case7 here c hc hnone hdot hup hlong rest hfind ih =>
    simpa [walk, hsearch, hnone, hc, hdot, hup, hlong, hdirectories _ hfind] using ih h
  | case8 here c hc hnone hdot hup hlong bytes' hfind =>
    cases h
    rw [Place.location] at hfile ⊢
    simp [walk, hsearch, hnone, hc, hdot, hup, hlong, hfile]
  | case9 => cases h
  | case10 here c hc hnone hdot hup hlong hfind =>
    cases h
    rw [Place.location] at hfile ⊢
    simp [walk, hsearch, hnone, hc, hdot, hup, hlong, hfile]
  | case11 => cases h

/-- A path leads to a file that has been put where it led before, as long as no directory has gone
and none is refused that was not before. -/
theorem locate_of_directories {path : String}
    (hdirectories : ∀ l, t.find? l = some .directory → t'.find? l = some .directory)
    (hsearch : ∀ l, t'.refused? .search l = t.refused? .search l)
    (hworking : t'.workingDirectory = t.workingDirectory)
    (hfile : t'.find? place.location = some (.file bytes)) (hplace : ∀ l, place ≠ .directory l)
    (h : t.locate path = .ok place) : t'.locate path = .ok (.file place.location bytes) := by
  unfold locate at h ⊢
  split at h
  · cases h
  · next hnonempty =>
    split at h
    · cases h
    · next hshort =>
      rw [if_neg hnonempty, if_neg hshort, hworking]
      exact walk_of_directories hdirectories hsearch hfile hplace h

end Directories

end FileTree

end Stencil
