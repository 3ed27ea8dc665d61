/-
This file is a small library for paths as a file system resolves them: name by
name from the root or from the working directory, where an empty name and the
name of the directory itself lead nowhere else, and the name of the parent takes
back the name before it. Two texts that resolve alike are names of one file; the
library knows no links.

An entry is a name that leads to something in its directory. Below one directory,
different entries are different places.
-/

import Mathlib.Data.List.Basic

namespace Paths

variable {Item : Type} [DecidableEq Item]

/-- How paths are written: with a separator between the names, and a dot for the directory
itself. Two dots stand for its parent. -/
structure Style (Item : Type) where
  separator : Item
  dot : Item

/-- Where a path leads: the names on the way, the last one first, from the root or from the
working directory. -/
structure Location (Item : Type) where
  rooted : Bool
  names : List (List Item)
  deriving DecidableEq, Repr

/-- A place in a directory. -/
def Location.child (place : Location Item) (name : List Item) : Location Item :=
  { place with names := name :: place.names }

/-- The parent of a place. The root is its own parent, and above the working directory the way
up is part of the place. -/
def Style.parent (style : Style Item) (place : Location Item) : Location Item :=
  match place.names with
  | [] => if place.rooted then place else place.child [style.dot, style.dot]
  | last :: before =>
    if last = [style.dot, style.dot] then place.child last else { place with names := before }

/-- Follow one name from a place. -/
def Style.enter (style : Style Item) (place : Location Item) (name : List Item) : Location Item :=
  if name = [] ∨ name = [style.dot] then place
  else if name = [style.dot, style.dot] then style.parent place
  else place.child name

/-- Where a path starts. -/
def Style.origin (style : Style Item) (path : List Item) : Location Item where
  rooted := path.head? = some style.separator
  names := []

/-- The place a path leads to. -/
def Style.resolve (style : Style Item) (path : List Item) : Location Item :=
  (path.splitOn style.separator).foldl style.enter (style.origin path)

/-- The place of a directory, whose path may end in a separator. -/
def Style.directory (style : Style Item) (path : List Item) : Location Item :=
  (path.splitOn style.separator).foldl style.enter (style.origin (path ++ [style.separator]))

/-- A name that leads to something in its directory. -/
structure Style.Entry (style : Style Item) (name : List Item) : Prop where
  nonempty : name ≠ []
  oneName : style.separator ∉ name
  notSelf : name ≠ [style.dot]
  notParent : name ≠ [style.dot, style.dot]

variable {style : Style Item}

omit [DecidableEq Item] in
theorem child_inj {place : Location Item} {first second : List Item} :
    place.child first = place.child second ↔ first = second := by
  simp [Location.child]

theorem Style.Entry.enter {name : List Item} (entry : style.Entry name) (place : Location Item) :
    style.enter place name = place.child name := by
  rw [Style.enter, if_neg (not_or.mpr ⟨entry.nonempty, entry.notSelf⟩), if_neg entry.notParent]

/-- An entry leads to a place in its directory. -/
theorem Style.Entry.resolve {name : List Item} (entry : style.Entry name) (path : List Item) :
    style.resolve (path ++ style.separator :: name) = (style.directory path).child name := by
  have origin : style.origin (path ++ style.separator :: name) =
      style.origin (path ++ [style.separator]) := by
    cases path <;> rfl
  rw [Style.resolve, Style.directory, List.splitOn_append_cons_self,
    List.splitOn_eq_singleton entry.oneName, List.foldl_concat, origin, entry.enter]

/-- Different entries of a directory are different places. -/
theorem Style.Entry.resolve_inj {first second : List Item} (entry : style.Entry first)
    (other : style.Entry second) {path : List Item} :
    style.resolve (path ++ style.separator :: first) =
      style.resolve (path ++ style.separator :: second) ↔ first = second := by
  rw [entry.resolve, other.resolve, child_inj]

end Paths
