import PatchReview.Toml.Fault
import PatchReview.Value

/-! The tables of a TOML document while it is read.

A path leads from the root through tables; at a list it goes on in the last item. Tables
that were opened by a header must not be opened again, and neither must tables that a dotted
key made, once the next header has come. What is written in one piece, an inline table or
an array, stays closed for good. -/
namespace PatchReview.Toml

abbrev Path := List String

/-- A list with its last item changed. -/
def changeLast (f : Value → Option Value) : List Value → Option (List Value)
  | [] => none
  | [v] => (f v).map fun v => [v]
  | v :: rest => (changeLast f rest).map (v :: ·)

/-- Changes the table at a path; tables on the way are made if they are missing. `throughLists`
says whether the path may go through lists. -/
def changeAt (throughLists : Bool) (f : Entries → Option Entries) : Path → Entries → Option Entries
  | [], entries => f entries
  | key :: path, entries =>
    let changeTable (v : Value) : Option Value :=
      match v with
      | .table inner => (changeAt throughLists f path inner).map Value.table
      | _ => none
    match entries.get? key with
    | none => (changeAt throughLists f path []).map fun inner => entries.put key (.table inner)
    | some (.list items) =>
      if throughLists then
        (changeLast changeTable items).map fun items => entries.put key (.list items)
      else none
    | some v => (changeTable v).map fun v => entries.put key v

/-- A table with one more key. -/
def addKey (key : String) (v : Value) (entries : Entries) : Option Entries :=
  match entries.get? key with
  | some _ => none
  | none => some (entries.put key v)

/-- A table with one more empty table in the list at a key. -/
def addItem (key : String) (entries : Entries) : Option Entries :=
  match entries.get? key with
  | none => some (entries.put key (.list [.table []]))
  | some (.list items) => some (entries.put key (.list (items ++ [.table []])))
  | some _ => none

/-- A document as far as it has been read. -/
structure Document where
  entries : Entries
  /-- Tables that must not be opened again. -/
  opened : List Path
  /-- Tables that must not be opened any more once the next header has come. -/
  pending : List Path
  /-- What stays as it is, with everything below. -/
  frozen : List Path
  /-- The table that keys are put into. -/
  header : Path

def Document.empty : Document := ⟨[], [], [], [], []⟩

/-- Whether something at or above a path stays as it is. -/
def isFrozen (frozen : List Path) (path : Path) : Bool :=
  frozen.any fun p => !p.isEmpty && p.isPrefixOf path

namespace Document

/-- The document at the next header. -/
def settle (d : Document) : Document := { d with opened := d.opened ++ d.pending, pending := [] }

/-- Opens the table of a header. -/
def openTable (d : Document) (path : Path) : Except Fault Document :=
  if d.opened.contains path || isFrozen d.frozen path then .error .redefinition
  else
    match changeAt true some path d.entries with
    | none => .error .redefinition
    | some entries =>
      .ok { d with entries := entries, opened := d.opened ++ [path], header := path }

/-- Opens the next table in the list of a header. -/
def openItem (d : Document) (path : Path) : Except Fault Document :=
  if isFrozen d.frozen path then .error .redefinition
  else
    match changeAt true (addItem (path.getLast?.getD "")) path.dropLast d.entries with
    | none => .error .redefinition
    | some entries =>
      let outside := fun p => !path.isPrefixOf p
      .ok
        { d with
          entries := entries
          opened := d.opened.filter outside ++ [path]
          frozen := d.frozen.filter outside
          header := path }

/-- The proper, non-empty beginnings of a key. -/
def beginnings (key : Path) : List Path :=
  ((List.range key.length).map fun n => key.take n).filter (!·.isEmpty)

/-- Gives a key its value in the open table. -/
def assign (d : Document) (key : Path) (v : Value) : Except Fault Document :=
  let tables := (beginnings key).map (d.header ++ ·)
  let parent := d.header ++ key.dropLast
  if tables.any d.opened.contains || isFrozen d.frozen parent then .error .redefinition
  else
    match changeAt true (addKey (key.getLast?.getD "") v) parent d.entries with
    | none => .error .redefinition
    | some entries =>
      let whole := match v with | .table _ | .list _ => [d.header ++ key] | _ => []
      .ok
        { d with
          entries := entries
          pending := d.pending ++ tables
          frozen := d.frozen ++ whole }

end Document

end PatchReview.Toml
