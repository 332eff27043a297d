import MarcLens.Catalogue.Load

/-!
# Catalogues with their directory

A catalogue is kept together with the directory that it is loaded from. The files of the directory
may be written and deleted at any time; the catalogue only changes when loading is tried again.
-/

namespace MarcLens

/-- A catalogue with the directory that it is loaded from. -/
structure Store where
  directory : Directory
  catalogue : Catalogue := {}
deriving Repr

namespace Store

/-- What can happen to a store. -/
inductive Event where
  /-- A file is written, with the given text. -/
  | write (name text : String)
  | delete (name : String)
  /-- Loading is tried. -/
  | load
deriving DecidableEq, Repr

/-- The store after an event, with the log of it. -/
def step (s : Store) : Event → Store × List LogEntry
  | .write name text => ({ s with directory := s.directory.put name text }, [])
  | .delete name => ({ s with directory := s.directory.erase name }, [])
  | .load =>
    let (catalogue, log) := s.catalogue.load s.directory
    ({ s with catalogue := catalogue }, log)

/-- The store after one event after the other. -/
def run (s : Store) (events : List Event) : Store := events.foldl (fun s e => (s.step e).1) s

/-- A new store for a directory, with the log. Loading is tried at once. -/
def opened (d : Directory) : Store × List LogEntry := step { directory := d } .load

end Store

end MarcLens
