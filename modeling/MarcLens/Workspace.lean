import MarcLens.Hover.Basic
import MarcLens.Log

/-!
# Workspaces

The documents that an editor has open, and the documentation that hovers draw on. Whenever a
document is opened or changed its diagnostics are published. A session is a run of such events, each
of which gets a reply.
-/

namespace MarcLens

structure Workspace where
  documents : Table Text := []
  catalogue : Catalogue
deriving Repr

namespace Workspace

/-- What is published after an event: the diagnostics of one document, and a log of the event. -/
structure Publication where
  log : List LogEntry
  uri : String
  diagnostics : List Diagnostic
deriving Repr

/-- Takes over the text of a document, and publishes under a log entry with the given words. -/
def update (w : Workspace) (event uri : String) (text : Text) : Workspace × Publication :=
  ({ w with documents := w.documents.put uri text },
    ⟨[.info (event ++ ": " ++ uri)], uri, Diagnostic.ofDocument text⟩)

/-- A document was opened. -/
def didOpen (w : Workspace) (uri : String) (text : Text) : Workspace × Publication :=
  w.update "Document opened" uri text

/-- A document was changed. -/
def didChange (w : Workspace) (uri : String) (text : Text) : Workspace × Publication :=
  w.update "Document changed" uri text

/-- The hover for a place of an open document. -/
def hover? (w : Workspace) (uri : String) (place : Place) : Except Fault (Option Hover) :=
  match w.documents.get? uri with
  | none => .ok none
  | some document => Hover.at? w.catalogue document place

/-- What can happen in a workspace. -/
inductive Event where
  | opened (uri : String) (text : Text)
  | changed (uri : String) (text : Text)
  /-- The cursor rests on a place of a document. -/
  | hover (uri : String) (place : Place)
  /-- Other documentation is taken over. -/
  | documented (catalogue : Catalogue)
deriving Repr

/-- What an event is answered with. -/
inductive Reply where
  | published (publication : Publication)
  | answered (answer : Except Fault (Option Hover))
  | nothing
deriving Repr

/-- The workspace after an event, with the reply to it. -/
def step (w : Workspace) : Event → Workspace × Reply
  | .opened uri text =>
    let (w, publication) := w.didOpen uri text
    (w, .published publication)
  | .changed uri text =>
    let (w, publication) := w.didChange uri text
    (w, .published publication)
  | .hover uri place => (w, .answered (w.hover? uri place))
  | .documented catalogue => ({ w with catalogue := catalogue }, .nothing)

/-- The workspace after one event after the other. -/
def run (w : Workspace) (events : List Event) : Workspace :=
  events.foldl (fun w e => (w.step e).1) w

/-- Events, each with the reply to it. -/
def session (w : Workspace) : List Event → List (Event × Reply)
  | [] => []
  | e :: events => (e, (w.step e).2) :: (w.step e).1.session events

end Workspace

end MarcLens
