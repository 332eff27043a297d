import MarcLens.Harvest.Estimate
import MarcLens.Harvest.Source
import MarcLens.Json.Shown
import MarcLens.Log
import MarcLens.Text.Case

/-!
# Gathering documentation

Tags are looked up one after the other. A tag that is not found, or whose look-up fails, is noted
and does not keep the others from being gathered.

## Main definitions

- `Harvest.Gathered`: what has been gathered so far
- `Harvest.gather`: gathering a list of tags
-/

namespace MarcLens.Harvest

/-- What has been gathered so far: the tags found, how many look-ups succeeded, the tags that could
    not be gathered, the log, and the pauses in seconds. -/
structure Gathered where
  tags : Table TagInfo := []
  succeeded : Nat := 0
  failed : List String := []
  log : List LogEntry := []
  pauses : List Nat := []
deriving Repr

namespace Gathered

/-- Notes what looking up a tag gave. There is no pause after a look-up that failed. -/
def note (g : Gathered) (tag : String) : Finding → Gathered
  | .found info =>
    { g with
      tags := g.tags.put tag info
      succeeded := g.succeeded + 1
      log := g.log ++ [.info ("✓ Successfully extracted " ++ tag ++ ": " ++
        info.definition.name.shown)]
      pauses := g.pauses ++ [pauseSeconds] }
  | .missing =>
    { g with
      failed := g.failed ++ [tag]
      log := g.log ++ [.warning ("✗ Failed to extract tag " ++ tag)]
      pauses := g.pauses ++ [pauseSeconds] }
  | .failed reason =>
    { g with
      failed := g.failed ++ [tag]
      log := g.log ++ [.error ("✗ Error processing tag " ++ tag ++ ": " ++ reason)] }

/-- Looks up the tag at an index of the list of all tags. The leader is no numbered tag and is left
    out. -/
def visit (lookup : Lookup) (category : String) (total : Nat) (g : Gathered)
    (entry : String × Nat) : Gathered :=
  let (tag, index) := entry
  if tag = "LDR" then g
  else
    let progress := "Processing " ++ category ++ " tag " ++ tag ++
      " (" ++ (index + 1).repr ++ "/" ++ total.repr ++ ")"
    let g := { g with log := g.log ++ [LogEntry.info progress] }
    g.note tag (lookup tag)

/-- The end of the log: how many tags were gathered, and the first ten that were not. -/
def summary (g : Gathered) (category : String) : List LogEntry :=
  let label := String.ofList (Text.title category.toList)
  let counts := label ++ " extraction complete: " ++ g.succeeded.repr ++ " successful, " ++
    g.failed.length.repr ++ " failed"
  [.info counts] ++
    (if g.failed.isEmpty then []
      else [.info ("Failed tags: " ++ ", ".intercalate (g.failed.take 10))]) ++
    (if 10 < g.failed.length then
      [.info ("... and " ++ (g.failed.length - 10).repr ++ " more")]
      else [])

end Gathered

/-- Gathers the documentation of a list of tags. -/
def gather (lookup : Lookup) (tags : List String) (category : String) : Gathered :=
  let total := tags.length
  let start : Gathered :=
    { log :=
        [.info ("Extracting " ++ category ++ " tags: " ++ total.repr ++ " tags to process"),
         .info ("Estimated time: " ++ estimatedMinutes total ++
           " minutes (respecting 10 req/min limit)")] }
  let g := tags.zipIdx.foldl (Gathered.visit lookup category total) start
  { g with log := g.log ++ g.summary category }

end MarcLens.Harvest
