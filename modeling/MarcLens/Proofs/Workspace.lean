import MarcLens.Proofs.Hover.Answer
import MarcLens.Workspace

/-!
# Sessions

An event gives a text to one document, or exchanges the documentation, or changes nothing. So at
every point of a session each document has the text that it was last given, and hovers and
diagnostics are those of this text. What happens to other documents makes no difference.

## Main definitions

- `Workspace.Event.text?`: the text that an event gives to a document
- `Workspace.Event.concerns`: an event that is about a document
- `Workspace.last?`: the last thing that can be found in a list
- `Workspace.AgreeOn`: two workspaces that are the same for one document

## Main statements

- `Workspace.get?_documents_run`, `Workspace.catalogue_run`: what a workspace has after a run
- `Workspace.hover?_run_of_text?`, `Workspace.session_hover`: a hover is answered for the text that
  its document was last given
- `Workspace.last?_diagnostics?_session`: what was last published about a document fits its text
- `Workspace.filter_session`: the replies about a document are those of a session with it alone
- `Workspace.hovers_answered`: no hover of a session fails, if the documentation is as expected
-/

namespace MarcLens.Workspace

namespace Event

/-- The text that an event gives to a document. -/
def text? (uri : String) : Event → Option Text
  | .opened name text => if uri = name then some text else none
  | .changed name text => if uri = name then some text else none
  | .hover _ _ => none
  | .documented _ => none

/-- The documentation that an event brings. -/
def catalogue? : Event → Option Catalogue
  | .documented catalogue => some catalogue
  | _ => none

/-- An event that is about a document, or about the documentation that all documents share. -/
def concerns (uri : String) : Event → Bool
  | .opened name _ => uri = name
  | .changed name _ => uri = name
  | .hover name _ => uri = name
  | .documented _ => true

end Event

/-- The diagnostics that a reply publishes about a document. -/
def Reply.diagnostics? (uri : String) : Reply → Option (List Diagnostic)
  | .published p => if uri = p.uri then some p.diagnostics else none
  | _ => none

/-- The last thing that can be found in a list. -/
def last? {α β : Type} (find? : α → Option β) (l : List α) : Option β :=
  l.reverse.findSome? find?

theorem last?_cons {α β : Type} (find? : α → Option β) (a : α) (l : List α) :
    last? find? (a :: l) = (last? find? l).or (find? a) := by
  simp [last?, List.findSome?_append]

/-- What is found and not found again later is the last thing. -/
theorem last?_append_cons {α β : Type} {find? : α → Option β} {a : α} {b : β} {after : List α}
    (ha : find? a = some b) (hafter : ∀ x ∈ after, find? x = none) (before : List α) :
    last? find? (before ++ a :: after) = some b := by
  have hlater : after.reverse.findSome? find? = none := by
    rw [List.findSome?_eq_none_iff]
    intro x hx
    exact hafter x (List.mem_reverse.1 hx)
  simp [last?, List.findSome?_append, hlater, ha]

variable {uri : String} {e : Event} {v w : Workspace}

/-! ### One event -/

theorem get?_documents_step (w : Workspace) (e : Event) (uri : String) :
    (w.step e).1.documents.get? uri = (e.text? uri).or (w.documents.get? uri) := by
  cases e with
  | opened name text | changed name text =>
    change (w.documents.put name text).get? uri = _
    rw [Table.get?_put, Event.text?]
    split <;> rfl
  | hover name place => rfl
  | documented catalogue => rfl

theorem catalogue_step (w : Workspace) (e : Event) :
    (w.step e).1.catalogue = e.catalogue?.getD w.catalogue := by
  cases e <;> rfl

/-- Diagnostics are published of a document that is given a text, and they are those of the text. -/
theorem diagnostics?_step (w : Workspace) (e : Event) (uri : String) :
    (w.step e).2.diagnostics? uri = (e.text? uri).map Diagnostic.ofDocument := by
  cases e with
  | opened name text | changed name text =>
    change (if uri = name then some (Diagnostic.ofDocument text) else none) = _
    rw [Event.text?]
    split <;> rfl
  | hover name place => rfl
  | documented catalogue => rfl

/-! ### Runs -/

/-- After a run each document has the text that it was last given. -/
theorem get?_documents_run (w : Workspace) (events : List Event) (uri : String) :
    (w.run events).documents.get? uri =
      (last? (Event.text? uri) events).or (w.documents.get? uri) := by
  induction events generalizing w with
  | nil => rfl
  | cons e events ih =>
    change ((w.step e).1.run events).documents.get? uri = _
    rw [ih, get?_documents_step, last?_cons, Option.or_assoc]

/-- After a run the documentation is that which was last brought. -/
theorem catalogue_run (w : Workspace) (events : List Event) :
    (w.run events).catalogue = (last? Event.catalogue? events).getD w.catalogue := by
  induction events generalizing w with
  | nil => rfl
  | cons e events ih =>
    change ((w.step e).1.run events).catalogue = _
    rw [ih, catalogue_step, last?_cons, Option.getD_or]

/-- After a run a hover is answered for the text that its document was last given, with the
    documentation that was last brought. -/
theorem hover?_run (w : Workspace) (events : List Event) (uri : String) (place : Place) :
    (w.run events).hover? uri place =
      ((last? (Event.text? uri) events).or (w.documents.get? uri)).elim (.ok none) fun text =>
        Hover.at? ((last? Event.catalogue? events).getD w.catalogue) text place := by
  rw [hover?, get?_documents_run, catalogue_run]
  cases (last? (Event.text? uri) events).or (w.documents.get? uri) <;> rfl

/-- A hover is answered for the text that was last opened or changed, whatever has happened to other
    documents since then. -/
theorem hover?_run_of_text? {text : Text} {after : List Event} (he : e.text? uri = some text)
    (hafter : ∀ later ∈ after, Event.text? uri later = none) (w : Workspace)
    (before : List Event) (place : Place) :
    (w.run (before ++ e :: after)).hover? uri place =
      Hover.at? (w.run (before ++ e :: after)).catalogue text place := by
  rw [hover?, get?_documents_run, last?_append_cons he hafter, Option.some_or]

/-! ### Sessions -/

theorem session_append (w : Workspace) (before after : List Event) :
    w.session (before ++ after) = w.session before ++ (w.run before).session after := by
  induction before generalizing w with
  | nil => rfl
  | cons e before ih => exact congrArg _ (ih (w.step e).1)

/-- A hover in a session is answered for the text that its document was last given, with the
    documentation that was last brought, and the session goes on as if it had not been asked for. -/
theorem session_hover (w : Workspace) (before after : List Event) (uri : String) (place : Place) :
    w.session (before ++ .hover uri place :: after) =
      w.session before ++
        (.hover uri place, .answered
          (((last? (Event.text? uri) before).or (w.documents.get? uri)).elim (.ok none) fun text =>
            Hover.at? ((last? Event.catalogue? before).getD w.catalogue) text place)) ::
        (w.run before).session after := by
  rw [session_append, ← hover?_run]
  rfl

/-- What was last published about a document are the diagnostics of the text that it has. Only of a
    text that it has had since before the session nothing was published. -/
theorem last?_diagnostics?_session (w : Workspace) (events : List Event) (uri : String) :
    (last? (fun r => r.2.diagnostics? uri) (w.session events)).or
        ((w.documents.get? uri).map Diagnostic.ofDocument) =
      ((w.run events).documents.get? uri).map Diagnostic.ofDocument := by
  have hlast : last? (fun r => r.2.diagnostics? uri) (w.session events) =
      (last? (Event.text? uri) events).map Diagnostic.ofDocument := by
    induction events generalizing w with
    | nil => rfl
    | cons e events ih =>
      rw [session, last?_cons, last?_cons, ih, diagnostics?_step, Option.map_or]
  rw [hlast, get?_documents_run, Option.map_or]

/-! ### One document among others -/

/-- Two workspaces that are the same for one document. -/
structure AgreeOn (uri : String) (v w : Workspace) : Prop where
  document : v.documents.get? uri = w.documents.get? uri
  catalogue : v.catalogue = w.catalogue

theorem AgreeOn.step (h : AgreeOn uri v w) (e : Event) : AgreeOn uri (v.step e).1 (w.step e).1 where
  document := by rw [get?_documents_step, get?_documents_step, h.document]
  catalogue := by rw [catalogue_step, catalogue_step, h.catalogue]

/-- An event that does not concern a document leaves all that matters to it. -/
theorem agreeOn_step_of_not_concerns (h : ¬e.concerns uri) (w : Workspace) :
    AgreeOn uri (w.step e).1 w := by
  cases e with
  | opened name text | changed name text =>
    have hname : uri ≠ name := by simpa [Event.concerns] using h
    exact ⟨by rw [get?_documents_step, Event.text?, if_neg hname, Option.none_or], rfl⟩
  | hover name place => exact ⟨rfl, rfl⟩
  | documented catalogue => exact absurd rfl h

/-- An event that concerns a document gets the same reply wherever the document is the same. -/
theorem AgreeOn.reply_eq (h : AgreeOn uri v w) (he : e.concerns uri) :
    (v.step e).2 = (w.step e).2 := by
  cases e with
  | opened name text | changed name text => rfl
  | hover name place =>
    obtain rfl : uri = name := by simpa [Event.concerns] using he
    change Reply.answered (v.hover? uri place) = Reply.answered (w.hover? uri place)
    rw [hover?, hover?, h.document, h.catalogue]
  | documented catalogue => rfl

theorem AgreeOn.filter_session (h : AgreeOn uri v w) (events : List Event) :
    ((v.session events).filter fun r => r.1.concerns uri) =
      w.session (events.filter (Event.concerns uri)) := by
  induction events generalizing v w with
  | nil => rfl
  | cons e events ih =>
    by_cases he : e.concerns uri
    · simp only [session, List.filter_cons, he, if_true, ih (h.step e), h.reply_eq he]
    · -- The event is left out on one side, where the workspace stays as it is.
      have hleft : AgreeOn uri (v.step e).1 w := by
        have hkept := agreeOn_step_of_not_concerns he v
        exact ⟨hkept.document.trans h.document, hkept.catalogue.trans h.catalogue⟩
      simp only [session, List.filter_cons, if_neg he, ih hleft]

/-- The replies to the events that concern a document are those of a session without the other
    events. -/
theorem filter_session (w : Workspace) (events : List Event) (uri : String) :
    ((w.session events).filter fun r => r.1.concerns uri) =
      w.session (events.filter (Event.concerns uri)) :=
  AgreeOn.filter_session ⟨rfl, rfl⟩ events

/-! ### Sessions without faults -/

/-- Every hover of a session from the first line on is answered, if all documentation that is used
    is as expected. -/
theorem hovers_answered {events : List Event}
    (hw : w.catalogue.isTextual ∧ w.catalogue.hasIntegerBounds)
    (hevents : ∀ catalogue, .documented catalogue ∈ events →
      catalogue.isTextual ∧ catalogue.hasIntegerBounds)
    {place : Place} (hline : 0 ≤ place.line) {reply : Reply}
    (hmem : (.hover uri place, reply) ∈ w.session events) :
    ∃ answer, reply = .answered (.ok answer) := by
  induction events generalizing w with
  | nil => cases hmem
  | cons e events ih =>
    rw [session, List.mem_cons] at hmem
    rcases hmem with heq | hmem
    · obtain ⟨rfl, rfl⟩ := Prod.mk.inj heq
      change ∃ answer, Reply.answered (w.hover? uri place) = .answered (.ok answer)
      rw [hover?]
      cases w.documents.get? uri with
      | none => exact ⟨none, rfl⟩
      | some document =>
        obtain ⟨answer, hanswer, -⟩ := Hover.yields_at? hw.1 hw.2 document hline
        exact ⟨answer, congrArg Reply.answered hanswer⟩
    · refine ih ?_ (fun catalogue h => hevents catalogue (List.mem_cons_of_mem e h)) hmem
      -- Only new documentation could take the place of the old one.
      cases e with
      | documented catalogue => exact hevents catalogue List.mem_cons_self
      | _ => exact hw

end MarcLens.Workspace
