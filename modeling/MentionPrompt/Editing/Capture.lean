import MentionPrompt.Segment.Basic
import MentionPrompt.Text.Alphanumeric

/-!
Mention capture: a two-state machine over keystrokes.

        idle ── @ ──▶ composing ""        (@ starts over in any state)
        composing q ── word character ──▶ composing (q with it)
        composing q ── backspace ──▶ composing (q without its last), or idle if q is empty
        composing q ── anything else, escape, a selection ──▶ idle

The query is what was typed since the last `@`.
-/

namespace MentionPrompt

/-- A keystroke. -/
inductive Key where
  | char (c : Char)
  | backspace
  | escape
  deriving DecidableEq, Repr

/-- Something that a mention can be made of. -/
structure Candidate where
  kind : RefKind
  identifier : String
  label : String := ""
  deriving DecidableEq, Repr

/-- A mention that was chosen, and the typed text that it replaces. -/
structure Insertion where
  kind : RefKind
  identifier : String
  replaced : String
  deriving DecidableEq, Repr

/-- Whether a mention is being typed, and its query. -/
inductive CaptureState where
  | idle
  | composing (query : String)
  deriving DecidableEq, Repr

/-- What a keystroke did to the capture. -/
inductive Transition where | none | started | extended | shortened | abandoned | cancelled
  deriving DecidableEq, Repr

/-- The name of the transition. -/
def Transition.name : Transition → String
  | .none => "none"
  | .started => "started"
  | .extended => "extended"
  | .shortened => "shortened"
  | .abandoned => "abandoned"
  | .cancelled => "cancelled"

/-- The character can be part of a query. -/
def isWordChar (c : Char) : Bool := Text.isAlphanumeric c || c == '_' || c == '-'

namespace CaptureState

/-- The query being typed. -/
def query? : CaptureState → Option String
  | .idle => none
  | .composing query => some query

/-- A mention is being typed. -/
def isComposing (state : CaptureState) : Bool := state.query?.isSome

/-- The state after a keystroke, and what the keystroke did. -/
def press : CaptureState → Key → Transition × CaptureState
  | .idle, .char c => if c = '@' then (.started, .composing "") else (.none, .idle)
  | .idle, .backspace => (.none, .idle)
  | .idle, .escape => (.none, .idle)
  | .composing query, .char c =>
    if c = '@' then (.started, .composing "")
    else if isWordChar c then (.extended, .composing (query.push c))
    else (.abandoned, .idle)
  | .composing _, .escape => (.abandoned, .idle)
  | .composing query, .backspace =>
    if query.isEmpty then (.cancelled, .idle)
    else (.shortened, .composing (String.ofList query.toList.dropLast))

/-- The mention that choosing a candidate makes of the typed text; nothing unless a mention is being
typed. Either way the capture ends. -/
def select : CaptureState → Candidate → Option Insertion × CaptureState
  | .idle, _ => (none, .idle)
  | .composing query, candidate =>
    (some ⟨candidate.kind, candidate.identifier, "@" ++ query⟩, .idle)

end CaptureState

end MentionPrompt
