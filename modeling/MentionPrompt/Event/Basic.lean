import MentionPrompt.Event.Timestamp
import MentionPrompt.Json.Printer
import MentionPrompt.Json.Shape

/-!
Audit events: one run of a command on a template, written as one line of JSON. Main statement: the
fields of the JSON tell the event, each under its name.
-/

namespace MentionPrompt

/-- The commands that are audited. -/
inductive EventAction where | validate | resolve | compose
  deriving DecidableEq, Repr

/-- The name of the action. -/
def EventAction.name : EventAction → String
  | .validate => "validate"
  | .resolve => "resolve"
  | .compose => "compose"

/-- The action of a name. -/
def EventAction.ofName? (name : String) : Option EventAction :=
  [EventAction.validate, .resolve, .compose].find? (·.name == name)

theorem EventAction.ofName?_name (action : EventAction) : ofName? action.name = some action := by
  cases action <;> rfl

/-- How a run ended. -/
inductive EventOutcome where | ok | failed
  deriving DecidableEq, Repr

/-- The name of the outcome. -/
def EventOutcome.name : EventOutcome → String
  | .ok => "ok"
  | .failed => "failed"

/-- The outcome of a name. -/
def EventOutcome.ofName? (name : String) : Option EventOutcome :=
  [EventOutcome.ok, .failed].find? (·.name == name)

theorem EventOutcome.ofName?_name (outcome : EventOutcome) :
    ofName? outcome.name = some outcome := by
  cases outcome <;> rfl

/-- One audited run. -/
structure Event where
  ts : Timestamp
  action : EventAction
  actor : String
  template : Option String := none
  outcome : EventOutcome
  details : Json := .object []

namespace Event

/-- The fields of the event, those of its details sorted. -/
def toJson (event : Event) : Json :=
  .object <|
    [("ts", .string event.ts.text), ("action", .string event.action.name),
      ("actor", .string event.actor)] ++
      Json.field? "template" (event.template.map .string) ++
      [("outcome", .string event.outcome.name), ("details", event.details.sorted)]

/-- An event; all but its template must be there. -/
def ofJson? (value : Json) : Option Event := do
  let fields ← value.asRecord? ["ts", "action", "actor", "template", "outcome", "details"]
  return {
    ts := ← Json.required? fields "ts" (·.asString?.bind Timestamp.read?)
    action := ← Json.required? fields "action" (·.asName?.bind EventAction.ofName?)
    actor := ← Json.required? fields "actor" Json.asString?
    template := ← Json.nullable? fields "template" Json.asString?
    outcome := ← Json.required? fields "outcome" (·.asName?.bind EventOutcome.ofName?)
    details := ← Json.required? fields "details" some }

/-- The fields are those of the event, and each is read back. -/
structure Tells (event : Event) (fields : List (String × Json)) : Prop where
  names : fields.map (·.1) =
    ["ts", "action", "actor"] ++ (event.template.map fun _ => "template").toList ++
      ["outcome", "details"]
  ts : Json.required? fields "ts" Json.asString? = some event.ts.text
  action : Json.required? fields "action" (·.asName?.bind EventAction.ofName?) = some event.action
  actor : Json.required? fields "actor" Json.asString? = some event.actor
  template : Json.nullable? fields "template" Json.asString? = some event.template
  outcome : Json.required? fields "outcome" (·.asName?.bind EventOutcome.ofName?) =
    some event.outcome
  details : Json.field fields "details" = some event.details.sorted

theorem tells_toJson (event : Event) :
    ∃ fields, event.toJson = .object fields ∧ event.Tells fields := by
  have haction := EventAction.ofName?_name event.action
  have houtcome := EventOutcome.ofName?_name event.outcome
  refine ⟨_, rfl, ?_⟩
  rcases event with ⟨ts, action, actor, template | template, outcome, details⟩
  · exact ⟨rfl, rfl, haction, rfl, rfl, houtcome, rfl⟩
  · exact ⟨rfl, rfl, haction, rfl, rfl, houtcome, rfl⟩

/-- What tells an event is read as the event, as its time is read, the details sorted. -/
theorem ofJson?_of_tells {event : Event} {fields : List (String × Json)} (h : event.Tells fields) :
    ofJson? (.object fields) =
      (Timestamp.read? event.ts.text).map fun ts =>
        { event with ts, details := event.details.sorted } := by
  have hts : Json.required? fields "ts" (·.asString?.bind Timestamp.read?) =
      Timestamp.read? event.ts.text := by
    rw [Json.required?, ← Option.bind_assoc, ← Json.required?, h.ts, Option.bind_some]
  have hdetails : Json.required? fields "details" some = some event.details.sorted := by
    rw [Json.required?, h.details, Option.bind_some]
  simp only [ofJson?, Json.asRecord?, Option.bind_eq_bind, Option.bind_some, hts, h.action, h.actor,
    h.template, h.outcome, hdetails]
  cases Timestamp.read? event.ts.text with
  | none => rfl
  | some ts => rfl

/-- The event on one line. -/
def line (event : Event) : String := event.toJson.compact

end Event

/-- The owner of a run: the user, as the environment names one, at the host. -/
def actorName (user username : Option String) (host : String) : String :=
  (user <|> username).getD "unknown" ++ "@" ++ host

end MentionPrompt
