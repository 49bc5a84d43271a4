import MentionPrompt.Identifier

/-!
Segments of a prompt: literal text and references to steps and media.

A reference is written as a token, `@`, an opening brace, the keyword of its kind, a colon, the
identifier and a closing brace. Main statement: the text of a list of segments is the texts of its
members, one after the other.
-/

namespace MentionPrompt

/-- What a reference points at. -/
inductive RefKind where | step | media
  deriving DecidableEq, Repr

/-- The word for the kind inside a token. -/
def RefKind.keyword : RefKind → String
  | .step => "step"
  | .media => "ref"

/-- The word for the kind in messages and in data. -/
def RefKind.name : RefKind → String
  | .step => "step"
  | .media => "media"

/-- The kind of a name. -/
def RefKind.ofName? (name : String) : Option RefKind :=
  [RefKind.step, .media].find? (·.name == name)

/-- The kind that a token keyword stands for. -/
def RefKind.ofKeyword? (keyword : String) : Option RefKind :=
  [RefKind.step, .media].find? (·.keyword == keyword)

theorem RefKind.ofKeyword?_eq_some_iff {keyword : String} {kind : RefKind} :
    ofKeyword? keyword = some kind ↔ kind.keyword = keyword := by
  constructor
  · intro h
    unfold ofKeyword? at h
    have hword := List.find?_some h
    exact eq_of_beq hword
  · rintro rfl
    cases kind <;> rfl

/-- A stretch of literal text, or a reference. -/
inductive Segment where
  | literal (text : String)
  | reference (kind : RefKind) (identifier : String)
  deriving DecidableEq, Repr

/-- The token of a reference. -/
def RefKind.token (kind : RefKind) (identifier : String) : String :=
  "@\x7b" ++ kind.keyword ++ ":" ++ identifier ++ "\x7d"

/-- The canonical text of one segment. -/
def Segment.text : Segment → String
  | .literal text => text
  | .reference kind identifier => kind.token identifier

/-- The canonical text of a list of segments. -/
def Segment.serialize (segments : List Segment) : String :=
  String.join (segments.map Segment.text)

/-- A reference with the position of its segment. -/
structure Reference where
  index : Nat
  kind : RefKind
  identifier : String
  deriving DecidableEq, Repr

/-- The reference a segment makes at a position, if it makes one. -/
def Segment.reference? : Segment → Nat → Option Reference
  | .literal _, _ => none
  | .reference kind identifier, index => some ⟨index, kind, identifier⟩

/-- The references of a list of segments, in order. -/
def Segment.references (segments : List Segment) : List Reference :=
  segments.zipIdx.filterMap fun (segment, index) => segment.reference? index

@[simp] theorem Segment.serialize_nil : Segment.serialize [] = "" := rfl

@[simp] theorem Segment.toList_serialize (segments : List Segment) :
    (Segment.serialize segments).toList = segments.flatMap fun s => s.text.toList := by
  simp [Segment.serialize, List.flatMap_map]

end MentionPrompt
