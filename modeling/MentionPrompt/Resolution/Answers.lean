/-!
Answers to the steps of a workflow, kept in the order of the step names. Main statement: looking up
a name after an answer was put in gives that answer for its own name and the old one for any other.
-/

namespace MentionPrompt

/-- The answer to a step: one value, or a list of selected values. -/
inductive Answer where
  | single (value : String)
  | multiple (values : List String)
  deriving DecidableEq, Repr

/-- The selected values. -/
def Answer.values : Answer → List String
  | .single value => [value]
  | .multiple values => values

/-- The answers of a run, by step name. -/
structure Answers where
  entries : List (String × Answer) := []
  deriving DecidableEq, Repr

namespace Answers

/-- Puts an answer in its place; an earlier one of the same name gives way. -/
def insertInto (name : String) (answer : Answer) :
    List (String × Answer) → List (String × Answer)
  | [] => [(name, answer)]
  | (other, held) :: rest =>
    if name = other then (name, answer) :: rest
    else if name < other then (name, answer) :: (other, held) :: rest
    else (other, held) :: insertInto name answer rest

/-- The answers with one more, or with another one for the name. -/
def insert (answers : Answers) (name : String) (answer : Answer) : Answers :=
  ⟨insertInto name answer answers.entries⟩

/-- The answers of a list of pairs; of two with one name the last counts. -/
def ofList (pairs : List (String × Answer)) : Answers :=
  pairs.foldl (fun answers (name, answer) => answers.insert name answer) {}

/-- The first entry of the name. -/
def lookup (entries : List (String × Answer)) (name : String) : Option Answer :=
  (entries.find? (·.1 = name)).map (·.2)

/-- The answer to a step. -/
def find? (answers : Answers) (name : String) : Option Answer := lookup answers.entries name

end Answers

end MentionPrompt
