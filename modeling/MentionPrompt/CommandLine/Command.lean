/-!
Commands, and how they are called: what a command line says once it is understood.
-/

namespace MentionPrompt

/-- Where a template comes from: a canonical text given inline, or a file. -/
inductive TemplateSource where
  | inline (text : String)
  | file (path : String)
  deriving DecidableEq, Repr

/-- A command with its parameters; files are given by their paths. -/
inductive Command where
  | parse (source : TemplateSource)
  | nodes (source : TemplateSource) (workflow : Option String) (json : Bool)
  | candidates (query : String) (template workflow : Option String)
  | validate (template : String) (workflow : Option String)
  | resolve (template : String) (workflow answers : Option String)
  | compose (keys : String) (template workflow out : Option String)
  deriving DecidableEq, Repr

/-- A call of the program: a command, and what applies to every command. -/
structure Invocation where
  config : Option String := none
  events : Option String := none
  verbosity : Nat := 0
  command : Command
  deriving DecidableEq, Repr

end MentionPrompt
