/-!
What others raise. Clients, the types of their parameters and the modules they stand in are written by
others, and what is done there may fail in any way. The console tells some kinds of such failures apart
and shows their texts; asking for a text may fail as well. What a failure was raised from is left out.
-/
namespace OperatorConsole

/-- The kinds of failures that are told apart. -/
inductive Nature where
  /-- The line is no command. -/
  | grammar
  /-- The line names nothing that is known. -/
  | resolution
  /-- An argument has no value. -/
  | binding
  /-- There is no catalog. -/
  | catalog
  /-- The session cannot go on; the report stands for itself. -/
  | session
  /-- The machine or the web fails; an invocation reports it. -/
  | surroundings
  /-- A module cannot be imported. -/
  | importing
  /-- A thing has not the attribute it is asked for. -/
  | attribute
  | other
  deriving DecidableEq, Repr

/-- What stands in front of a report. -/
def Nature.lead : Nature → String
  | .grammar => "Parse error: "
  | .resolution => "Invalid operation: "
  | .session => ""
  | _ => "Error: "

/-- An invocation reports such a failure and does not break off. -/
def Nature.isReported : Nature → Bool
  | .grammar | .resolution | .binding | .catalog | .session | .surroundings => true
  | .importing | .attribute | .other => false

/-- A failure with its text; the kind is the name of its type. -/
structure Told where
  nature : Nature
  kind : String
  message : String
  deriving DecidableEq, Repr

/-- A failure that others raise. -/
inductive Raised where
  | told (t : Told)
  /-- One without a text: where its text is asked for, something else is raised. -/
  | silent (nature : Nature) (kind : String) (instead : Told)
  deriving DecidableEq, Repr

namespace Raised

/-- The kind of failure. -/
def nature : Raised → Nature
  | told t => t.nature
  | silent nature _ _ => nature

/-- The name of the type of the failure. -/
def kind : Raised → String
  | told t => t.kind
  | silent _ kind _ => kind

/-- The text of the failure, or what is raised in its place. -/
def text : Raised → Except Told String
  | told t => .ok t.message
  | silent _ _ instead => .error instead

/-- The text of the failure as far as there is one. -/
def message (e : Raised) : String := e.text.toOption.getD ""

/-- What is shown of the failure when the invocation ends with it. -/
def title (e : Raised) : String := if e.message == "" then e.kind else e.message

end Raised

end OperatorConsole
