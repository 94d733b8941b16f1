import OperatorConsole.Argument.Binding
import OperatorConsole.Proofs.Catalog.Directory

/-!
Help. The help on a directory has one line for each of its services, the help on a service one line for
each of its operations, with the parameters that arguments are bound to. A name that no service bears
is all that the help on it speaks of.
-/
namespace OperatorConsole

/-- A parameter as help shows it. -/
def Parameter.shown (p : Parameter) : String := " <" ++ p.name ++ " (" ++ p.label ++ ")>"

/-- An operation as help shows it, on a line of its own. -/
def Operation.line (o : Operation) : String :=
  "  " ++ o.verb ++ String.join (o.visible.map (·.shown)) ++ "\n"

/-! ### Lines -/

/-- Lines with line ends between them and at the end are lines that end one by one. -/
theorem intercalate_append_lineEnd (first : String) : ∀ rest : List String,
    "\n".intercalate (first :: rest) ++ "\n" = first ++ "\n" ++ String.join (rest.map (· ++ "\n"))
  | [] => by simp
  | next :: rest => by
    rw [String.intercalate_cons_cons, String.append_assoc, intercalate_append_lineEnd next rest,
      List.map_cons, String.join_cons]

theorem shown_eq (p : Parameter) : p.shown = " <" ++ s!"{p.name} ({p.label})" ++ ">" := by
  refine String.toList_inj.1 ?_
  simp [Parameter.shown]
  rfl

/-- Parameters between the same brackets are parameters each in brackets of its own. -/
theorem intercalate_shown (p : Parameter) : ∀ ps : List Parameter,
    " <" ++ "> <".intercalate ((p :: ps).map fun p => s!"{p.name} ({p.label})") ++ ">" =
      String.join ((p :: ps).map (·.shown))
  | [] => by simp [shown_eq]
  | q :: ps => by
    have hbrackets : "> <" = ">" ++ " <" := by decide
    have ih := intercalate_shown q ps
    simp only [List.map_cons, String.intercalate_cons_cons, String.join_cons] at ih ⊢
    rw [← ih, shown_eq p, hbrackets]
    simp only [String.append_assoc]

namespace Directory

variable {d : Directory} {s : Service} {name : String}

theorem signature_eq (o : Operation) : signature o = String.join (o.visible.map (·.shown)) := by
  unfold signature
  cases o.visible with
  | nil => rfl
  | cons p ps => exact intercalate_shown p ps

/-- The help on a directory has one line for each service, in order. -/
theorem describeAll_eq : d.describeAll = "Services:\n" ++
    String.join (d.services.map fun s => "  " ++ s.name ++ "\n") ++
      "'help <service-name>' for more info\n" := by
  have hservices : (d.services.map fun s => s!"  {s.name}").map (· ++ "\n") =
      d.services.map fun s => "  " ++ s.name ++ "\n" := by
    rw [List.map_map]
    rfl
  rw [describeAll, List.append_assoc, List.singleton_append, intercalate_append_lineEnd,
    List.map_append, String.join_append, hservices]
  rw [← String.append_assoc]
  rfl

theorem describe_of_service? (h : d.service? name = some s) : d.describe name =
    "\n".intercalate ((name ++ " service:") :: s.operations.map fun o => s!"  {o.verb}{signature o}") ++
      "\n" := by
  unfold describe
  rw [h]
  rfl

theorem describe_of_service?_none (h : d.service? name = none) :
    d.describe name = "Invalid service '" ++ name ++ "'" := by
  unfold describe
  rw [h]
  rfl

/-- The help on a service has one line for each operation, in order. -/
theorem describe_eq (h : d.service? name = some s) : d.describe name =
    name ++ " service:\n" ++ String.join (s.operations.map (·.line)) := by
  have hlines : (s.operations.map fun o => s!"  {o.verb}{signature o}").map (· ++ "\n") =
      s.operations.map (·.line) := by
    rw [List.map_map]
    refine List.map_congr_left fun o _ => ?_
    rw [Operation.line, ← signature_eq]
    rfl
  have hend : " service:\n" = " service:" ++ "\n" := by decide
  rw [describe_of_service? h, intercalate_append_lineEnd, hlines, hend, ← String.append_assoc]

/-- The help on a name speaks of the name alone exactly if no service bears it. -/
theorem describe_eq_invalid_iff : d.describe name = "Invalid service '" ++ name ++ "'" ↔
    d.service? name = none := by
  refine ⟨fun h => ?_, describe_of_service?_none⟩
  cases hs : d.service? name with
  | none => rfl
  | some s =>
    -- the one text ends with a line end, the other with a quote
    rw [describe_of_service? hs] at h
    have hlast := congrArg (·.toList.getLast?) h
    simp only [String.toList_append, List.getLast?_append] at hlast
    exact absurd hlast (by simp)

theorem help_of_ne_nil (h : Text.strip name.toList ≠ []) : d.help name = d.describe name := by
  have hempty : (Text.strip name.toList).isEmpty = false := by simpa using h
  rw [help, hempty]
  rfl

end Directory

end OperatorConsole
