import OperatorConsole.Proofs.Argument.Delivery
import OperatorConsole.Proofs.Argument.Interchange
import OperatorConsole.Proofs.Argument.Value
import OperatorConsole.Proofs.Catalog.Help
import OperatorConsole.Proofs.Session.Failure

/-!
Resolution and help. What a line names is found in the catalog of a directory: a service that bears the
name, and in it the operation that alone has the verb. Nothing else is called, and nothing at all where
there is no such service or not exactly one such operation. Help on the directory says the same of
services, verbs and parameters.
-/
namespace OperatorConsole

/-! ### Executing what is resolved -/

/-- What a line comes to that calls an operation of a service with arguments: these are bound, a client is
made by the factory of the service, and the operation is called on it. What goes wrong when the client is
made is raised as it is. -/
structure Directory.Calls (d : Directory) (vars : Variables) (w : World) (line : String) (s : Service)
    (o : Operation) (arguments : List Argument) : Prop where
  unbound : ∀ fault, Scope.bind ⟨vars, w⟩ o.formals arguments = .error fault →
    d.execute vars w line =
      (.error (.binding fault), w.withSent (Scope.sentByBind ⟨vars, w⟩ o.formals arguments))
  unmade : ∀ values e w', Scope.bind ⟨vars, w⟩ o.formals arguments = .ok values →
    s.factory (w.withSent (Scope.sentByBind ⟨vars, w⟩ o.formals arguments)) = (.error e, w') →
    d.execute vars w line = (.error (.target e), w')
  called : ∀ values target w₁ outcome w', Scope.bind ⟨vars, w⟩ o.formals arguments = .ok values →
    s.factory (w.withSent (Scope.sentByBind ⟨vars, w⟩ o.formals arguments)) = (.ok target, w₁) →
    o.perform target values w₁ = (outcome, w') →
    d.execute vars w line = (outcome.toResponse, w')

theorem call_ne_resolution {vars : Variables} {w : World} {s : Service} {o : Operation}
    {arguments : List Argument} {fault : Directory.Fault} :
    (call vars w s o arguments).1 ≠ .error (.resolution fault) := by
  cases hbind : Scope.bind ⟨vars, w⟩ o.formals arguments with
  | error f =>
    rw [call_of_bind_error hbind]
    simp
  | ok values =>
    rw [call_of_bind_ok hbind]
    intro h
    have hinvoked := invocation s o values (w.withSent (Scope.sentByBind ⟨vars, w⟩ o.formals arguments))
    rw [h] at hinvoked
    exact hinvoked.not_isBeforeCall trivial

namespace Directory

variable {c : Catalog} {d : Directory} {vars : Variables} {w : World} {line : String}
  {command : Command} {s : Service} {o : Operation} {fault : Fault}

theorem execute_of_resolve_error (hline : Command.read line = .ok command)
    (h : d.resolve command.service command.verb = .error fault) :
    d.execute vars w line = (.error (.resolution fault), w) := by
  have hread : d.read line = .error (.resolution fault) := by
    rw [read, hline, mapError_ok, ok_bind, h]
    rfl
  rw [execute, hread]

theorem execute_of_resolve_ok (hline : Command.read line = .ok command)
    (h : d.resolve command.service command.verb = .ok (s, o)) :
    d.execute vars w line = call vars w s o command.arguments := by
  refine execute_of_read ?_
  rw [read, hline, mapError_ok, ok_bind, h]
  rfl

theorem calls_of_resolve_ok (hline : Command.read line = .ok command)
    (h : d.resolve command.service command.verb = .ok (s, o)) :
    d.Calls vars w line s o command.arguments := by
  constructor
  case unbound =>
    intro fault hbind
    rw [execute_of_resolve_ok hline h, call_of_bind_error hbind]
  case unmade =>
    intro values e w' hbind hfactory
    rw [execute_of_resolve_ok hline h, call_of_bind_ok hbind, invoke_of_factory_error hfactory]
  case called =>
    intro values target w₁ outcome w' hbind hfactory hperform
    rw [execute_of_resolve_ok hline h, call_of_bind_ok hbind, invoke_of_factory hfactory hperform]

/-- Executing a line is refused exactly if its names are not resolved. -/
theorem execute_eq_resolution_iff (hline : Command.read line = .ok command) :
    (d.execute vars w line).1 = .error (.resolution fault) ↔
      d.resolve command.service command.verb = .error fault := by
  cases h : d.resolve command.service command.verb with
  | error f => simp [execute_of_resolve_error hline h]
  | ok found => simp [execute_of_resolve_ok hline h, call_ne_resolution]

end Directory

/-! ### What help shows -/

/-- Help shows the parameters that arguments are bound to, one by one in order: the fields of a record
that stands alone, else the formal parameters themselves. -/
structure Operation.ShowsBound (o : Operation) : Prop where
  fields : ∀ f, o.flattened = some f → o.formals = [f] ∧ o.visible = f.fields
  formals : o.flattened = none → o.visible = o.formals.map (·.toParameter)
  bound : ∀ (scope : Scope) (arguments : List Argument), scope.bind o.formals arguments =
    scope.evaluate (assign o.visible arguments) >>= callValues o.formals
  slots : ∀ arguments, (assign o.visible arguments).map (·.1) = o.visible

theorem Operation.showsBound (o : Operation) : o.ShowsBound where
  fields f h := by
    refine ⟨?_, ?_⟩
    · rw [flattened] at h
      unfold flattened? at h
      split at h
      · next f' hf =>
        split at h
        · cases h
          exact hf
        · cases h
      · cases h
    · rw [Operation.visible, OperatorConsole.visible, ← Operation.flattened, h]
  formals h := by
    rw [Operation.visible, OperatorConsole.visible, ← Operation.flattened, h]
  bound _ _ := rfl
  slots arguments := map_fst_assign o.visible arguments

/-- The help on a directory says what is in its catalog. -/
structure Directory.Shows (d : Directory) (c : Catalog) : Prop where
  services : d.describeAll = "Services:\n" ++
    String.join (c.services.map fun s => "  " ++ s.name ++ "\n") ++
      "'help <service-name>' for more info\n"
  once : (c.services.map (·.name)).Nodup
  invalid : ∀ name, d.describe name = "Invalid service '" ++ name ++ "'" ↔
    ∀ s ∈ c.services, s.name ≠ name
  operations : ∀ s ∈ c.services, d.describe s.name =
    s.name ++ " service:\n" ++ String.join (s.operations.map (·.line))
  parameters : ∀ s ∈ c.services, ∀ o ∈ s.operations, o.ShowsBound
  blank : d.help "" = d.describeAll

/-- A line that is a command is executed as the catalog says, and help on its service agrees. -/
structure Directory.Resolves (d : Directory) (c : Catalog) (vars : Variables) (w : World)
    (line : String) (command : Command) : Prop where
  unknownService : (d.execute vars w line).1 = .error (.resolution (.unknownService command.service)) ↔
    ∀ s ∈ c.services, s.name ≠ command.service
  unknownVerb : (d.execute vars w line).1 =
      .error (.resolution (.unknownVerb command.service command.verb)) ↔
    ∃ s ∈ c.services, s.name = command.service ∧ ∀ o ∈ s.operations, o.verb ≠ command.verb
  ambiguousVerb : (d.execute vars w line).1 =
      .error (.resolution (.ambiguousVerb command.service command.verb)) ↔
    ∃ s ∈ c.services, s.name = command.service ∧ 2 ≤ s.operations.countP (·.verb == command.verb)
  /-- What is not resolved calls nothing, whatever operations would do. -/
  unresolved : ∀ fault, (d.execute vars w line).1 = .error (.resolution fault) →
    ∀ deeds, (d.doing deeds).execute vars w line = (.error (.resolution fault), w)
  /-- What is resolved calls the one operation of the service, on a client that the factory of the service
  makes, whatever operations would do. -/
  called : ∀ s ∈ c.services, s.name = command.service →
    ∀ o, s.operations.filter (·.verb == command.verb) = [o] →
      d.Calls vars w line s o command.arguments ∧
      ∀ deeds, (d.doing deeds).Calls vars w line s (o.doing (deeds s o)) command.arguments
  help : d.help command.service = d.describe command.service
  invalid : d.help command.service = "Invalid service '" ++ command.service ++ "'" ↔
    (d.execute vars w line).1 = .error (.resolution (.unknownService command.service))
  listed : ∀ s ∈ c.services, s.name = command.service →
    ((∃ o ∈ s.operations, o.verb = command.verb) ↔ (d.execute vars w line).1 ≠
      .error (.resolution (.unknownVerb command.service command.verb)))

namespace Directory

variable {c : Catalog} {d : Directory} {vars : Variables} {w : World} {line : String}
  {command : Command}

theorem shows_of_ofCatalog (hd : ofCatalog c = .ok d) : d.Shows c := by
  obtain ⟨hnames, hservices⟩ := ofCatalog_eq_ok_iff.1 hd
  constructor
  case services => rw [describeAll_eq, hservices]
  case once => exact hnames
  case invalid =>
    intro name
    rw [describe_eq_invalid_iff, service?_eq_none_iff, hservices]
  case operations =>
    intro s hs
    rw [← hservices] at hnames hs
    exact describe_eq ((service?_eq_some_iff hnames).2 ⟨hs, rfl⟩)
  case parameters =>
    intro s _ o _
    exact o.showsBound
  case blank => rfl

theorem resolves_of_ofCatalog (hd : ofCatalog c = .ok d) (hline : Command.read line = .ok command)
    (vars : Variables) (w : World) : d.Resolves c vars w line command := by
  obtain ⟨hnames, hservices⟩ := ofCatalog_eq_ok_iff.1 hd
  rw [← hservices] at hnames
  have hunknown : d.resolve command.service command.verb =
      .error (.unknownService command.service) ↔ ∀ s ∈ d.services, s.name ≠ command.service :=
    resolve_eq_unknownService_iff hnames
  have hhelp : d.help command.service = d.describe command.service :=
    help_of_ne_nil (strip_ne_nil_of_isIdentifier (Command.read_eq_ok_iff.1 hline).writable.service)
  constructor
  case unknownService => rw [execute_eq_resolution_iff hline, hunknown, hservices]
  case unknownVerb =>
    rw [execute_eq_resolution_iff hline, resolve_eq_unknownVerb_iff hnames, hservices]
  case ambiguousVerb =>
    rw [execute_eq_resolution_iff hline, resolve_eq_ambiguousVerb_iff hnames, hservices]
  case unresolved =>
    intro fault h deeds
    rw [execute_eq_resolution_iff hline] at h
    refine execute_of_resolve_error hline ?_
    rw [resolve_doing, h]
    rfl
  case called =>
    intro s hs hname o ho
    have hresolve : d.resolve command.service command.verb = .ok (s, o) := by
      rw [← hservices] at hs
      rw [resolve_of_service? ((service?_eq_some_iff hnames).2 ⟨hs, hname⟩), operation_eq_ok_iff.2 ho]
      rfl
    refine ⟨calls_of_resolve_ok hline hresolve, fun deeds => ?_⟩
    have hdoing : (d.doing deeds).resolve command.service command.verb =
        .ok (s.doing deeds, o.doing (deeds s o)) := by
      rw [resolve_doing, hresolve]
      rfl
    -- services that do something else make their clients as before
    exact ⟨(calls_of_resolve_ok hline hdoing).unbound, (calls_of_resolve_ok hline hdoing).unmade,
      (calls_of_resolve_ok hline hdoing).called⟩
  case help => exact hhelp
  case invalid =>
    rw [hhelp, describe_eq_invalid_iff, service?_eq_none_iff, execute_eq_resolution_iff hline, hunknown]
  case listed =>
    intro s hs hname
    rw [← hservices] at hs
    rw [ne_eq, execute_eq_resolution_iff hline, resolve_eq_unknownVerb_iff hnames]
    constructor
    · rintro ⟨o, ho, hverb⟩ ⟨t, ht, htname, hnone⟩
      obtain rfl : t = s := List.inj_on_of_nodup_map hnames ht hs (htname.trans hname.symm)
      exact hnone o ho hverb
    · intro h
      by_contra hno
      exact h ⟨s, hs, hname, fun o ho hverb => hno ⟨o, ho, hverb⟩⟩

/-- A catalog has no directory exactly if two of its services share a name, and the report names their
clients. Where there is a directory, its help is that of the catalog, and every line that is a command
is refused for its service, for a verb that is not there or for one that is there more than once, or
calls the one operation that it names and no other; help says the same of it. -/
theorem resolution_exact (c : Catalog) :
    ((∃ clash, ofCatalog c = .error clash) ↔ c.SharesName) ∧
    (∀ clash, ofCatalog c = .error clash → ∃ s t, [s, t].Sublist c.services ∧ s.name = t.name ∧
      clash = ⟨s.name, s.client, t.client⟩) ∧
    (∀ d, ofCatalog c = .ok d → d.Shows c ∧
      ∀ line command, Command.read line = .ok command → ∀ vars w, d.Resolves c vars w line command) ∧
    ∀ service verb, (Fault.unknownService service).message = "Unknown service '" ++ service ++ "'" ∧
      (Fault.unknownVerb service verb).message =
        "Service '" ++ service ++ "' does not understand '" ++ verb ++ "'" ∧
      (Fault.ambiguousVerb service verb).message =
        "Service '" ++ service ++ "' has more than one '" ++ verb ++ "'" := by
  refine ⟨exists_ofCatalog_eq_error_iff, fun clash h => exists_clash_of_ofCatalog h, ?_,
    fun service verb => ⟨rfl, rfl, rfl⟩⟩
  intro d hd
  exact ⟨shows_of_ofCatalog hd, fun line command hline vars w => resolves_of_ofCatalog hd hline vars w⟩

/-- An operation without parameters. -/
def bareOperation (name : String) : Operation := ⟨name, [], fun _ _ w => (.response (.ofStatus 200), w)⟩

/-- Two services; two operations of the one have the verb `get`. -/
def thingsAndNotes : Catalog :=
  ⟨[⟨"ThingClient", .plain "ThingClient", ["get", "get_async", "put_async"].map bareOperation⟩,
    ⟨"Note", .plain "Note", [bareOperation "get"]⟩]⟩

theorem resolution_exact_things :
    ofCatalog thingsAndNotes = .ok ⟨thingsAndNotes.services⟩ ∧
    Command.read "Thing get" = .ok ⟨"Thing", "get", []⟩ ∧
    Command.read "Thing put" = .ok ⟨"Thing", "put", []⟩ ∧
    (execute ⟨thingsAndNotes.services⟩ [] .bare "Thing get").1 =
      .error (.resolution (.ambiguousVerb "Thing" "get")) ∧
    execute ⟨thingsAndNotes.services⟩ [] .bare "Thing put" = (.ok (.ofStatus 200), .bare) := by
  have hbuilt : ofCatalog thingsAndNotes = .ok ⟨thingsAndNotes.services⟩ :=
    ofCatalog_eq_ok_iff.2 ⟨by decide +kernel, rfl⟩
  have hget : Command.read "Thing get" = .ok ⟨"Thing", "get", []⟩ := by decide +kernel
  have hput : Command.read "Thing put" = .ok ⟨"Thing", "put", []⟩ := by decide +kernel
  have hlines := ((resolution_exact thingsAndNotes).2.2.1 _ hbuilt).2
  refine ⟨hbuilt, hget, hput, ?_, ?_⟩
  · exact (hlines _ _ hget [] .bare).ambiguousVerb.2
      ⟨_, List.mem_cons_self, by decide +kernel, by decide +kernel⟩
  · have hcalls := ((hlines _ _ hput [] .bare).called _ List.mem_cons_self (by decide +kernel)
      (bareOperation "put_async") (by rfl)).1
    exact hcalls.called [] ⟨"ThingClient", []⟩ .bare (.response (.ofStatus 200)) .bare rfl rfl rfl

end Directory

end OperatorConsole
