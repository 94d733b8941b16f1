import OperatorConsole.Builtin.Authentication
import OperatorConsole.Proofs.Argument.Delivery
import OperatorConsole.Proofs.Argument.Value
import OperatorConsole.Proofs.Catalog.Directory
import OperatorConsole.Proofs.Catalog.Offered
import OperatorConsole.Proofs.Session.Execution
import OperatorConsole.Proofs.Session.Perform

/-!
Lines that call built-in operations. The services offer their methods as they are listed, each under its
own verb. A line that names one of them is executed, and if its parameters take arguments that have
values, the operation is called with these values.
-/
namespace OperatorConsole

/-! ### Clients that build on no other -/

/-- A client that builds on no other offers its methods as they are listed. -/
theorem operations_plain {name : String} {methods : List Method}
    (hnames : (methods.map (·.name)).Nodup) (hoffered : ∀ m ∈ methods, m.isOffered = true) :
    (Client.plain name methods).service.operations = methods.filterMap (·.operation?) := by
  have hall : methods.foldl (fun found m => putMethod m found) [] = methods :=
    puts_putMethod.foldl_put_of_nodup hnames
  have hlayer : (layerMethods methods).filter (·.isOffered) = methods := by
    rw [layerMethods, hall, List.filter_eq_self]
    exact hoffered
  have hcollected : (Client.plain name methods).offered = methods := by
    simp only [Client.offered, Client.layers, Client.plain, List.map_nil, List.reverse_singleton,
      List.flatMap_singleton, hlayer, hall]
  rw [Client.service, hcollected]

/-! ### Lines -/

section

variable {d : Directory} {s : Service} {line service verb : String} {arguments : List Argument}
  {o : Operation}

theorem Directory.read_of_command (hline : Command.read line = .ok ⟨service, verb, arguments⟩)
    (hservice : d.service? service = some s) (hverb : operation s verb = .ok o) :
    d.read line = .ok (s, o, arguments) := by
  rw [Directory.read, hline, mapError_ok, ok_bind, resolve_of_service? hservice, hverb]
  rfl

/-- Where each verb is the name of an operation, it means this operation. -/
theorem Directory.operation_of_mem (hverbs : ∀ o ∈ s.operations, o.verb = o.name)
    (hnames : (s.operations.map (·.name)).Nodup) (ho : o ∈ s.operations) :
    operation s o.name = .ok o := by
  have hfilter : s.operations.filter (·.verb == o.name) = s.operations.filter (·.name == o.name) :=
    List.filter_congr fun p hp => by rw [hverbs p hp]
  rw [operation_eq_ok_iff, hfilter, Keyed.filter_of_mem hnames ho]

/-- A command begins with its service. -/
theorem Command.service_prefix {c : Command} (h : Command.read line = .ok c) :
    c.service.toList <+: line.toList := by
  unfold Command.read takeIdentifier at h
  dsimp only at h
  split_ifs at h
  cases h
  rw [String.toList_ofList]
  exact identifier_prefix line.toList

/-- The first word of a line begins as the line does. -/
theorem exists_words_cons {c : Char} (cs : List Char) (hc : Text.isBlank c = false) :
    ∃ word rest, Text.words (c :: cs) = (c :: word) :: rest := by
  unfold Text.words
  dsimp only
  rw [List.foldr_cons]
  generalize List.foldr _ _ cs = found
  obtain ⟨word, rest⟩ := found
  exact ⟨word, rest, by simp [Text.wordStep, hc]⟩

/-- A line is executed if it begins as none of the words that a shell knows itself. -/
theorem Shell.classify_of_head {c : Char} {cs : List Char} (hline : line.toList = c :: cs)
    (hblank : Text.isBlank c = false) (hc : c ∉ ['v', 'h', 'g', 's']) :
    Shell.classify line = .execute := by
  obtain ⟨word, rest, hwords⟩ := exists_words_cons cs hblank
  have hne (t : String) (d : Char) (ds : List Char) (ht : t.toList = d :: ds) (hd : d ≠ c) :
      line ≠ t ∧ String.ofList (c :: word) ≠ t := by
    constructor
    · rintro rfl
      exact hd (List.cons.inj (ht.symm.trans hline)).1
    · rintro rfl
      rw [String.toList_ofList] at ht
      exact hd (List.cons.inj ht).1.symm
  simp only [List.mem_cons, List.not_mem_nil, or_false, not_or] at hc
  obtain ⟨hv, hh, hg, hs⟩ := hc
  have hvars := (hne "vars" 'v' _ rfl (Ne.symm hv)).1
  have hhelp := (hne "help" 'h' _ rfl (Ne.symm hh)).2
  have hget := (hne "get" 'g' _ rfl (Ne.symm hg)).2
  have hset := (hne "set" 's' _ rfl (Ne.symm hs)).2
  rw [Shell.classify, hline, hwords, List.map_cons]
  generalize String.ofList (c :: word) = first at hhelp hget hset ⊢
  simp [hvars, hhelp, hget, hset]

end

namespace Builtin

/-- How a call ends that only answers. -/
def outcomeOf : Except OperationFault Response → Outcome
  | .ok r => .response r
  | .error fault => .failure fault

theorem answering_eq (f : List Value → Except OperationFault Response) (target : Target)
    (values : List Value) (w : World) : answering f target values w = (outcomeOf (f values), w) := by
  unfold answering
  cases f values <;> rfl

theorem toResponse_outcomeOf (result : Except OperationFault Response) :
    (outcomeOf result).toResponse = result.mapError .operation := by
  cases result <;> rfl

/-! ### The operations -/

namespace Utility

/-- Writes the content of a file in base64. -/
def encoding : Operation := ⟨"encode_base64", [.ofType "file" .content .required], answering encodeBase64⟩

/-- Reads base64. -/
def decoding : Operation := ⟨"decode_base64", [.ofType "encoded" .text .required], answering decodeBase64⟩

/-- Selects from a document. -/
def selecting : Operation :=
  ⟨"json_select", [.ofType "json_text" .text .required, .ofType "path" .text .required],
    answering jsonSelect⟩

/-- The operations are those that are listed. -/
theorem operations_eq : client.service.operations = [
    ⟨"add_http_header", [.ofType "key" .text .required, .ofType "value" .text .required],
      changingHeaders addHeader⟩,
    ⟨"remove_http_header", [.ofType "key" .text .required], changingHeaders removeHeader⟩,
    encoding, decoding, selecting] :=
  operations_plain (by decide +kernel) (by decide +kernel)

theorem operation_of_mem {o : Operation} (ho : o ∈ client.service.operations) :
    Directory.operation client.service o.name = .ok o := by
  refine Directory.operation_of_mem ?_ ?_ ho
  · rw [operations_eq]
    decide +kernel
  · rw [operations_eq]
    decide +kernel

/-- The line is a command for an operation of the service `Utility`, and the parameters of the operation
take the given arguments, one each. -/
def Calls (line : String) (o : Operation) (given : List Argument) : Prop :=
  ∃ arguments, Command.read line = .ok ⟨"Utility", o.name, arguments⟩ ∧
    assign o.visible arguments = o.visible.zip (given.map some)

end Utility

/-- The operations of the service `Authentication` are those that are listed. -/
theorem Authentication.operations_eq : Authentication.client.service.operations = [
    ⟨"use_token", [.ofType "scheme" .text .required, .ofType "token" .text .required],
      changingHeaders Authentication.useToken⟩,
    ⟨"get_token", [], Authentication.getToken⟩,
    ⟨"reset", [], changingHeaders Authentication.reset⟩] :=
  operations_plain (by decide +kernel) (by decide +kernel)

end Builtin

/-- The service `Utility` of the shell is the built-in one. -/
def Shell.HasUtility (sh : Shell) : Prop :=
  sh.directory.service? "Utility" = some Builtin.Utility.client.service

namespace Builtin.Utility

variable {sh : Shell} {line text path : String} {o : Operation} {given : List Argument} {a b : Argument}
  {vars : Variables} {w : World} {f : List Value → Except OperationFault Response}

theorem Calls.classify (h : Calls line o given) : Shell.classify line = .execute := by
  obtain ⟨arguments, hread, -⟩ := h
  obtain ⟨rest, hline⟩ := Command.service_prefix hread
  have hhead : "Utility".toList = 'U' :: "tility".toList := rfl
  dsimp only at hline
  rw [hhead] at hline
  exact Shell.classify_of_head hline.symm (by decide) (by decide)

/-- An operation that only answers is called with the values of the arguments, one for each parameter. -/
theorem Calls.execute (h : Calls line o given) (hsh : sh.HasUtility)
    (ho : o ∈ client.service.operations) (hf : o.perform = answering f)
    (hapart : flattened? o.formals = none) {bound : List (Parameter × Option Value)}
    (hbound : List.Forall₂ (Scope.Evaluates ⟨vars, w⟩) (o.visible.zip (given.map some)) bound) :
    sh.directory.execute vars w line = ((f (bound.map callValue)).mapError .operation,
      w.withSent (Scope.sentFor ⟨vars, w⟩ (o.visible.zip (given.map some)))) := by
  obtain ⟨arguments, hread, hassign⟩ := h
  have hbind : Scope.bind ⟨vars, w⟩ o.formals arguments = .ok (bound.map callValue) :=
    Scope.bind_eq_ok_iff.2 ⟨bound, hassign ▸ hbound, callValues_of_apart hapart⟩
  have hsent : Scope.sentByBind ⟨vars, w⟩ o.formals arguments =
      Scope.sentFor ⟨vars, w⟩ (o.visible.zip (given.map some)) := congrArg _ hassign
  have hperform (target : Target) (w : World) : o.perform target (bound.map callValue) w =
      (outcomeOf (f (bound.map callValue)), w) := by
    rw [hf, answering_eq]
  rw [Directory.execute_of_read (Directory.read_of_command hread hsh (operation_of_mem ho)),
    call_of_bind_ok hbind, invoke_of_factory rfl (hperform _ _), toResponse_outcomeOf, hsent]

/-- A text asks for nothing. -/
theorem sentFor_text {s : Scope} {p : Parameter} {rest : List Slot} (hp : p.kind = .text)
    (ha : s.textOf a = .ok text) : s.sentFor ((p, some a) :: rest) = s.sentFor rest := by
  have hrequests : s.requestsOf p a = [] := by
    rw [Scope.requestsOf, ha]
    simp only [hp]
  rw [Scope.sentFor, hrequests, Scope.valueOf_text hp ha]
  rfl

theorem withSent_nil (w : World) : w.withSent [] = w := by
  rw [World.withSent, List.append_nil]

theorem execute_selecting (h : Calls line selecting [a, b]) (hsh : sh.HasUtility)
    (ha : Scope.textOf ⟨vars, w⟩ a = .ok text) (hb : Scope.textOf ⟨vars, w⟩ b = .ok path) :
    sh.directory.execute vars w line =
      ((jsonSelect [.text text, .text path]).mapError .operation, w) := by
  have hmem : selecting ∈ client.service.operations := by simp [operations_eq]
  have hbound : List.Forall₂ (Scope.Evaluates ⟨vars, w⟩)
      (selecting.visible.zip ([a, b].map some))
      [(.ofType "json_text" .text .required, some (.text text)),
        (.ofType "path" .text .required, some (.text path))] :=
    .cons (.present (Scope.valueOf_text rfl ha)) (.cons (.present (Scope.valueOf_text rfl hb)) .nil)
  have hsent : Scope.sentFor ⟨vars, w⟩ (selecting.visible.zip ([a, b].map some)) = [] :=
    (sentFor_text rfl ha).trans (sentFor_text rfl hb)
  rw [h.execute hsh hmem rfl rfl hbound, hsent, withSent_nil]
  rfl

theorem execute_decoding (h : Calls line decoding [a]) (hsh : sh.HasUtility)
    (ha : Scope.textOf ⟨vars, w⟩ a = .ok text) : sh.directory.execute vars w line =
      ((decodeBase64 [.text text]).mapError .operation, w) := by
  have hmem : decoding ∈ client.service.operations := by simp [operations_eq]
  have hbound : List.Forall₂ (Scope.Evaluates ⟨vars, w⟩) (decoding.visible.zip ([a].map some))
      [(.ofType "encoded" .text .required, some (.text text))] :=
    .cons (.present (Scope.valueOf_text rfl ha)) .nil
  have hsent : Scope.sentFor ⟨vars, w⟩ (decoding.visible.zip ([a].map some)) = [] :=
    sentFor_text rfl ha
  rw [h.execute hsh hmem rfl rfl hbound, hsent, withSent_nil]
  rfl

/-- Reading the file may ask the web for it. -/
theorem execute_encoding {typeName : String} {content : Bytes} {name : Option String}
    (h : Calls line encoding [a]) (hsh : sh.HasUtility)
    (ha : Scope.valueOf ⟨vars, w⟩ (.ofType "file" .content .required) a =
      .ok (.file typeName content name)) : ∃ requests, sh.directory.execute vars w line =
        (.ok (plainResponse (String.ofList (Base64.encode content)) 200), w.withSent requests) := by
  have hmem : encoding ∈ client.service.operations := by simp [operations_eq]
  have hbound : List.Forall₂ (Scope.Evaluates ⟨vars, w⟩) (encoding.visible.zip ([a].map some))
      [(.ofType "file" .content .required, some (.file typeName content name))] :=
    .cons (.present ha) .nil
  exact ⟨_, h.execute hsh hmem rfl rfl hbound⟩

/-- A shell with the built-in services and no others. -/
def utilityShell : Shell := ⟨⟨builtinCatalog.services⟩, none⟩

/-- A session without variables, over a world with nothing in it. -/
def utilityState : ShellState := .sample .bare ⟨1, ["downloads"]⟩

theorem utilityShell_hasUtility : utilityShell.HasUtility := rfl

end Builtin.Utility

end OperatorConsole
