import OperatorConsole.Proofs.Builtin.Token
import OperatorConsole.Proofs.Catalog.Offered
import OperatorConsole.Proofs.Web.HeaderMap

/-!
Runs of calls on the headers of the shared client. A call changes the value of one name or only asks; it
is refused if the name or the value cannot be written, and then changes nothing. After a run, however
long, a name has the value of the last change that was made of it, in whatever letter case and by
whichever operation, and if there was none the value that it had at first.
-/
namespace OperatorConsole

open Builtin

/-! ### Changes -/

/-- A change of a header: its name, and the value that is written; without one the name is removed. -/
structure HeaderChange where
  name : String
  value : Option String
  deriving DecidableEq, Repr

namespace HeaderChange

variable {c : HeaderChange} {h h' : Headers} {fault : NotAscii}

/-- Makes a change. -/
def apply (c : HeaderChange) (h : Headers) : Except NotAscii Headers :=
  match c.value with
  | some value => h.set c.name value
  | none => h.remove c.name

/-- The change can be made: what is written is ASCII, what is removed is so in small letters. -/
def IsPossible (c : HeaderChange) : Prop :=
  match c.value with
  | some value => notAscii? c.name = none ∧ notAscii? value = none
  | none => notAscii? (String.ofList (Text.lower c.name.toList)) = none

theorem exists_apply_eq_ok_iff : (∃ h', c.apply h = .ok h') ↔ c.IsPossible := by
  unfold apply IsPossible
  cases c.value with
  | some value =>
    simp only [Headers.set_eq_ok_iff]
    constructor
    · rintro ⟨h', hname, hvalue, -⟩
      exact ⟨hname, hvalue⟩
    · rintro ⟨hname, hvalue⟩
      exact ⟨_, hname, hvalue, rfl⟩
  | none =>
    simp only [Headers.remove_eq_ok_iff, Headers.lookupName_eq_ok_iff]
    constructor
    · rintro ⟨h', small, ⟨hsmall, rfl⟩, -⟩
      exact hsmall
    · intro hsmall
      exact ⟨_, _, ⟨hsmall, rfl⟩, rfl⟩

/-- A change that is made gives its name its value, and no other name another one. -/
theorem get?_of_apply (ha : c.apply h = .ok h') (name : String) :
    h'.get? name = if SameName name c.name then .ok c.value else h.get? name := by
  unfold apply at ha
  cases hv : c.value with
  | some value =>
    rw [hv] at ha
    exact Headers.get?_of_set ha name
  | none =>
    rw [hv] at ha
    exact Headers.get?_of_remove ha name

/-- A change leaves the lines of all other names as they stand. -/
theorem without_of_apply (ha : c.apply h = .ok h') {small : String}
    (hsmall : Headers.lookupName c.name = .ok small) : h'.without small = h.without small := by
  unfold apply at ha
  cases hv : c.value with
  | some value =>
    rw [hv] at ha
    obtain ⟨hname, -, rfl⟩ := Headers.set_eq_ok_iff.1 ha
    rw [Headers.lookupName_of_ascii hname] at hsmall
    cases hsmall
    exact Headers.without_withValue h
  | none =>
    rw [hv] at ha
    obtain ⟨found, hfound, rfl⟩ := Headers.remove_eq_ok_iff.1 ha
    rw [hfound] at hsmall
    cases hsmall
    exact Headers.without_without h

/-- The last change of a name. -/
def last? (name : String) (changes : List HeaderChange) : Option HeaderChange :=
  (changes.filter fun c => SameName name c.name).getLast?

/-- The value of a name after changes, from the value that it had before them. -/
def valueAfter (name : String) (changes : List HeaderChange) (before : Except NotAscii (Option String)) :
    Except NotAscii (Option String) :=
  match last? name changes with
  | some c => .ok c.value
  | none => before

theorem valueAfter_nil (name : String) (before : Except NotAscii (Option String)) :
    valueAfter name [] before = before := rfl

theorem valueAfter_singleton (name : String) (c : HeaderChange)
    (before : Except NotAscii (Option String)) : valueAfter name [c] before =
      if SameName name c.name then .ok c.value else before := by
  by_cases h : SameName name c.name <;> simp [valueAfter, last?, h]

theorem valueAfter_append (name : String) (earlier later : List HeaderChange)
    (before : Except NotAscii (Option String)) : valueAfter name (earlier ++ later) before =
      valueAfter name later (valueAfter name earlier before) := by
  unfold valueAfter
  rw [last?, List.filter_append, List.getLast?_append, ← last?, ← last?]
  cases last? name later <;> rfl

/-- The sign for kelvin is a `k` in small letters. -/
example : valueAfter "x-key" [⟨"X-Key", some "1"⟩, ⟨"x-\u212Aey", none⟩, ⟨"accept", some "*/*"⟩]
    (.ok (some "0")) = .ok none := by
  rw [valueAfter, show last? _ _ = some ⟨"x-\u212Aey", none⟩ by decide +kernel]

end HeaderChange

/-! ### Calls -/

/-- A call of a built-in operation on the headers of the shared client. -/
inductive HeaderCall where
  | add (key value : String)
  | remove (key : String)
  | useToken (scheme token : String)
  | getToken
  | reset
  deriving DecidableEq, Repr

namespace HeaderCall

open HeaderChange

/-- The service of the operation. -/
def service : HeaderCall → String
  | .add .. | .remove .. => "Utility"
  | .useToken .. | .getToken | .reset => "Authentication"

/-- The verb of the operation. -/
def verb : HeaderCall → String
  | .add .. => "add_http_header"
  | .remove .. => "remove_http_header"
  | .useToken .. => "use_token"
  | .getToken => "get_token"
  | .reset => "reset"

/-- What the operation is called with. -/
def arguments : HeaderCall → List Value
  | .add key value => [.text key, .text value]
  | .remove key => [.text key]
  | .useToken scheme token => [.text scheme, .text token]
  | .getToken | .reset => []

/-- What the operation is called on: the client of its service, which holds nothing of its own. -/
def target : HeaderCall → Target
  | .add .. | .remove .. => ⟨Utility.client.name, []⟩
  | .useToken .. | .getToken | .reset => ⟨Authentication.client.name, []⟩

/-- What the operation does. -/
def deed : HeaderCall → Target → List Value → World → Outcome × World
  | .add .. => changingHeaders Utility.addHeader
  | .remove .. => changingHeaders Utility.removeHeader
  | .useToken .. => changingHeaders Authentication.useToken
  | .getToken => Authentication.getToken
  | .reset => changingHeaders Authentication.reset

/-- The change that the call makes if it is not refused. -/
def change? : HeaderCall → Option HeaderChange
  | .add key value => some ⟨key, some value⟩
  | .remove key => some ⟨key, none⟩
  | .useToken scheme token => some ⟨Authentication.headerName, some (scheme ++ " " ++ token)⟩
  | .getToken => none
  | .reset => some ⟨Authentication.headerName, none⟩

/-- Makes the call. -/
def perform (call : HeaderCall) (w : World) : Outcome × World :=
  call.deed call.target call.arguments w

/-- The call is answered. -/
def succeeds (call : HeaderCall) (w : World) : Bool :=
  match (call.perform w).1 with
  | .response _ => true
  | _ => false

/-- Makes calls one after another. -/
def run (calls : List HeaderCall) (w : World) : World := calls.foldl (fun w call => (call.perform w).2) w

/-- The change that a call makes. -/
def made (call : HeaderCall) (w : World) : List HeaderChange :=
  if call.succeeds w then call.change?.toList else []

/-- The changes that calls make one after another. -/
def changes : List HeaderCall → World → List HeaderChange
  | [], _ => []
  | call :: calls, w => call.made w ++ changes calls (call.perform w).2

/-! ### The operations of the built-in services -/

/-- A name that alone has a verb stands for the only operation of that verb. -/
theorem exists_operation_of_names {client : Client} {verb name : String} {m : Method}
    (hnames : (client.service.operations.filter (·.verb == verb)).map (·.name) = [name])
    (hm : client.operationUnder? name = some m) :
    ∃ o, client.service.operations.filter (·.verb == verb) = [o] ∧ o.perform = m.perform := by
  obtain ⟨o, ho, rfl⟩ := List.map_eq_singleton_iff.1 hnames
  have hmem : o ∈ client.service.operations := by
    have hfilter : o ∈ client.service.operations.filter (·.verb == verb) := by
      rw [ho]
      exact List.mem_singleton_self o
    exact (List.mem_filter.1 hfilter).1
  obtain ⟨-, n, hn, hoperation⟩ := mem_operations_iff.1 hmem
  obtain rfl : m = n := Option.some_inj.1 (hm.symm.trans hn)
  rw [Method.operation?, Option.map_eq_some_iff] at hoperation
  obtain ⟨formals, -, rfl⟩ := hoperation
  exact ⟨_, ho, rfl⟩

/-- The built-in services offer the operation, and no other one under its verb, on the client that is made
for the call. -/
def IsOffered (call : HeaderCall) : Prop :=
  ∃ s ∈ builtinCatalog.services, s.name = call.service ∧ (∀ w, s.factory w = (.ok call.target, w)) ∧
    ∃ o, s.operations.filter (·.verb == call.verb) = [o] ∧ o.perform = call.deed

theorem isOffered (call : HeaderCall) : call.IsOffered := by
  have hutility : Utility.client.service ∈ builtinCatalog.services := List.mem_cons_self
  have hutilityVerbs : ∀ verb ∈ ["add_http_header", "remove_http_header"],
      (Utility.client.service.operations.filter (·.verb == verb)).map (·.name) = [verb] := by
    decide +kernel
  have hauthentication : Authentication.client.service ∈ builtinCatalog.services :=
    List.mem_cons_of_mem _ List.mem_cons_self
  have hauthenticationVerbs : ∀ verb ∈ ["use_token", "get_token", "reset"],
      (Authentication.client.service.operations.filter (·.verb == verb)).map (·.name) = [verb] := by
    decide +kernel
  have hutilityName : Utility.client.service.name = "Utility" := by decide +kernel
  have hauthenticationName : Authentication.client.service.name = "Authentication" := by
    decide +kernel
  cases call with
  | add key value =>
    exact ⟨_, hutility, hutilityName, fun _ => rfl,
      exists_operation_of_names (hutilityVerbs "add_http_header" (by simp)) rfl⟩
  | remove key =>
    exact ⟨_, hutility, hutilityName, fun _ => rfl,
      exists_operation_of_names (hutilityVerbs "remove_http_header" (by simp)) rfl⟩
  | useToken scheme token =>
    exact ⟨_, hauthentication, hauthenticationName, fun _ => rfl,
      exists_operation_of_names (hauthenticationVerbs "use_token" (by simp)) rfl⟩
  | getToken =>
    exact ⟨_, hauthentication, hauthenticationName, fun _ => rfl,
      exists_operation_of_names (hauthenticationVerbs "get_token" (by simp)) rfl⟩
  | reset =>
    exact ⟨_, hauthentication, hauthenticationName, fun _ => rfl,
      exists_operation_of_names (hauthenticationVerbs "reset" (by simp)) rfl⟩

/-! ### One call -/

variable {call : HeaderCall} {w : World} {c : HeaderChange}

theorem changingHeaders_of_change (f : List Value → Headers → Except OperationFault Headers)
    (target : Target) (arguments : List Value) (c : HeaderChange)
    (hf : ∀ h, f arguments h = (c.apply h).mapError .notAscii) (w : World) :
    changingHeaders f target arguments w = match c.apply w.client.headers with
      | .ok headers => (.response (.ofStatus 200), w.withHeaders headers)
      | .error fault => (.failure (.notAscii fault), w) := by
  rw [changingHeaders, hf]
  cases c.apply w.client.headers <;> rfl

/-- A call that changes something makes its change, or is refused and leaves everything as it was. -/
theorem perform_of_change (hc : call.change? = some c) : call.perform w =
    match c.apply w.client.headers with
    | .ok headers => (.response (.ofStatus 200), w.withHeaders headers)
    | .error fault => (.failure (.notAscii fault), w) := by
  cases call with
  | add key value =>
    cases hc
    exact changingHeaders_of_change Utility.addHeader (add key value).target
      [.text key, .text value] ⟨key, some value⟩ (fun _ => rfl) w
  | remove key =>
    cases hc
    exact changingHeaders_of_change Utility.removeHeader (remove key).target [.text key] ⟨key, none⟩
      (fun _ => rfl) w
  | useToken scheme token =>
    cases hc
    exact changingHeaders_of_change Authentication.useToken (useToken scheme token).target
      [.text scheme, .text token] ⟨Authentication.headerName, some (scheme ++ " " ++ token)⟩
      (fun _ => rfl) w
  | getToken => cases hc
  | reset =>
    cases hc
    exact changingHeaders_of_change Authentication.reset reset.target []
      ⟨Authentication.headerName, none⟩ (fun _ => rfl) w

/-- All that a call can do: it answers a question, makes its change, or is refused. -/
theorem perform_cases (call : HeaderCall) (w : World) :
    (call.change? = none ∧ ∃ r, call.perform w = (.response r, w)) ∨
    (∃ c, call.change? = some c ∧ c.IsPossible ∧ ∃ headers, c.apply w.client.headers = .ok headers ∧
      call.perform w = (.response (.ofStatus 200), w.withHeaders headers)) ∨
    (∃ c, call.change? = some c ∧ ¬ c.IsPossible ∧
      ∃ fault, call.perform w = (.failure (.notAscii fault), w)) := by
  cases hc : call.change? with
  | none =>
    cases call with
    | getToken =>
      obtain ⟨r, hr⟩ := Authentication.exists_getToken getToken.target [] w
      exact .inl ⟨rfl, r, Prod.ext hr (Authentication.getToken_world getToken.target [] w)⟩
    | add | remove | useToken | reset => cases hc
  | some c =>
    rw [perform_of_change hc]
    cases ha : c.apply w.client.headers with
    | ok headers => exact .inr (.inl ⟨c, rfl, exists_apply_eq_ok_iff.1 ⟨headers, ha⟩, headers, ha, rfl⟩)
    | error fault =>
      refine .inr (.inr ⟨c, rfl, fun h => ?_, fault, rfl⟩)
      obtain ⟨headers, hok⟩ := exists_apply_eq_ok_iff.2 h
      rw [ha] at hok
      cases hok

/-- A call is refused exactly if it would make a change that cannot be made. -/
theorem succeeds_iff : call.succeeds w = true ↔ ∀ c ∈ call.change?, c.IsPossible := by
  rcases perform_cases call w with ⟨hc, r, hr⟩ | ⟨c, hc, h, headers, -, hr⟩ | ⟨c, hc, h, fault, hr⟩
  · simp [succeeds, hr, hc]
  · simp [succeeds, hr, hc, h]
  · simp [succeeds, hr, hc, h]

/-- What a call does, in whatever state the headers are. -/
structure Behaves (call : HeaderCall) (w : World) : Prop where
  /-- It is answered exactly if what it writes or removes, if anything, is in order. -/
  succeeds_iff : call.succeeds w = true ↔ ∀ c ∈ call.change?, c.IsPossible
  /-- If it is refused, everything stays as it was. -/
  refused : call.succeeds w = false → ∃ fault, call.perform w = (.failure (.notAscii fault), w)
  /-- A question leaves everything as it was. -/
  asked : call.change? = none → (call.perform w).2 = w
  /-- Else it is answered with success, and the headers are those with its change. -/
  changed : ∀ c, call.change? = some c → call.succeeds w = true → ∃ headers,
    c.apply w.client.headers = .ok headers ∧
      call.perform w = (.response (.ofStatus 200), w.withHeaders headers)
  /-- The lines of other names stand as they stood. -/
  others : ∀ c, call.change? = some c → ∀ small, Headers.lookupName c.name = .ok small →
    (call.perform w).2.client.headers.without small = w.client.headers.without small

theorem behaves (call : HeaderCall) (w : World) : call.Behaves w := by
  have hiff : call.succeeds w = true ↔ ∀ c ∈ call.change?, c.IsPossible := succeeds_iff
  rcases perform_cases call w with ⟨hc, r, hr⟩ | ⟨c, hc, h, headers, ha, hr⟩ | ⟨c, hc, h, fault, hr⟩
  · have hs : call.succeeds w = true := hiff.2 (by simp [hc])
    constructor
    case succeeds_iff => exact hiff
    case refused => simp [hs]
    case asked => simp [hr]
    case changed => simp [hc]
    case others => simp [hc]
  · have hs : call.succeeds w = true := hiff.2 (by simpa [hc] using h)
    constructor
    case succeeds_iff => exact hiff
    case refused => simp [hs]
    case asked => simp [hc]
    case changed =>
      rintro c' hc' -
      obtain rfl : c = c' := Option.some_inj.1 (hc.symm.trans hc')
      exact ⟨headers, ha, hr⟩
    case others =>
      intro c' hc' small hsmall
      obtain rfl : c = c' := Option.some_inj.1 (hc.symm.trans hc')
      rw [hr]
      exact without_of_apply ha hsmall
  · have hs : ¬ call.succeeds w = true := by simpa [hiff, hc] using h
    constructor
    case succeeds_iff => exact hiff
    case refused => exact fun _ => ⟨fault, hr⟩
    case asked => simp [hc]
    case changed => exact fun _ _ hsucceeds => absurd hsucceeds hs
    case others => simp [hr]

/-! ### Runs -/

theorem run_cons (calls : List HeaderCall) : run (call :: calls) w = run calls (call.perform w).2 := rfl

/-- A call changes the headers at most. -/
theorem exists_perform_eq_withHeaders (call : HeaderCall) (w : World) :
    ∃ headers, (call.perform w).2 = w.withHeaders headers := by
  rcases perform_cases call w with ⟨-, r, hr⟩ | ⟨c, -, -, headers, -, hr⟩ | ⟨c, -, -, fault, hr⟩
  · exact ⟨w.client.headers, by rw [hr]; rfl⟩
  · exact ⟨headers, by rw [hr]⟩
  · exact ⟨w.client.headers, by rw [hr]; rfl⟩

/-- After a call a name has the value that the call gives it, if any. -/
theorem get?_perform (call : HeaderCall) (w : World) (name : String) :
    (call.perform w).2.client.headers.get? name =
      HeaderChange.valueAfter name (call.made w) (w.client.headers.get? name) := by
  by_cases hs : call.succeeds w = true
  · rw [made, if_pos hs]
    cases hc : call.change? with
    | none =>
      rw [(behaves call w).asked hc]
      exact (HeaderChange.valueAfter_nil name _).symm
    | some c =>
      obtain ⟨headers, ha, hr⟩ := (behaves call w).changed c hc hs
      rw [hr]
      exact (HeaderChange.get?_of_apply ha name).trans (HeaderChange.valueAfter_singleton name c _).symm
  · obtain ⟨fault, hr⟩ := (behaves call w).refused (by simpa using hs)
    rw [hr, made, if_neg hs, HeaderChange.valueAfter_nil]

theorem get?_run (name : String) : ∀ (calls : List HeaderCall) (w : World),
    (run calls w).client.headers.get? name =
      HeaderChange.valueAfter name (changes calls w) (w.client.headers.get? name)
  | [], w => rfl
  | call :: calls, w => by
    rw [run_cons, get?_run name calls, get?_perform, changes, HeaderChange.valueAfter_append]

theorem exists_run_eq_withHeaders : ∀ (calls : List HeaderCall) (w : World),
    ∃ headers, run calls w = w.withHeaders headers
  | [], w => ⟨w.client.headers, rfl⟩
  | call :: calls, w => by
    obtain ⟨first, hfirst⟩ := exists_perform_eq_withHeaders call w
    obtain ⟨headers, hheaders⟩ := exists_run_eq_withHeaders calls (w.withHeaders first)
    refine ⟨headers, ?_⟩
    rw [run_cons, hfirst, hheaders]
    rfl

/-! ### Credentials -/

/-- What the question for credentials is answered with, in whatever state the headers are. -/
structure TellsCredentials (w : World) : Prop where
  /-- The name is in order. -/
  found : ∃ value?, w.client.headers.get? Authentication.headerName = .ok value?
  /-- The answer is empty exactly without credentials. -/
  empty_iff : (getToken.perform w).1 = .response (.ofStatus 200) ↔
    w.client.headers.get? Authentication.headerName = .ok none ∨
      w.client.headers.get? Authentication.headerName = .ok (some "")
  /-- Else it tells what stands before the first blank, and all that follows it. -/
  told : ∀ value, w.client.headers.get? Authentication.headerName = .ok (some value) → value ≠ "" →
    ∃ scheme parameter r, ' ' ∉ scheme.toList ∧
      (value = scheme ++ " " ++ parameter ∨ value = scheme ∧ parameter = "") ∧
      (getToken.perform w).1 = .response r ∧ r.Tells scheme parameter
  /-- Credentials that were just written come back if there is no blank in the scheme. -/
  written : ∀ scheme token, (useToken scheme token).succeeds w = true → ' ' ∉ scheme.toList →
    ∃ r, (getToken.perform ((useToken scheme token).perform w).2).1 = .response r ∧
      r.Tells scheme token

theorem tellsCredentials (w : World) : TellsCredentials w where
  found := Authentication.get?_headerName w.client.headers
  empty_iff := Authentication.getToken_eq_empty_iff getToken.target []
  told value hvalue hne := by
    by_cases hblank : ' ' ∈ value.toList
    · obtain ⟨scheme, parameter, hsplit, hscheme⟩ := List.eq_append_cons_of_mem hblank
      have hscheme' : ' ' ∉ (String.ofList scheme).toList := by rwa [String.toList_ofList]
      have hjoin : value = String.ofList scheme ++ " " ++ String.ofList parameter := by
        refine String.toList_injective ?_
        simpa using hsplit
      rw [hjoin] at hvalue
      obtain ⟨r, hr, htells⟩ := Authentication.getToken_tells hvalue hscheme' getToken.target []
      exact ⟨_, _, r, hscheme', .inl hjoin, hr, htells⟩
    · obtain ⟨r, hr, htells⟩ := Authentication.getToken_tells_of_no_blank hvalue hne hblank getToken.target []
      exact ⟨value, "", r, hblank, .inr ⟨rfl, rfl⟩, hr, htells⟩
  written scheme token hs hscheme := by
    refine Authentication.getToken_tells ?_ hscheme getToken.target []
    rw [get?_perform, made, if_pos hs]
    exact (HeaderChange.valueAfter_singleton _ _ _).trans (if_pos rfl)

/-- After any run of calls, from any state, a name has the value of the last change of it that was made,
or else the value that it had at first; nothing but the headers has changed. In the state that is reached
every call is answered or refused as a whole, and touches one name only; the question for credentials is
answered with those that stand there. The calls are those of the operations that are offered. -/
theorem headerCalls_last_wins (calls : List HeaderCall) (w : World) :
    (∀ name, (run calls w).client.headers.get? name =
      HeaderChange.valueAfter name (changes calls w) (w.client.headers.get? name)) ∧
    (∃ headers, run calls w = w.withHeaders headers) ∧
    (∀ call : HeaderCall, call.IsOffered ∧ call.Behaves (run calls w)) ∧
    TellsCredentials (run calls w) :=
  ⟨fun name => get?_run name calls w, exists_run_eq_withHeaders calls w,
    fun call => ⟨isOffered call, behaves call (run calls w)⟩, tellsCredentials (run calls w)⟩

end HeaderCall

end OperatorConsole
