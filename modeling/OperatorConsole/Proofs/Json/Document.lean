import OperatorConsole.Json.Reader
import OperatorConsole.Proofs.Json.Text
import OperatorConsole.Proofs.Number.Numeral
import OperatorConsole.Proofs.Steps

/-!
Documents as tokens. A document has one row of tokens: its strings, words and numbers in order, between
the marks of its containers. The reader comes to a document exactly from a text with the tokens of that
document, unless more containers are open at once than it allows; then it says so.

While the reader is on its way, what it has taken is told by the containers that are open (`Comes`): a
step adds its token to that, and so a run adds all of its tokens.
-/
namespace OperatorConsole.Json

/-! ### The tokens of a document -/

mutual

/-- The tokens of a document; in a container no comma follows the last part. -/
def lexemes : Json → List Lexeme
  | .text points => [.text points]
  | .list items => .mark '[' :: ((listed items).dropLast ++ [.mark ']'])
  | .object members => .mark '{' :: ((named members).dropLast ++ [.mark '}'])
  | v => [.scalar v]

/-- The tokens of the parts of a list, with a comma after each. -/
def listed : List Json → List Lexeme
  | [] => []
  | v :: rest => lexemes v ++ .mark ',' :: listed rest

/-- The tokens of the members of an object, with a comma after each. -/
def named : List (CodePoints × Json) → List Lexeme
  | [] => []
  | (key, v) :: rest => .text key :: .mark ':' :: (lexemes v ++ .mark ',' :: named rest)

end

mutual

/-- How many containers stand inside each other, empty ones among them. -/
def nesting : Json → Nat
  | .list items => nestingItems items + 1
  | .object members => nestingMembers members + 1
  | _ => 0

/-- The deepest nesting in the parts of a list. -/
def nestingItems : List Json → Nat
  | [] => 0
  | v :: rest => max (nesting v) (nestingItems rest)

/-- The deepest nesting in the members of an object. -/
def nestingMembers : List (CodePoints × Json) → Nat
  | [] => 0
  | (_, v) :: rest => max (nesting v) (nestingMembers rest)

end

/-- A word or a number. -/
def IsScalar : Json → Prop
  | .null | .bool _ | .int _ | .float _ => True
  | .text _ | .list _ | .object _ => False

/-- The token is one that a text can hold: whole numbers are short enough to be read, and the halves of
pairs in strings are joined. -/
def Lexeme.IsProper : Lexeme → Prop
  | .scalar (.int n) => Numeral.IsShort n
  | .scalar v => IsScalar v
  | .text points => IsJoined points
  | _ => True

variable {v : Json} {items rest : List Json} {members : List (CodePoints × Json)} {key name : CodePoints}
  {ls more : List Lexeme} {l : Lexeme}

theorem lexemes_of_isScalar (h : IsScalar v) : lexemes v = [.scalar v] := by
  cases v with
  | null | bool | int | float => rw [lexemes] <;> simp
  | text | list | object => exact h.elim

theorem isScalar_of_isProper (h : (Lexeme.scalar v).IsProper) : IsScalar v := by
  cases v with
  | int => trivial
  | null | bool | float | text | list | object => exact h

theorem listed_append : ∀ items rest : List Json, listed (items ++ rest) = listed items ++ listed rest
  | [], rest => by simp [listed]
  | v :: items, rest => by simp [listed, listed_append items rest]

theorem named_append : ∀ members others : List (CodePoints × Json),
    named (members ++ others) = named members ++ named others
  | [], others => by simp [named]
  | (key, v) :: members, others => by simp [named, named_append members others]

/-- A list is closed after its last part. -/
theorem lexemes_list_concat (items : List Json) (v : Json) : lexemes (.list (items ++ [v])) =
    .mark '[' :: (listed items ++ lexemes v ++ [.mark ']']) := by
  have hlast : listed (items ++ [v]) = listed items ++ lexemes v ++ [.mark ','] := by
    simp [listed_append, listed]
  rw [lexemes, hlast, List.dropLast_concat]

theorem lexemes_object_concat (members : List (CodePoints × Json)) (key : CodePoints) (v : Json) :
    lexemes (.object (members ++ [(key, v)])) =
      .mark '{' :: (named members ++ .text key :: .mark ':' :: lexemes v ++ [.mark '}']) := by
  have hlast : named (members ++ [(key, v)]) =
      named members ++ .text key :: .mark ':' :: lexemes v ++ [.mark ','] := by
    simp [named_append, named]
  rw [lexemes, hlast, List.dropLast_concat]

/-! ### What was taken -/

/-- The tokens in front of the value that open containers wait for. -/
def opened : List Frame → List Lexeme
  | [] => []
  | .list items :: frames => opened frames ++ .mark '[' :: listed items.reverse
  | .object members name :: frames =>
    opened frames ++ .mark '{' :: (named members.reverse ++ [.text name, .mark ':'])

/-- A state, and the tokens that lead to it. -/
inductive Comes : State → List Lexeme → Prop
  | value {frames : List Frame} {document : Json} : Comes ⟨frames, .value, document⟩ (opened frames)
  | listBegun {frames : List Frame} {document : Json} :
      Comes ⟨.list [] :: frames, .valueOrClose, document⟩ (opened frames ++ [.mark '['])
  | objectBegun {frames : List Frame} {document : Json} {name : CodePoints} :
      Comes ⟨.object [] name :: frames, .nameOrClose, document⟩ (opened frames ++ [.mark '{'])
  | name {frames : List Frame} {document : Json} {members : List (CodePoints × Json)}
      {name : CodePoints} : Comes ⟨.object members name :: frames, .name, document⟩
        (opened frames ++ .mark '{' :: named members.reverse)
  | colon {frames : List Frame} {document : Json} {members : List (CodePoints × Json)}
      {name : CodePoints} : Comes ⟨.object members name :: frames, .colon, document⟩
        (opened frames ++ .mark '{' :: (named members.reverse ++ [.text name]))
  | item {frames : List Frame} {document v : Json} {items : List Json} :
      Comes ⟨.list (v :: items) :: frames, .comma, document⟩
        (opened frames ++ .mark '[' :: (listed items.reverse ++ lexemes v))
  | member {frames : List Frame} {document v : Json} {members : List (CodePoints × Json)}
      {key name : CodePoints} : Comes ⟨.object ((key, v) :: members) name :: frames, .comma, document⟩
        (opened frames ++ .mark '{' :: (named members.reverse ++ .text key :: .mark ':' :: lexemes v))
  | done {document : Json} : Comes ⟨[], .done, document⟩ (lexemes document)

variable {limit : Nat} {s s' : State} {t : Token} {frames : List Frame}
  {document : Json} {next : Next}

theorem comes_start : Comes .start [] := .value

/-- A value that is delivered stands behind what its container had waited with. -/
theorem comes_deliver (frames : List Frame) (next : Next) (document v : Json) :
    Comes (State.deliver ⟨frames, next, document⟩ v) (opened frames ++ lexemes v) := by
  match frames with
  | [] => exact .done
  | .list items :: frames =>
    have hitem : Comes (State.deliver ⟨.list items :: frames, next, document⟩ v)
        (opened frames ++ .mark '[' :: (listed items.reverse ++ lexemes v)) := .item
    simpa [opened] using hitem
  | .object members name :: frames =>
    have hmember : Comes (State.deliver ⟨.object members name :: frames, next, document⟩ v)
        (opened frames ++ .mark '{' :: (named members.reverse ++ .text name :: .mark ':' :: lexemes v)) :=
      .member
    simpa [opened] using hmember

theorem close_list (frames : List Frame) (next : Next) (document : Json) (items : List Json) :
    State.close ⟨.list items :: frames, next, document⟩ =
      State.deliver ⟨frames, next, document⟩ (.list items.reverse) := rfl

theorem close_object (frames : List Frame) (next : Next) (document : Json)
    (members : List (CodePoints × Json)) (name : CodePoints) :
    State.close ⟨.object members name :: frames, next, document⟩ =
      State.deliver ⟨frames, next, document⟩ (.object members.reverse) := rfl

theorem comes_open {isObject : Bool} {place : Nat}
    (h : State.open limit ⟨frames, next, document⟩ isObject place = .ok s') :
    Comes s' (opened frames ++ [.mark (if isObject then '{' else '[')]) := by
  unfold State.open at h
  split_ifs at h with hfull hobject
  · cases h
    rw [if_pos hobject]
    exact .objectBegun
  · cases h
    rw [if_neg hobject]
    exact .listBegun

theorem comes_takeValue (ht : t.lexeme.IsProper)
    (h : takeValue limit ⟨frames, next, document⟩ t = .ok s') :
    Comes s' (opened frames ++ [t.lexeme]) := by
  obtain ⟨lexeme, place⟩ := t
  cases lexeme with
  | scalar v =>
    cases h
    have hdeliver := comes_deliver frames next document v
    rwa [lexemes_of_isScalar (isScalar_of_isProper ht)] at hdeliver
  | text points =>
    cases h
    have hdeliver := comes_deliver frames next document (.text points)
    rwa [lexemes] at hdeliver
  | mark c =>
    simp only [takeValue] at h
    split at h
    · next heq => cases heq
    · next heq => cases heq
    · next heq => cases heq
    · next heq => cases heq
    · next heq =>
      cases heq
      exact comes_open h
    · next heq =>
      cases heq
      exact comes_open h
    · cases h
  | badText | badNumber | junk => cases h

theorem takeName_eq_ok (h : takeName ⟨.object members name :: frames, next, document⟩ t = .ok s') :
    ∃ points, t.lexeme = .text points ∧ s' = ⟨.object members points :: frames, .colon, document⟩ := by
  obtain ⟨lexeme, place⟩ := t
  cases lexeme with
  | text points =>
    cases h
    exact ⟨points, rfl, rfl⟩
  | mark | scalar | badText | badNumber | junk => cases h

theorem isMark_iff {c : Char} : t.isMark c = true ↔ t.lexeme = .mark c := by
  unfold Token.isMark
  cases t.lexeme <;> simp

/-- An item is followed by the end of its list, or by a comma. -/
theorem comes_afterItem {v : Json} {items : List Json}
    (h : step limit ⟨.list (v :: items) :: frames, .comma, document⟩ t = .ok s') :
    Comes s' ((opened frames ++ .mark '[' :: (listed items.reverse ++ lexemes v)) ++ [t.lexeme]) := by
  simp only [step] at h
  split_ifs at h with hclose hcomma
  · cases h
    have hmark : t.lexeme = .mark ']' := isMark_iff.1 hclose
    have hclosed := comes_deliver frames .comma document (.list (v :: items).reverse)
    rw [← close_list, List.reverse_cons, lexemes_list_concat] at hclosed
    rw [hmark]
    simpa using hclosed
  · cases h
    have hvalue : Comes (State.afterComma ⟨.list (v :: items) :: frames, .comma, document⟩)
        (opened (.list (v :: items) :: frames)) := .value
    rw [isMark_iff.1 hcomma]
    simpa [opened, listed_append, listed] using hvalue

/-- A member is followed by the end of its object, or by a comma. -/
theorem comes_afterMember {v : Json} {key : CodePoints}
    (h : step limit ⟨.object ((key, v) :: members) name :: frames, .comma, document⟩ t = .ok s') :
    Comes s' ((opened frames ++ .mark '{' ::
      (named members.reverse ++ .text key :: .mark ':' :: lexemes v)) ++ [t.lexeme]) := by
  simp only [step] at h
  split_ifs at h with hclose hcomma
  · cases h
    have hmark : t.lexeme = .mark '}' := isMark_iff.1 hclose
    have hclosed := comes_deliver frames .comma document (.object ((key, v) :: members).reverse)
    rw [← close_object _ _ _ _ name, List.reverse_cons, lexemes_object_concat] at hclosed
    rw [hmark]
    simpa using hclosed
  · cases h
    have hname : Comes (State.afterComma ⟨.object ((key, v) :: members) name :: frames, .comma, document⟩)
        (opened frames ++ .mark '{' :: named ((key, v) :: members).reverse) := .name
    rw [isMark_iff.1 hcomma]
    simpa [named_append, named] using hname

/-- A step adds its token to those that were taken. -/
theorem comes_step (hs : Comes s ls) (ht : t.lexeme.IsProper) (h : step limit s t = .ok s') :
    Comes s' (ls ++ [t.lexeme]) := by
  cases hs with
  | value => exact comes_takeValue ht h
  | @listBegun frames document =>
    simp only [step] at h
    split_ifs at h with hclose
    · cases h
      have hdeliver := comes_deliver frames .valueOrClose document (.list [])
      rw [isMark_iff.1 hclose, List.append_assoc]
      rwa [lexemes] at hdeliver
    · have hvalue := comes_takeValue ht h
      rwa [opened, List.reverse_nil, listed] at hvalue
  | @objectBegun frames document name =>
    simp only [step] at h
    split_ifs at h with hclose
    · cases h
      have hdeliver := comes_deliver frames .nameOrClose document (.object [])
      rw [isMark_iff.1 hclose, List.append_assoc]
      rwa [lexemes] at hdeliver
    · obtain ⟨points, hpoints, rfl⟩ := takeName_eq_ok h
      rw [hpoints, List.append_assoc]
      exact .colon
  | @name frames document members name =>
    obtain ⟨points, hpoints, rfl⟩ := takeName_eq_ok h
    rw [hpoints, List.append_assoc]
    exact .colon
  | @colon frames document members name =>
    simp only [step] at h
    split_ifs at h with hcolon
    cases h
    have hvalue : Comes ⟨.object members name :: frames, .value, document⟩
        (opened (.object members name :: frames)) := .value
    rw [isMark_iff.1 hcolon]
    simpa [opened] using hvalue
  | item => exact comes_afterItem h
  | member => exact comes_afterMember h
  | done => cases h

/-- A run adds all of its tokens. -/
theorem comes_foldlM : ∀ {ts : List Token} {s : State} {ls : List Lexeme}, Comes s ls →
    (∀ t ∈ ts, t.lexeme.IsProper) → ts.foldlM (step limit) s = .ok s' →
    Comes s' (ls ++ ts.map (·.lexeme))
  | [], s, ls, hs, _, h => by
    cases h
    rwa [List.map_nil, List.append_nil]
  | t :: ts, s, ls, hs, hproper, h => by
    obtain ⟨middle, hstep, hrest⟩ := andThen_eq_ok_iff.1 h
    have hmiddle := comes_step hs (hproper t (by simp)) hstep
    have hrun := comes_foldlM hmiddle (fun u hu => hproper u (by simp [hu])) hrest
    simpa using hrun

theorem lexemes_of_finish (hs : Comes s ls) (h : s.finish = .ok v) : ls = lexemes v := by
  cases hs with
  | done =>
    cases h
    rfl
  | value | listBegun | objectBegun | name | colon | item | member => cases h

/-! ### Every document is read -/

/-- The reader takes tokens from one state to another, wherever they stand in the text. -/
def Runs (limit : Nat) (s : State) (ls : List Lexeme) (s' : State) : Prop :=
  ∀ ts : List Token, ts.map (·.lexeme) = ls → ts.foldlM (step limit) s = .ok s'

theorem runs_nil : Runs limit s [] s := by
  intro ts hts
  rw [List.map_eq_nil_iff.1 hts]
  rfl

theorem Runs.cons {middle : State} (hstep : ∀ place, step limit s ⟨l, place⟩ = .ok middle)
    (hrest : Runs limit middle ls s') : Runs limit s (l :: ls) s' := by
  intro ts hts
  obtain ⟨⟨lexeme, place⟩, rest, rfl, rfl, hmap⟩ := List.map_eq_cons_iff.1 hts
  rw [List.foldlM_cons, hstep, ok_bind, hrest rest hmap]

theorem Runs.append {middle : State} (hfirst : Runs limit s ls middle)
    (hrest : Runs limit middle more s') : Runs limit s (ls ++ more) s' := by
  intro ts hts
  obtain ⟨first, rest, rfl, hfirstMap, hrestMap⟩ := List.map_eq_append_iff.1 hts
  rw [List.foldlM_append, hfirst first hfirstMap, ok_bind, hrest rest hrestMap]

/-- A value may come next. -/
def TakesValue (next : Next) : Prop := next = .value ∨ next = .valueOrClose

theorem runs_isScalar (hnext : TakesValue s.next) (hv : IsScalar v) :
    Runs limit s (lexemes v) (s.deliver v) := by
  rw [lexemes_of_isScalar hv]
  refine .cons (fun place => ?_) runs_nil
  rcases hnext with hnext | hnext <;> simp [step, hnext, Token.isMark, takeValue]

theorem step_text (hnext : TakesValue s.next) {points : CodePoints} (place : Nat) :
    step limit s ⟨.text points, place⟩ = .ok (s.deliver (.text points)) := by
  rcases hnext with hnext | hnext <;> simp [step, hnext, Token.isMark, takeValue]

theorem step_openList (hnext : TakesValue s.next) (hroom : s.frames.length < limit) (place : Nat) :
    step limit s ⟨.mark '[', place⟩ = .ok ⟨.list [] :: s.frames, .valueOrClose, s.document⟩ := by
  have hopen : ¬ limit ≤ s.frames.length := Nat.not_le.2 hroom
  rcases hnext with hnext | hnext <;> simp [step, hnext, Token.isMark, takeValue, State.open, hopen]

theorem step_openObject (hnext : TakesValue s.next) (hroom : s.frames.length < limit) (place : Nat) :
    step limit s ⟨.mark '{', place⟩ = .ok ⟨.object [] [] :: s.frames, .nameOrClose, s.document⟩ := by
  have hopen : ¬ limit ≤ s.frames.length := Nat.not_le.2 hroom
  rcases hnext with hnext | hnext <;> simp [step, hnext, Token.isMark, takeValue, State.open, hopen]

/-- The mark behind the last item delivers the list. -/
theorem runs_closeList {rest : List Json} :
    Runs limit ⟨.list (rest.reverse ++ [v]) :: s.frames, .comma, s.document⟩ [.mark ']']
      (s.deliver (.list (v :: rest))) := by
  have hclose : State.close ⟨.list (rest.reverse ++ [v]) :: s.frames, .comma, s.document⟩ =
      s.deliver (.list (v :: rest)) := by
    have hreverse : (rest.reverse ++ [v]).reverse = v :: rest := by simp
    rw [close_list, hreverse]
    rfl
  rw [← hclose]
  exact .cons (fun _ => rfl) runs_nil

/-- The mark behind the last member delivers the object. -/
theorem runs_closeObject {key name : CodePoints} {rest : List (CodePoints × Json)} :
    Runs limit ⟨.object (rest.reverse ++ [(key, v)]) name :: s.frames, .comma, s.document⟩ [.mark '}']
      (s.deliver (.object ((key, v) :: rest))) := by
  have hclose : State.close ⟨.object (rest.reverse ++ [(key, v)]) name :: s.frames, .comma, s.document⟩ =
      s.deliver (.object ((key, v) :: rest)) := by
    have hreverse : (rest.reverse ++ [(key, v)]).reverse = (key, v) :: rest := by simp
    rw [close_object, hreverse]
    rfl
  rw [← hclose]
  exact .cons (fun _ => rfl) runs_nil

/-- The name of a member and its colon. -/
theorem runs_name (key name : CodePoints) (hnext : next = .name ∨ next = .nameOrClose)
    (hrest : Runs limit ⟨.object members key :: frames, .value, document⟩ ls s') :
    Runs limit ⟨.object members name :: frames, next, document⟩ (.text key :: .mark ':' :: ls) s' := by
  have hcolon : Runs limit ⟨.object members key :: frames, .colon, document⟩ (.mark ':' :: ls) s' :=
    .cons (fun _ => rfl) hrest
  refine .cons (fun place => ?_) hcolon
  rcases hnext with rfl | rfl <;> rfl

theorem dropLast_listed_cons (v : Json) (rest : List Json) : (listed (v :: rest)).dropLast =
    lexemes v ++ (.mark ',' :: listed rest).dropLast := by
  rw [listed, List.dropLast_append_of_ne_nil (by simp)]

theorem dropLast_named_cons (key : CodePoints) (v : Json) (rest : List (CodePoints × Json)) :
    (named ((key, v) :: rest)).dropLast =
      .text key :: .mark ':' :: (lexemes v ++ (.mark ',' :: named rest).dropLast) := by
  rw [named, List.dropLast_cons_of_ne_nil (by simp), List.dropLast_cons_of_ne_nil (by simp),
    List.dropLast_append_of_ne_nil (by simp)]

mutual

/-- Where a value may come next, all of its tokens deliver it. -/
theorem runs_lexemes (v : Json) {s : State} (hnext : TakesValue s.next)
    (hlimit : s.frames.length + nesting v ≤ limit) : Runs limit s (lexemes v) (s.deliver v) := by
  match v with
  | .null | .bool _ | .int _ | .float _ => exact runs_isScalar hnext trivial
  | .text points =>
    rw [lexemes]
    exact .cons (step_text hnext) runs_nil
  | .list [] =>
    have hroom : s.frames.length < limit := by
      rw [nesting] at hlimit
      omega
    rw [lexemes]
    exact .cons (step_openList hnext hroom) (.cons (fun _ => rfl) runs_nil)
  | .list (v :: rest) =>
    rw [nesting, nestingItems] at hlimit
    have hfirst := runs_lexemes v (s := ⟨.list [] :: s.frames, .valueOrClose, s.document⟩) (.inr rfl)
      (by rw [List.length_cons]; omega)
    have hrest := runs_listed rest [v] s.frames s.document (by omega)
    rw [lexemes, dropLast_listed_cons]
    exact .cons (step_openList hnext (by omega)) ((hfirst.append hrest).append runs_closeList)
  | .object [] =>
    have hroom : s.frames.length < limit := by
      rw [nesting] at hlimit
      omega
    rw [lexemes]
    exact .cons (step_openObject hnext hroom) (.cons (fun _ => rfl) runs_nil)
  | .object ((key, v) :: rest) =>
    rw [nesting, nestingMembers] at hlimit
    have hfirst := runs_lexemes v (s := ⟨.object [] key :: s.frames, .value, s.document⟩) (.inl rfl)
      (by rw [List.length_cons]; omega)
    obtain ⟨name, hrest⟩ := runs_named rest [(key, v)] key s.frames s.document (by omega)
    have hparts := runs_name key [] (.inr rfl) ((hfirst.append hrest).append runs_closeObject)
    rw [lexemes, dropLast_named_cons]
    exact .cons (step_openObject hnext (by omega)) hparts

theorem runs_listed (rest items : List Json) (frames : List Frame) (document : Json)
    (hlimit : frames.length + 1 + nestingItems rest ≤ limit) :
    Runs limit ⟨.list items :: frames, .comma, document⟩ (.mark ',' :: listed rest).dropLast
      ⟨.list (rest.reverse ++ items) :: frames, .comma, document⟩ := by
  match rest with
  | [] => exact runs_nil
  | v :: rest =>
    rw [nestingItems] at hlimit
    have hfirst := runs_lexemes v (s := ⟨.list items :: frames, .value, document⟩) (.inl rfl)
      (by rw [List.length_cons]; omega)
    have hrest := runs_listed rest (v :: items) frames document (by omega)
    have hitems : (v :: rest).reverse ++ items = rest.reverse ++ v :: items := by simp
    have hne : listed (v :: rest) ≠ [] := by simp [listed]
    rw [hitems, List.dropLast_cons_of_ne_nil hne, dropLast_listed_cons]
    exact .cons (fun _ => rfl) (hfirst.append hrest)

theorem runs_named (rest members : List (CodePoints × Json)) (name : CodePoints) (frames : List Frame)
    (document : Json) (hlimit : frames.length + 1 + nestingMembers rest ≤ limit) :
    ∃ last, Runs limit ⟨.object members name :: frames, .comma, document⟩
      (.mark ',' :: named rest).dropLast
      ⟨.object (rest.reverse ++ members) last :: frames, .comma, document⟩ := by
  match rest with
  | [] => exact ⟨name, runs_nil⟩
  | (key, v) :: rest =>
    rw [nestingMembers] at hlimit
    have hfirst := runs_lexemes v (s := ⟨.object members key :: frames, .value, document⟩) (.inl rfl)
      (by rw [List.length_cons]; omega)
    obtain ⟨last, hrest⟩ := runs_named rest ((key, v) :: members) key frames document (by omega)
    have hmembers : ((key, v) :: rest).reverse ++ members = rest.reverse ++ (key, v) :: members := by simp
    have hne : named ((key, v) :: rest) ≠ [] := by simp [named]
    refine ⟨last, ?_⟩
    rw [hmembers, List.dropLast_cons_of_ne_nil hne, dropLast_named_cons]
    exact .cons (fun _ => rfl) (runs_name key name (.inl rfl) (hfirst.append hrest))

end

end OperatorConsole.Json

