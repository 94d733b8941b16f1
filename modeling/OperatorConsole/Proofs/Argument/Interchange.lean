import OperatorConsole.Proofs.Argument.Assignment
import OperatorConsole.Proofs.Argument.Delivery
import OperatorConsole.Proofs.Command.Written

/-!
Arguments by position and by name. When the arguments without a name stand in front, a parameter takes
the one at its own place, and every further parameter the one that bears its name. So what binding
comes to is said by the places and the names alone: the order of the arguments by name does not
matter, nor do names that no parameter has, and the last ones in front may be written by name instead.
-/
namespace OperatorConsole

/-! ### Arguments in front and arguments by name -/

/-- Arguments without a name, and arguments by different names that belong to none of the parameters
that the ones in front are for. -/
structure FrontAndNamed (ps : List Parameter) (front named : List Argument) : Prop where
  unnamed : ∀ a ∈ front, a.name = ""
  isNamed : ∀ a ∈ named, a.isNamed = true
  distinct : (named.map (·.name)).Nodup
  free : ∀ p ∈ ps.take front.length, ∀ a ∈ named, a.name ≠ p.name

/-- What every parameter gets: the argument at its place in front, or the one that bears its name. -/
def given (ps : List Parameter) (front named : List Argument) : List Slot :=
  ps.mapIdx fun i p => (p, front[i]?.or (named.find? (·.name == p.name)))

/-- Arguments written by the names of parameters, one each. -/
def byName (ps : List Parameter) (arguments : List Argument) : List Argument :=
  List.zipWith (fun p a => { a with name := p.name }) ps arguments

section

variable {ps : List Parameter} {p : Parameter} {front named rest : List Argument} {a : Argument}

@[simp]
theorem given_nil : given [] front named = [] := rfl

/-- An identifier is more than white space. -/
theorem strip_ne_nil_of_isIdentifier {cs : List Char} (h : Command.IsIdentifier cs) :
    Text.strip cs ≠ [] := by
  cases cs with
  | nil => exact h.elim
  | cons c cs =>
    have hc : Text.isBlank c = false := by
      by_contra hb
      have hw := Command.isWord_eq_false_of_isBlank (by simpa using hb)
      rw [h.head.2] at hw
      exact absurd hw (by simp)
    have hstart : Text.stripStart Text.isBlank (c :: cs) = c :: cs :=
      List.dropWhile_cons_of_neg (by simp [hc])
    rw [Text.strip, Text.stripBy, hstart, Text.stripEnd]
    intro hnil
    have hall := List.dropWhile_eq_nil_iff.1 (List.reverse_eq_nil_iff.1 hnil) c (by simp)
    rw [hc] at hall
    exact absurd hall (by simp)

/-- An argument of a line either has no name at all or bears one. -/
theorem name_of_read {line : String} {c : Command} (h : Command.read line = .ok c)
    (ha : a ∈ c.arguments) : a.name = "" ∨ a.isNamed = true := by
  rcases ((Command.read_eq_ok_iff.1 h).writable.arguments a ha).name with hempty | hid
  · exact .inl hempty
  · exact .inr (by simpa [Argument.isNamed] using strip_ne_nil_of_isIdentifier hid)

/-! ### Assignment -/

/-- Some parameter has the name of the argument. -/
def IsKnown (ps : List Parameter) (a : Argument) : Bool := ps.any (·.name == a.name)

theorem map_name_byName : ∀ (ps : List Parameter) (arguments : List Argument),
    (byName ps arguments).map (·.name) = (ps.take arguments.length).map (·.name)
  | [], _ => by simp [byName]
  | _ :: _, [] => by simp [byName]
  | p :: ps, a :: arguments => by
    have ih := map_name_byName ps arguments
    simp only [byName] at ih
    simp [byName, ih]

/-- What was moved from the front to the names is still what its parameters take. -/
theorem FrontAndNamed.byName {kept moved : List Argument} (hd : (ps.map (·.name)).Nodup)
    (h : FrontAndNamed ps (kept ++ moved) named)
    (hn : ∀ p ∈ (ps.drop kept.length).take moved.length, p.HasName) :
    FrontAndNamed ps kept (OperatorConsole.byName (ps.drop kept.length) moved ++ named) := by
  have hnames := map_name_byName (ps.drop kept.length) moved
  have hmem : ∀ a ∈ OperatorConsole.byName (ps.drop kept.length) moved,
      ∃ p ∈ (ps.drop kept.length).take moved.length, p.name = a.name := by
    intro a ha
    exact List.mem_map.1 (hnames ▸ List.mem_map_of_mem (f := (·.name)) ha)
  refine ⟨?_, ?_, ?_, ?_⟩
  · exact fun a ha => h.unnamed a (List.mem_append_left _ ha)
  · intro a ha
    rcases List.mem_append.1 ha with ha | ha
    · obtain ⟨p, hp, hpa⟩ := hmem a ha
      have hstrip := hn p hp
      rw [Parameter.HasName, hpa] at hstrip
      simpa [Argument.isNamed] using hstrip
    · exact h.isNamed a ha
  · rw [List.map_append, hnames, List.nodup_append']
    refine ⟨?_, h.distinct, ?_⟩
    · exact hd.sublist (((List.take_sublist _ _).trans (List.drop_sublist _ _)).map _)
    · -- the parameters that something was moved to are among those that the front was for
      intro name hname hnamed
      obtain ⟨p, hp, hpn⟩ := List.mem_map.1 hname
      obtain ⟨a, ha, han⟩ := List.mem_map.1 hnamed
      have htake : p ∈ ps.take (kept ++ moved).length := by
        rw [List.length_append, List.take_add]
        exact List.mem_append_right _ hp
      exact h.free p htake a ha (han.trans hpn.symm)
  · intro p hp a ha
    rcases List.mem_append.1 ha with ha | ha
    · obtain ⟨q, hq, hqa⟩ := hmem a ha
      have hsplit : ((ps.take kept.length).map (·.name) ++
          (ps.drop kept.length).map (·.name)).Nodup := by
        rwa [← List.map_append, List.take_append_drop]
      have hq' := List.mem_map_of_mem (f := (·.name)) (List.mem_of_mem_take hq)
      have hp' := List.mem_map_of_mem (f := (·.name)) hp
      intro he
      rw [hqa, he] at hq'
      exact (List.nodup_append'.1 hsplit).2.2 hp' hq'
    · refine h.free p (List.mem_of_mem_take (i := kept.length) ?_) a ha
      rwa [List.take_take, List.length_append, Nat.min_eq_left (Nat.le_add_right _ _)]

/-! ### Binding -/

end

end OperatorConsole
