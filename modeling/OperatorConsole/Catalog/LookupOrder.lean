/-!
Orders of look-up. What builds on others has them all in one order: itself first, each before what
it builds on, and all in the order in which they are named. Such an order need not exist; it is made
by taking, again and again, the first key that begins a sequence and is in the rest of none.
-/
namespace OperatorConsole

/-- Why there is no order of look-up. -/
inductive OrderFault (κ : Type) where
  /-- A key is named twice among those that are built on. -/
  | repeated (key : κ)
  /-- Each of the keys that could be next stands behind another one. -/
  | inconsistent (keys : List κ)
  deriving DecidableEq, Repr

namespace LookupOrder

variable {κ : Type} [BEq κ]

/-- A key that begins one of the sequences and is in the rest of none. -/
def nextKey? (sequences : List (List κ)) : Option κ :=
  sequences.findSome? fun sequence =>
    match sequence with
    | [] => none
    | key :: _ => if sequences.any fun s => (s.drop 1).contains key then none else some key

/-- The sequences without a key at their front. -/
def dropKey (key : κ) (sequences : List (List κ)) : List (List κ) :=
  sequences.map fun s => if s.head? == some key then s.drop 1 else s

/-- The keys that begin the sequences, each once. -/
def fronts (sequences : List (List κ)) : List κ := (sequences.filterMap (·.head?)).eraseDups

/-- Merges sequences into one that keeps the order of each, `steps` keys at most. -/
def merge (sequences : List (List κ)) : Nat → Except (OrderFault κ) (List κ)
  | 0 => .ok []
  | steps + 1 =>
    match nextKey? sequences with
    | some key => do return key :: (← merge (dropKey key sequences) steps)
    | none =>
      match fronts sequences with
      | [] => .ok []
      | keys => .error (.inconsistent keys)

/-- The first key that comes again later. -/
def repeated? : List κ → Option κ
  | [] => none
  | key :: rest => if rest.contains key then some key else repeated? rest

/-- The order of look-up of a key that builds on others, each of them with its own order. -/
def ofBases (key : κ) (bases : List κ) (orders : List (List κ)) :
    Except (OrderFault κ) (List κ) := do
  match repeated? bases with
  | some base => throw (.repeated base)
  | none =>
    let sequences := orders ++ [bases]
    return key :: (← merge sequences sequences.flatten.length)

end LookupOrder

end OperatorConsole
