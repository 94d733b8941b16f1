import OperatorConsole.Terminal.Width

/-!
Clusters: characters that stand in one place of a line. A joiner takes the character after it into
the cluster before it, a selector makes a picture of a sign, and a character without a cell belongs
to the one before it.
-/
namespace OperatorConsole.Terminal

/-- The character that joins two others. -/
def joiner : Char := Char.ofNat 0x200D

/-- The character that asks for the form of a picture. -/
def pictureSelector : Char := Char.ofNat 0xFE0F

/-- The cells that a text takes after a character that may become a picture. -/
def textWidthFrom (last : Option Char) : List Char → Nat
  | [] => 0
  | c :: rest =>
    if c = joiner then
      match rest with
      | [] => 0
      | _ :: rest => textWidthFrom last rest
    else if c = pictureSelector then
      (if last.any wideningRanges.has then 1 else 0) + textWidthFrom none rest
    else if cellWidth c = 0 then textWidthFrom last rest
    else cellWidth c + textWidthFrom (some c) rest

/-- The cells that a text takes. -/
def textWidth (cs : List Char) : Nat := textWidthFrom none cs

/-- Characters in one place, and the cells that they take. -/
structure Cluster where
  chars : List Char
  width : Nat
  deriving DecidableEq, Repr

/-- Characters are put to the last one of some clusters, the last one first. -/
def extend (chars : List Char) (more : Nat) : List Cluster → List Cluster
  | [] => [⟨chars, more⟩]
  | cluster :: before => ⟨cluster.chars ++ chars, cluster.width + more⟩ :: before

/-- The clusters of a text after those that were found, the last one first, and after a character that
may become a picture. -/
def clustersFrom (found : List Cluster) (last : Option Char) : List Char → List Cluster
  | [] => found.reverse
  | c :: rest =>
    if c = joiner then
      match found, rest with
      | _ :: _, d :: rest => clustersFrom (extend [c, d] 0 found) last rest
      | found, rest => clustersFrom (extend [c] 0 found) last rest
    else if c = pictureSelector then
      if !found.isEmpty && last.any wideningRanges.has then clustersFrom (extend [c] 1 found) none rest
      else clustersFrom (extend [c] 0 found) last rest
    else if cellWidth c = 0 then clustersFrom (extend [c] 0 found) last rest
    else clustersFrom (⟨[c], cellWidth c⟩ :: found) (some c) rest

/-- The clusters of a text. -/
def clusters (cs : List Char) : List Cluster := clustersFrom [] none cs

theorem textWidth_nil : textWidth [] = 0 := rfl

theorem clusters_nil : clusters [] = [] := rfl

end OperatorConsole.Terminal
