import OperatorConsole.Proofs.Text.Parts
import OperatorConsole.Proofs.Text.Percent

/-!
Triples read between slashes. No triple, and no piece of UTF-8, reaches across a slash: reading a text
reads what is on either side of each slash on its own. Reading never makes a text longer, and makes
none empty.
-/
namespace OperatorConsole

/-! ### Pieces before an ASCII byte -/

namespace Utf8

variable {b : UInt8}

/-- The bytes of a character that stops short are the same whether the text ends there or an ASCII
byte follows. -/
theorem continueChar_append_ascii (hb : b.toNat < 0x80) (first : UInt8) (back : Bytes) :
    ∀ (need : Nat) (bounds : UInt8 × UInt8) (value : Nat) (others front : Bytes),
      0x80 ≤ bounds.1.toNat →
      (continueChar first bounds value others need (front ++ b :: back)).char? =
          (continueChar first bounds value others need front).char? ∧
        (continueChar first bounds value others need (front ++ b :: back)).more =
          (continueChar first bounds value others need front).more ∧
        (continueChar first bounds value others need front).more ≤ others.length + front.length
  | 0, _, _, _, _, _ => ⟨rfl, rfl, Nat.le_add_right ..⟩
  | need + 1, bounds, value, others, [], hlow => by
    have hout : ¬ within bounds.1 bounds.2 b = true := fun h => by
      have := (within_iff.1 h).1
      omega
    have hstop : continueChar first bounds value others (need + 1) (b :: back) =
        .defect .continuation first others := by rw [continueChar, if_neg hout]
    rw [List.nil_append, hstop]
    exact ⟨rfl, rfl, Nat.le_refl _⟩
  | need + 1, bounds, value, others, c :: front, hlow => by
    rw [List.cons_append, continueChar, continueChar]
    split
    · have ih := continueChar_append_ascii hb first back need (0x80, 0xBF)
        (value * 0x40 + payload c) (others ++ [c]) front (by decide)
      refine ⟨ih.1, ih.2.1, ?_⟩
      have hle := ih.2.2
      simp only [List.length_append, List.length_cons, List.length_nil] at hle ⊢
      omega
    · exact ⟨rfl, rfl, Nat.le_add_right ..⟩

theorem secondBounds_low (b : UInt8) : 0x80 ≤ (secondBounds b).1.toNat := by
  unfold secondBounds
  split_ifs <;> decide

theorem piece_append_ascii (hb : b.toNat < 0x80) (first : UInt8) (front back : Bytes) :
    (piece first (front ++ b :: back)).char? = (piece first front).char? ∧
      (piece first (front ++ b :: back)).more = (piece first front).more ∧
      (piece first front).more ≤ front.length := by
  have hmore := fun need value => continueChar_append_ascii hb first back need (secondBounds first)
    value [] front (secondBounds_low first)
  simp only [List.length_nil, Nat.zero_add] at hmore
  rw [piece_eq, piece_eq]
  split_ifs
  · exact ⟨rfl, rfl, Nat.zero_le _⟩
  · exact hmore _ _
  · exact hmore _ _
  · exact hmore _ _
  · exact ⟨rfl, rfl, Nat.zero_le _⟩

/-- An ASCII byte is a piece of its own, and what stands before it is read as if the text ended
there. -/
theorem pieces_append_ascii (hb : b.toNat < 0x80) (back : Bytes) :
    ∀ front : Bytes, (pieces (front ++ b :: back)).map Piece.char? =
      (pieces front).map Piece.char? ++ some (Char.ofNat b.toNat) :: (pieces back).map Piece.char?
  | [] => by
    have hpiece : piece b back = .char (Char.ofNat b.toNat) 0 := by rw [piece_eq, if_pos hb]
    rw [List.nil_append, pieces]
    simp [hpiece, pieces, Piece.char?, Piece.more]
  | c :: front => by
    obtain ⟨hchar, hmore, hle⟩ := piece_append_ascii hb c front back
    have ih := pieces_append_ascii hb back (front.drop (piece c front).more)
    rw [List.cons_append, pieces, pieces]
    simp only [hmore, List.map_cons, hchar, List.cons_append]
    rw [List.drop_append_of_le_length hle, ih]
termination_by front => front.length
decreasing_by simp only [List.length_drop, List.length_cons]; omega

theorem decodeLossy_append_ascii (hb : b.toNat < 0x80) (front back : Bytes) :
    decodeLossy (front ++ b :: back) =
      decodeLossy front ++ Char.ofNat b.toNat :: decodeLossy back := by
  have hpieces := congrArg (List.map (·.getD (Char.ofNat 0xFFFD))) (pieces_append_ascii hb back front)
  simpa [decodeLossy_eq] using hpieces

theorem length_pieces_le : ∀ bytes : Bytes, (pieces bytes).length ≤ bytes.length
  | [] => by simp [pieces]
  | b :: bytes => by
    have ih := length_pieces_le (bytes.drop (piece b bytes).more)
    rw [pieces]
    simp only [List.length_cons, List.length_drop] at ih ⊢
    omega
termination_by bytes => bytes.length
decreasing_by simp only [List.length_drop, List.length_cons]; omega

theorem length_decodeLossy_le (bytes : Bytes) : (decodeLossy bytes).length ≤ bytes.length := by
  rw [decodeLossy, List.length_map]
  exact length_pieces_le bytes

theorem decodeLossy_eq_nil_iff {bytes : Bytes} : decodeLossy bytes = [] ↔ bytes = [] := by
  cases bytes <;> simp [decodeLossy, pieces]

end Utf8

/-! ### Triples before a slash -/

namespace Text.Percent

variable {cs run : List Char}

/-- A percent sign without two digits stands for itself. -/
theorem bytesOf_percent (h : ∀ a b rest, cs = a :: b :: rest → byteOf? a b = none) :
    bytesOf ('%' :: cs) = 0x25 :: bytesOf cs := by
  match cs with
  | [] => rfl
  | [_] => rfl
  | a :: b :: rest => rw [bytesOf, h a b rest rfl]

theorem byteOf?_slash_left (c : Char) : byteOf? '/' c = none := rfl

theorem byteOf?_slash_right (c : Char) : byteOf? c '/' = none := by
  have hslash : digitValue? '/' = none := by decide
  rw [byteOf?, hslash]
  cases digitValue? c <;> rfl

theorem bytesOf_append_slash (back : List Char) : ∀ front : List Char,
    bytesOf (front ++ '/' :: back) = bytesOf front ++ 0x2F :: bytesOf back
  | [] => bytesOf_cons (by decide)
  | c :: front => by
    by_cases hc : c = '%'
    · subst hc
      match front with
      | [] =>
        rw [List.singleton_append, bytesOf_percent, bytesOf_cons (by decide)]
        · rfl
        · rintro a b rest h
          rw [← (List.cons.inj h).1, byteOf?_slash_left]
      | [a] =>
        have ih := bytesOf_append_slash back [a]
        rw [List.cons_append, bytesOf_percent, ih, bytesOf_percent (by simp), List.cons_append]
        rintro a' b rest h
        have hb := (List.cons.inj (List.cons.inj h).2).1
        rw [← hb, byteOf?_slash_right]
      | a :: b :: front =>
        have ihthree := bytesOf_append_slash back front
        have ihone := bytesOf_append_slash back (a :: b :: front)
        simp only [List.cons_append] at ihone ⊢
        rw [bytesOf, bytesOf]
        cases byteOf? a b with
        | some byte => simp [ihthree]
        | none => simp [ihone]
    · rw [List.cons_append, bytesOf_cons hc, bytesOf_cons hc, bytesOf_append_slash back front,
        List.cons_append]

theorem decodeRun_append_slash (front back : List Char) :
    decodeRun (back ++ '/' :: front) = decodeRun front ++ '/' :: decodeRun back := by
  rw [decodeRun, List.reverse_append, List.reverse_cons, List.append_assoc, List.singleton_append,
    bytesOf_append_slash, Utf8.decodeLossy_append_ascii (by decide)]
  rfl

/-- A run with a slash in it is read on as if it began after the slash. -/
theorem decodeFrom_append_slash (front : List Char) : ∀ (run cs : List Char),
    decodeFrom (run ++ '/' :: front) cs = decodeRun front ++ '/' :: decodeFrom run cs
  | run, [] => decodeRun_append_slash front run
  | run, c :: cs => by
    rw [decodeFrom, decodeFrom]
    split
    · exact decodeFrom_append_slash front (c :: run) cs
    · rw [decodeRun_append_slash, List.append_assoc, List.cons_append]

theorem decodeFrom_slash (back : List Char) : ∀ (run front : List Char),
    decodeFrom run (front ++ '/' :: back) = decodeFrom run front ++ '/' :: decode back
  | run, [] => by
    have hslash : decodeFrom run ('/' :: back) = decodeFrom ('/' :: run) back := by
      rw [decodeFrom, if_pos (by decide)]
    exact hslash.trans (decodeFrom_append_slash run [] back)
  | run, c :: front => by
    rw [List.cons_append, decodeFrom, decodeFrom]
    split
    · exact decodeFrom_slash back (c :: run) front
    · rw [decodeFrom_slash back [] front, List.append_assoc, List.cons_append]

/-- Each side of a slash is read on its own. -/
theorem decode_append_slash (front back : List Char) :
    decode (front ++ '/' :: back) = decode front ++ '/' :: decode back :=
  decodeFrom_slash back [] front

/-! ### Lengths -/

theorem length_bytesOf_le (cs : List Char) : (bytesOf cs).length ≤ cs.length := by
  fun_induction bytesOf cs with
  | case1 a b rest byte h ih =>
    simp only [List.length_cons]
    omega
  | case2 a b rest h ih => simpa using ih
  | case3 c rest h ih => simpa using ih
  | case4 => exact Nat.le_refl _

theorem bytesOf_eq_nil_iff : bytesOf cs = [] ↔ cs = [] := by
  fun_cases bytesOf cs with
  | case1 a b rest byte h => simp
  | case2 a b rest h => simp
  | case3 c rest h => simp
  | case4 => simp

theorem length_decodeRun_le (run : List Char) : (decodeRun run).length ≤ run.length := by
  have hbytes := length_bytesOf_le run.reverse
  rw [List.length_reverse] at hbytes
  exact Nat.le_trans (Utf8.length_decodeLossy_le _) hbytes

theorem length_decodeFrom_le : ∀ run cs : List Char,
    (decodeFrom run cs).length ≤ run.length + cs.length
  | run, [] => length_decodeRun_le run
  | run, c :: cs => by
    have hrun := length_decodeRun_le run
    have hlonger := length_decodeFrom_le (c :: run) cs
    have hfresh := length_decodeFrom_le [] cs
    rw [decodeFrom]
    split <;> simp only [List.length_append, List.length_cons, List.length_nil] at * <;> omega

/-- Reading makes no text longer. -/
theorem length_decode_le (cs : List Char) : (decode cs).length ≤ cs.length := by
  simpa [decode] using length_decodeFrom_le [] cs

theorem decodeFrom_eq_nil_iff : ∀ run cs : List Char, decodeFrom run cs = [] ↔ run = [] ∧ cs = []
  | run, [] => by
    rw [decodeFrom, decodeRun, Utf8.decodeLossy_eq_nil_iff, bytesOf_eq_nil_iff]
    simp
  | run, c :: cs => by
    rw [decodeFrom]
    split
    · simp [decodeFrom_eq_nil_iff (c :: run) cs]
    · simp

/-- Reading makes no text empty. -/
theorem decode_eq_nil_iff : decode cs = [] ↔ cs = [] := by
  simpa [decode] using decodeFrom_eq_nil_iff [] cs

theorem decode_nil : decode [] = [] := decode_eq_nil_iff.2 rfl

end Text.Percent

end OperatorConsole
