import Clearance.Document.Json.Reader
import Clearance.Document.Json.Writer
import Clearance.Proofs.Text.Numeral

/-!
# Strings and integers read back

A string is written character by character, and each character is read back as one piece: as itself,
or as the unit of an escape that names it. An integer is written as a numeral, which is read to its
end as long as nothing follows that could belong to a number.
-/

namespace Clearance

namespace Json

/-! ### Strings -/

/-- The piece is how a character comes back: as itself, or as the unit of a control character. -/
inductive StandsFor : Piece → Char → Prop
  | char (c : Char) : StandsFor (.char c) c
  | unit (c : Char) (control : c.toNat < 32) : StandsFor (.unit c.toNat) c

theorem hexUnit?_fixedNumeral {n : Nat} (hn : n < 65536) {a b c d : Char}
    (h : fixedNumeral 16 4 n = [a, b, c, d]) : hexUnit? a b c d = some n := by
  have hdigits : fixedNumeral 16 4 n =
      [digitChar (n / 16 / 16 / 16 % 16), digitChar (n / 16 / 16 % 16), digitChar (n / 16 % 16),
        digitChar (n % 16)] := by
    simp [fixedNumeral]
  have hlt : ∀ m, m % 16 < 16 := fun m => Nat.mod_lt m (by decide)
  rw [hdigits] at h
  simp only [List.cons.injEq, and_true] at h
  obtain ⟨rfl, rfl, rfl, rfl⟩ := h
  have hvalue : ofDigits 16 [n / 16 / 16 / 16 % 16, n / 16 / 16 % 16, n / 16 % 16, n % 16] = n := by
    simp [ofDigits]
    omega
  simp [hexUnit?, hexDigit?_digitChar (hlt _), hvalue]

theorem readPieces_shortEscape {e c : Char} (he : shortEscape? e = some c) (more : List Char) :
    readPieces ('\\' :: e :: more) =
      (readPieces more).map fun (pieces, rest) => (.char c :: pieces, rest) := by
  have hu : e ≠ 'u' := by
    intro h
    subst h
    simp [shortEscape?] at he
  rw [readPieces]
  · rw [he]
    cases readPieces more <;> rfl
  · intro a b c d rest h
    exact absurd h hu

theorem readPieces_unit {a b c d : Char} {n : Nat} (h : hexUnit? a b c d = some n)
    (more : List Char) :
    readPieces ('\\' :: 'u' :: a :: b :: c :: d :: more) =
      (readPieces more).map fun (pieces, rest) => (.unit n :: pieces, rest) := by
  rw [readPieces, h]
  cases readPieces more <;> rfl

theorem readPieces_plain {c : Char} (hquote : c ≠ '"') (hslash : c ≠ '\\')
    (hcontrol : ¬ c.toNat < 32) (more : List Char) :
    readPieces (c :: more) =
      (readPieces more).map fun (pieces, rest) => (.char c :: pieces, rest) := by
  rw [readPieces]
  · rw [if_neg (by simp [hslash, hcontrol])]
    cases readPieces more <;> rfl
  all_goals simp [hquote, hslash]

/-- A character is written as a short escape, as the unit of a control character or as itself. -/
theorem escapeChar_cases (c : Char) :
    (∃ e, escapeChar c = ['\\', e] ∧ shortEscape? e = some c) ∨
      (c.toNat < 32 ∧ escapeChar c = '\\' :: 'u' :: fixedNumeral 16 4 c.toNat) ∨
      (c ≠ '"' ∧ c ≠ '\\' ∧ ¬ c.toNat < 32 ∧ escapeChar c = [c]) := by
  rw [escapeChar]
  split
  next h => exact .inl ⟨'"', rfl, by rw [h]; rfl⟩
  next hquote =>
    split
    next h => exact .inl ⟨'\\', rfl, by rw [h]; rfl⟩
    next hslash =>
      split
      next h => exact .inl ⟨'n', rfl, by rw [h]; rfl⟩
      split
      next h => exact .inl ⟨'r', rfl, by rw [h]; rfl⟩
      split
      next h => exact .inl ⟨'t', rfl, by rw [h]; rfl⟩
      split
      next h => exact .inl ⟨'b', rfl, by rw [h]; rfl⟩
      split
      next h => exact .inl ⟨'f', rfl, by rw [h]; rfl⟩
      split
      next hcontrol => exact .inr (.inl ⟨hcontrol, rfl⟩)
      next hcontrol => exact .inr (.inr ⟨hquote, hslash, hcontrol, rfl⟩)

/-- Each character is read back as one piece, and reading goes on behind it. -/
theorem readPieces_escapeChar (c : Char) (more : List Char) :
    ∃ piece, StandsFor piece c ∧
      readPieces (escapeChar c ++ more) =
        (readPieces more).map fun (pieces, rest) => (piece :: pieces, rest) := by
  rcases escapeChar_cases c with ⟨e, hc, he⟩ | ⟨hcontrol, hc⟩ | ⟨hquote, hslash, hplain, hc⟩
  · exact ⟨.char c, .char c, by rw [hc]; exact readPieces_shortEscape he more⟩
  · have hlength : (fixedNumeral 16 4 c.toNat).length = 4 := length_fixedNumeral 16 4 c.toNat
    obtain ⟨w, x, y, z, hdigits⟩ := List.length_eq_four.mp hlength
    have hunit := hexUnit?_fixedNumeral (by omega) hdigits
    exact ⟨.unit c.toNat, .unit c hcontrol, by rw [hc, hdigits]; exact readPieces_unit hunit more⟩
  · exact ⟨.char c, .char c, by rw [hc]; exact readPieces_plain hquote hslash hplain more⟩

theorem readPieces_escape (cs more : List Char) :
    ∃ pieces, List.Forall₂ StandsFor pieces cs ∧
      readPieces (escape cs ++ '"' :: more) = some (pieces, more) := by
  induction cs with
  | nil => exact ⟨[], .nil, rfl⟩
  | cons c cs ih =>
    obtain ⟨pieces, hpieces, hread⟩ := ih
    obtain ⟨piece, hpiece, hfirst⟩ := readPieces_escapeChar c (escape cs ++ '"' :: more)
    refine ⟨piece :: pieces, .cons hpiece hpieces, ?_⟩
    rw [escape, List.flatMap_cons, List.append_assoc, ← escape, hfirst, hread]
    rfl

/-- No control character is half of a surrogate pair, whatever comes next. -/
theorem joinPieces_unit {u : Nat} (hu : u < 32) (pieces : List Piece) :
    joinPieces (.unit u :: pieces) = (joinPieces pieces).map (Char.ofNat u :: ·) := by
  have hleading : isLeading u = false := by simp [isLeading]; omega
  have htrailing : isTrailing u = false := by simp [isTrailing]; omega
  rcases pieces with _ | ⟨piece, pieces⟩
  · simp [joinPieces, hleading, htrailing]
  · cases piece <;> simp [joinPieces, hleading, htrailing]

theorem joinPieces_of_standFor {pieces : List Piece} {cs : List Char}
    (h : List.Forall₂ StandsFor pieces cs) : joinPieces pieces = some cs := by
  induction h with
  | nil => rfl
  | cons hpiece _ ih =>
    cases hpiece with
    | char c => rw [joinPieces, ih, Option.map_some]
    | unit c control => rw [joinPieces_unit control, ih, Char.ofNat_toNat, Option.map_some]

theorem readString_quote (s : String) (more : List Char) :
    ∃ rest, quote s ++ more = '"' :: rest ∧ readString rest = some (some s, more) := by
  obtain ⟨pieces, hpieces, hread⟩ := readPieces_escape s.toList more
  refine ⟨escape s.toList ++ '"' :: more, by simp [quote], ?_⟩
  simp [readString, hread, joinPieces_of_standFor hpieces]

/-! ### Integers -/

/-- Nothing comes next that could belong to a number. -/
def EndsNumber (rest : List Char) : Prop :=
  ∀ c ∈ rest.head?, decimalDigit? c = none ∧ c ≠ '.' ∧ c ≠ 'e' ∧ c ≠ 'E'

theorem endsNumber_nil : EndsNumber [] := by
  simp [EndsNumber]

variable {rest : List Char}

theorem takeDigits_append (hrest : EndsNumber rest) {ds : List Nat} (hds : ∀ d ∈ ds, d < 10) :
    takeDigits (ds.map digitChar ++ rest) = (ds, rest) := by
  induction ds with
  | nil =>
    cases rest with
    | nil => rfl
    | cons c rest =>
      have hc : decimalDigit? c = none := (hrest c rfl).1
      simp [takeDigits, hc]
  | cons d ds ih =>
    obtain ⟨hd, hds⟩ := List.forall_mem_cons.mp hds
    simp [takeDigits, decimalDigit?_digitChar hd, ih hds]

theorem takeFraction_of_endsNumber (hrest : EndsNumber rest) :
    takeFraction rest = some ([], rest) := by
  cases rest with
  | nil => rfl
  | cons c rest =>
    have hpoint : c ≠ '.' := (hrest c rfl).2.1
    rw [takeFraction]
    intro more h
    exact hpoint (List.cons.inj h).1

theorem takeExponent_of_endsNumber (hrest : EndsNumber rest) :
    takeExponent rest = some (none, rest) := by
  cases rest with
  | nil => rfl
  | cons c rest =>
    have hmark : ¬ (c = 'e' ∨ c = 'E') := not_or.mpr (hrest c rfl).2.2
    simp only [takeExponent, if_neg hmark]

/-- A numeral is read to its end, and its digits decide the value. -/
theorem readUnsigned_numeral (hrest : EndsNumber rest) {negative : Bool} {n : Nat} {d : Document}
    (hd : ∀ ds, ofDigits 10 ds = n → readWhole negative ds = some d) :
    readUnsigned negative (numeral 10 n ++ rest) = some (d, rest) := by
  obtain ⟨ds, hds⟩ := exists_numeral (by decide : 1 < 10) n
  have hwell : ds ≠ [] ∧ (ds.head? = some 0 → ds.length = 1) :=
    ⟨hds.ne_nil, hds.length_of_leading (by decide)⟩
  rw [hds.chars, readUnsigned, takeDigits_append hrest hds.bounded]
  simp only [guard, if_pos hwell, takeFraction_of_endsNumber hrest,
    takeExponent_of_endsNumber hrest, and_self, if_true, hd ds hds.value, Option.pure_def,
    Option.bind_eq_bind, Option.bind_some, Option.getD_some]

/-- The integers that a literal can have as its value. -/
def IsLiteral (n : Int) : Prop :=
  -9223372036854775808 ≤ n ∧ n < 18446744073709551616

theorem readWhole_of_natural {ds : List Nat} (h : IsLiteral (ofDigits 10 ds)) :
    readWhole false ds = some (.int (ofDigits 10 ds)) := by
  have hbound : ofDigits 10 ds < Nat.pow 2 64 := Int.ofNat_lt.mp h.2
  rw [readWhole]
  exact if_pos hbound

theorem readWhole_of_negative {ds : List Nat} {n : Nat} (hds : ofDigits 10 ds = n + 1)
    (h : IsLiteral (.negSucc n)) : readWhole true ds = some (.int (.negSucc n)) := by
  have hbound : n + 1 ≠ 0 ∧ n + 1 ≤ Nat.pow 2 63 := by
    have hlow : -9223372036854775808 ≤ Int.negSucc n := h.1
    change n + 1 ≠ 0 ∧ n + 1 ≤ 9223372036854775808
    omega
  rw [readWhole, hds]
  exact if_pos hbound

theorem readNumber_integerNumeral (hrest : EndsNumber rest) {n : Int} (hn : IsLiteral n) :
    readNumber (integerNumeral n ++ rest) = some (.int n, rest) := by
  cases n with
  | ofNat n =>
    have hvalue : readUnsigned false (numeral 10 n ++ rest) = some (.int n, rest) := by
      refine readUnsigned_numeral hrest ?_
      rintro ds rfl
      exact readWhole_of_natural hn
    obtain ⟨d, hd, cs, hcs⟩ := numeral_head n
    have hsign : digitChar d ≠ '-' := by
      have hall : ∀ d < 10, digitChar d ≠ '-' := by decide
      exact hall d hd
    rw [integerNumeral, hcs, List.cons_append, readNumber, ← List.cons_append, ← hcs, hvalue]
    · rfl
    · intro more h
      exact hsign (List.cons.inj h).1
  | negSucc n =>
    have hvalue : readUnsigned true (numeral 10 (n + 1) ++ rest) =
        some (.int (.negSucc n), rest) :=
      readUnsigned_numeral hrest fun ds hds => readWhole_of_negative hds hn
    exact hvalue

end Json

end Clearance
