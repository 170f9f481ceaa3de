import Clearance.Proofs.Identity.Uuid
import Clearance.Proofs.Text.LetterCase

/-!
# Texts that spell an identifier

An identifier has four forms: its digits alone, the hyphenated form, that form in braces, and that
form as a name. A text spells it if in lower case it is one of the four. Reading accepts these texts
and no others: it does not look at letter case, reads each form, and whatever it reads is a form of
the identifier it gives.
-/

namespace Clearance

namespace Uuid

/-- The forms of an identifier in lower case. -/
def forms (u : Uuid) : List (List Char) :=
  [u.digits, u.chars, '\x7b' :: u.chars ++ ['\x7d'], urnMark ++ u.chars]

/-- In lower case the text is a form of the identifier. -/
def Spells (u : Uuid) (s : String) : Prop :=
  s.toList.map Char.toLower ∈ u.forms

instance decidableSpells (u : Uuid) (s : String) : Decidable (u.Spells s) :=
  inferInstanceAs (Decidable (_ ∈ u.forms))

theorem mem_forms {u : Uuid} {cs : List Char} :
    cs ∈ u.forms ↔ cs = u.digits ∨ cs = u.chars ∨ cs = '\x7b' :: u.chars ++ ['\x7d'] ∨
      cs = urnMark ++ u.chars := by
  rw [forms, List.mem_cons, List.mem_cons, List.mem_cons, List.mem_singleton]

/-! ### Reading in lower case -/

theorem ofDigits?_toLower (cs : List Char) : ofDigits? (cs.map Char.toLower) = ofDigits? cs := by
  rw [ofDigits?, ofDigits?, List.length_map, mapM_hexDigit?_toLower]

theorem joinGroups?_cons_cons (width next : Nat) (widths : List Nat) (cs : List Char) :
    joinGroups? (width :: next :: widths) cs =
      if (cs.drop width).head? = some '-' then
        (joinGroups? (next :: widths) (cs.drop width).tail).map (cs.take width ++ ·)
      else none := by
  rw [joinGroups?]
  · split
    next rest hrest => simp [hrest]
    next hnone =>
      rw [if_neg]
      rw [List.head?_eq_some_iff]
      intro hhead
      obtain ⟨rest, hrest⟩ := hhead
      exact hnone rest hrest
  · exact List.cons_ne_nil next widths

theorem joinGroups?_toLower (widths : List Nat) (cs : List Char) :
    joinGroups? widths (cs.map Char.toLower) =
      (joinGroups? widths cs).map (List.map Char.toLower) := by
  induction widths generalizing cs with
  | nil => rfl
  | cons width widths ih =>
    cases widths with
    | nil =>
      rw [joinGroups?, joinGroups?, List.length_map]
      split <;> rfl
    | cons next widths =>
      have hmark : (cs.drop width).head?.map Char.toLower = some '-' ↔
          (cs.drop width).head? = some '-' := map_toLower_eq_mark_iff (by decide) (by decide)
      rw [joinGroups?_cons_cons, joinGroups?_cons_cons, ← List.map_drop, ← List.map_take,
        List.head?_map, ← List.map_tail, ih]
      simp only [hmark]
      split
      · cases joinGroups? (next :: widths) (cs.drop width).tail <;> simp
      · rfl

theorem ofGroups?_toLower (cs : List Char) : ofGroups? (cs.map Char.toLower) = ofGroups? cs := by
  rw [ofGroups?, ofGroups?, joinGroups?_toLower]
  cases joinGroups? groupWidths cs with
  | none => rfl
  | some ds => exact ofDigits?_toLower ds

theorem insideBraces?_eq_ite (cs : List Char) :
    insideBraces? cs =
      if cs.head? = some '\x7b' ∧ cs.tail.getLast? = some '\x7d' then some cs.tail.dropLast
      else none := by
  rw [insideBraces?.eq_def]
  split
  next rest => simp
  next hnone =>
    rw [if_neg]
    intro hbraces
    obtain ⟨rest, hrest⟩ := List.head?_eq_some_iff.mp hbraces.1
    exact hnone rest hrest

theorem insideBraces?_toLower (cs : List Char) :
    insideBraces? (cs.map Char.toLower) = (insideBraces? cs).map (List.map Char.toLower) := by
  have hopen : cs.head?.map Char.toLower = some '\x7b' ↔ cs.head? = some '\x7b' :=
    map_toLower_eq_mark_iff (by decide) (by decide)
  have hclose : cs.tail.getLast?.map Char.toLower = some '\x7d' ↔
      cs.tail.getLast? = some '\x7d' := map_toLower_eq_mark_iff (by decide) (by decide)
  rw [insideBraces?_eq_ite, insideBraces?_eq_ite, List.head?_map, ← List.map_tail,
    List.getLast?_map, ← List.map_dropLast]
  simp only [hopen, hclose]
  split <;> rfl

theorem afterUrnMark?_toLower (cs : List Char) :
    afterUrnMark? (cs.map Char.toLower) = (afterUrnMark? cs).map (List.map Char.toLower) := by
  have hlower : ((cs.map Char.toLower).take urnMark.length).map Char.toLower =
      (cs.take urnMark.length).map Char.toLower := by
    simp [← List.map_take]
  rw [afterUrnMark?, afterUrnMark?, hlower, ← List.map_drop]
  split <;> rfl

theorem ofChars?_toLower (cs : List Char) : ofChars? (cs.map Char.toLower) = ofChars? cs := by
  have hinside : ∀ inner? : Option (List Char),
      (inner?.map (List.map Char.toLower)).bind ofGroups? = inner?.bind ofGroups? := by
    intro inner?
    cases inner? with
    | none => rfl
    | some inner => exact ofGroups?_toLower inner
  rw [ofChars?, ofChars?, ofDigits?_toLower, ofGroups?_toLower, insideBraces?_toLower,
    afterUrnMark?_toLower, hinside, hinside]

/-! ### What is read is a form -/

theorem eq_intercalate_of_joinGroups? {widths : List Nat} {cs ds : List Char}
    (h : joinGroups? widths cs = some ds) : cs = ['-'].intercalate (splitLengths widths ds) := by
  induction widths generalizing cs ds with
  | nil => cases h
  | cons width widths ih =>
    cases widths with
    | nil =>
      rw [joinGroups?] at h
      split at h
      next hlength =>
        obtain rfl : cs = ds := Option.some.inj h
        simp [splitLengths, List.intercalate, ← hlength]
      next => cases h
    | cons next widths =>
      rw [joinGroups?_cons_cons] at h
      split at h
      next hmark =>
        obtain ⟨rest, hrest⟩ := List.head?_eq_some_iff.mp hmark
        obtain ⟨tail, htail, rfl⟩ := Option.map_eq_some_iff.mp h
        rw [hrest, List.tail_cons] at htail
        have hlength : (cs.take width).length = width := by
          have hdrop : (cs.drop width).length ≠ 0 := by simp [hrest]
          rw [List.length_drop] at hdrop
          rw [List.length_take]
          omega
        have hsplit : splitLengths (width :: next :: widths) (cs.take width ++ tail) =
            cs.take width :: splitLengths (next :: widths) tail := by
          rw [splitLengths, List.take_left' hlength, List.drop_left' hlength]
        rw [hsplit, splitLengths, List.intercalate_cons_cons, ← splitLengths, ← ih htail,
          List.append_assoc, List.singleton_append, ← hrest, List.take_append_drop]
      next => cases h

section Forms

variable {cs : List Char} {u : Uuid}

/-- Digits are read as the number that they are the numeral of. -/
theorem map_toLower_of_ofDigits? (h : ofDigits? cs = some u) :
    cs.map Char.toLower = u.digits := by
  by_cases hlength : cs.length = 32
  · rw [ofDigits?_of_length_eq hlength] at h
    obtain ⟨values, hvalues, rfl⟩ := Option.map_eq_some_iff.mp h
    obtain ⟨hbounded, hchars⟩ := map_toLower_of_mapM_hexDigit? hvalues
    have hcount : values.length = 32 := by
      rw [← List.length_map digitChar, ← hchars, List.length_map, hlength]
    have hlt : ofDigits 16 values < 2 ^ 128 := by
      have hpow := ofDigits_lt hbounded
      rw [hcount] at hpow
      exact hpow
    rw [hchars, digits, fixedNumeral_eq_map, BitVec.toNat_ofNat, Nat.mod_eq_of_lt hlt, ← hcount,
      fixedDigits_ofDigits hbounded]
  · rw [ofDigits?_of_length_ne hlength] at h
    cases h

/-- The lower-case digits are known, and the hyphens stand where they are put between them. -/
theorem map_toLower_of_ofGroups? (h : ofGroups? cs = some u) :
    cs.map Char.toLower = u.chars := by
  obtain ⟨ds, hjoined, hds⟩ := Option.bind_eq_some_iff.mp h
  have hlower : joinGroups? groupWidths (cs.map Char.toLower) = some u.digits := by
    rw [joinGroups?_toLower, hjoined, Option.map_some, map_toLower_of_ofDigits? hds]
  exact eq_intercalate_of_joinGroups? hlower

theorem eq_of_insideBraces? {inner : List Char} (h : insideBraces? cs = some inner) :
    cs = '\x7b' :: inner ++ ['\x7d'] := by
  rw [insideBraces?_eq_ite] at h
  split at h
  next hbraces =>
    obtain ⟨rest, rfl⟩ := List.head?_eq_some_iff.mp hbraces.1
    obtain ⟨body, hbody⟩ := List.getLast?_eq_some_iff.mp hbraces.2
    rw [List.tail_cons] at hbody h
    rw [hbody, List.dropLast_concat] at h
    rw [hbody, Option.some.inj h, List.cons_append]
  next => cases h

theorem map_toLower_of_afterUrnMark? {rest : List Char} (h : afterUrnMark? cs = some rest) :
    cs.map Char.toLower = urnMark ++ rest.map Char.toLower := by
  rw [afterUrnMark?] at h
  split at h
  next hmark =>
    rw [← Option.some.inj h, List.map_drop]
    nth_rewrite 1 [← hmark]
    rw [List.map_take, List.take_append_drop]
  next => cases h

/-- Whatever is read is in lower case a form of the identifier that it is read as. -/
theorem mem_forms_of_ofChars? (h : ofChars? cs = some u) : cs.map Char.toLower ∈ u.forms := by
  simp only [ofChars?, Option.orElse_eq_orElse, Option.orElse_eq_or, Option.or_eq_some_iff] at h
  rw [mem_forms]
  rcases h with hdigits | ⟨-, hgroups | ⟨-, hbraces | ⟨-, hname⟩⟩⟩
  · exact .inl (map_toLower_of_ofDigits? hdigits)
  · exact .inr (.inl (map_toLower_of_ofGroups? hgroups))
  · obtain ⟨inner, hinner, hgroups⟩ := Option.bind_eq_some_iff.mp hbraces
    refine .inr (.inr (.inl ?_))
    rw [eq_of_insideBraces? hinner, List.map_append, List.map_cons,
      map_toLower_of_ofGroups? hgroups]
    rfl
  · obtain ⟨rest, hrest, hgroups⟩ := Option.bind_eq_some_iff.mp hname
    refine .inr (.inr (.inr ?_))
    rw [map_toLower_of_afterUrnMark? hrest, map_toLower_of_ofGroups? hgroups]

/-! ### Each form is read -/

theorem ofGroups?_of_length_ne (h : cs.length ≠ 36) : ofGroups? cs = none := by
  cases hread : ofGroups? cs with
  | none => rfl
  | some u =>
    rw [← List.length_map Char.toLower, map_toLower_of_ofGroups? hread, length_chars] at h
    exact absurd rfl h

theorem ofChars?_braces (u : Uuid) : ofChars? ('\x7b' :: u.chars ++ ['\x7d']) = some u := by
  have hlength : ('\x7b' :: u.chars ++ ['\x7d']).length = 38 := by simp [length_chars]
  have hinside : insideBraces? ('\x7b' :: u.chars ++ ['\x7d']) = some u.chars := by
    simp [insideBraces?_eq_ite]
  rw [ofChars?, ofDigits?_of_length_ne (by omega), ofGroups?_of_length_ne (by omega), hinside,
    Option.bind_some, ofGroups?_chars]
  rfl

theorem ofChars?_urnMark (u : Uuid) : ofChars? (urnMark ++ u.chars) = some u := by
  have hlength : (urnMark ++ u.chars).length = 45 := by
    rw [List.length_append, length_chars]
    rfl
  have hinside : insideBraces? (urnMark ++ u.chars) = none := rfl
  have hmark : urnMark.map Char.toLower = urnMark := by decide
  have hafter : afterUrnMark? (urnMark ++ u.chars) = some u.chars := by
    rw [afterUrnMark?, List.take_left, List.drop_left, if_pos hmark]
  rw [ofChars?, ofDigits?_of_length_ne (by omega), ofGroups?_of_length_ne (by omega), hinside,
    hafter, Option.bind_some, ofGroups?_chars]
  rfl

theorem ofChars?_of_mem_forms (h : cs ∈ u.forms) : ofChars? cs = some u := by
  rcases mem_forms.mp h with hcs | hcs | hcs | hcs <;> rw [hcs]
  · rw [ofChars?, ofDigits?_digits]
    rfl
  · exact u.ofChars?_chars
  · exact u.ofChars?_braces
  · exact u.ofChars?_urnMark

end Forms

/-- A text is read as an identifier exactly when it spells it. -/
theorem read_eq_ok_iff {s : String} {u : Uuid} : read s = .ok u ↔ u.Spells s := by
  have hchars : read s = .ok u ↔ ofChars? s.toList = some u := by
    rw [read]
    cases ofChars? s.toList <;> simp
  rw [hchars]
  constructor
  · exact mem_forms_of_ofChars?
  · intro hspells
    rw [← ofChars?_toLower]
    exact ofChars?_of_mem_forms hspells

end Uuid

end Clearance
