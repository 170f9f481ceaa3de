import Clearance.Decoding.Basic
import Clearance.Proofs.Document.Json.Literal

/-!
# Documents read back

Reading the text of a document gives the document, as long as it has no cut and no number but
integers that a literal can have as its value. The reader needs no more fuel than twice the length
of what it reads, so that it never runs out on a text of its own.
-/

namespace Clearance

namespace Document

/-- The documents that their texts stand for: whole, and with no numbers but integers that a literal
can have as its value. -/
inductive Exact : Document → Prop
  | null : Exact .null
  | bool (b : Bool) : Exact (.bool b)
  | int (n : Int) (literal : Json.IsLiteral n) : Exact (.int n)
  | text (s : String) : Exact (.text s)
  | list (items : List Document) (exact : ∀ d ∈ items, Exact d) : Exact (.list items)
  | table (members : List (String × Document)) (exact : ∀ m ∈ members, Exact m.2) :
      Exact (.table members)

/-- Wherever the text of the document stands, the document is read from it. -/
def ReadsBack (d : Document) : Prop :=
  ∀ fuel rest, 2 * d.jsonChars.length ≤ fuel + 1 → Json.EndsNumber rest →
    Json.readValue (fuel + 1) (d.jsonChars ++ rest) = (d, some rest)

end Document

namespace Json

open Document

theorem endsNumber_cons {c : Char} (hc : c = ',' ∨ c = ']' ∨ c = '\x7d') (rest : List Char) :
    EndsNumber (c :: rest) := by
  intro other hother
  obtain rfl : c = other := by simpa using hother
  rcases hc with rfl | rfl | rfl <;> decide

/-! ### Where a value starts -/

/-- A value starts neither with a blank nor with the end of a list. -/
theorem jsonChars_head {d : Document} (hd : d.Exact) :
    ∃ c cs, d.jsonChars = c :: cs ∧ isBlank c = false ∧ c ≠ ']' := by
  cases hd with
  | null => exact ⟨'n', _, rfl, rfl, by decide⟩
  | bool b =>
    cases b with
    | true => exact ⟨'t', _, rfl, rfl, by decide⟩
    | false => exact ⟨'f', _, rfl, rfl, by decide⟩
  | int n _ =>
    obtain ⟨c, cs, hcs, hc, -⟩ := integerNumeral_shape n
    have hall : ∀ c ∈ "-0123456789".toList, isBlank c = false ∧ c ≠ ']' := by simp [isBlank]
    exact ⟨c, cs, hcs, hall c hc⟩
  | text s => exact ⟨'"', _, rfl, rfl, by decide⟩
  | list items _ => exact ⟨'[', _, rfl, rfl, by decide⟩
  | table members _ => exact ⟨'\x7b', _, rfl, rfl, by decide⟩

theorem skipBlanks_cons {c : Char} (hc : isBlank c = false) (cs : List Char) :
    skipBlanks (c :: cs) = c :: cs := by
  rw [skipBlanks, List.dropWhile_cons, hc]
  rfl

/-! ### Values without parts -/

theorem readValue_number {c : Char} (hc : c ∈ "-0123456789".toList) (fuel : Nat)
    {cs rest : List Char} {d : Document} (h : readNumber (c :: cs) = some (d, rest)) :
    readValue (fuel + 1) (c :: cs) = (d, some rest) := by
  have hall : ∀ c ∈ "-0123456789".toList, isBlank c = false ∧ c ≠ 'n' ∧ c ≠ 't' ∧ c ≠ 'f' ∧
      c ≠ '"' ∧ c ≠ '[' ∧ c ≠ '\x7b' := by simp [isBlank]
  obtain ⟨hblank, hmarks⟩ := hall c hc
  rw [readValue, skipBlanks_cons hblank]
  split <;> simp_all

theorem readsBack_int {n : Int} (hn : IsLiteral n) : (Document.int n).ReadsBack := by
  intro fuel rest _ hrest
  have hnumber := readNumber_integerNumeral hrest hn
  obtain ⟨c, cs, hcs, hc, -⟩ := integerNumeral_shape n
  rw [hcs] at hnumber
  rw [jsonChars, hcs]
  exact readValue_number hc fuel hnumber

theorem readsBack_text (s : String) : (Document.text s).ReadsBack := by
  intro fuel rest _ _
  obtain ⟨more, hmore, hread⟩ := readString_quote s rest
  rw [jsonChars, hmore, readValue, skipBlanks_cons rfl]
  simp [hread]

/-! ### One item, one member -/

theorem readItems_last {fuel : Nat} {cs rest : List Char} {d : Document}
    (hd : readValue fuel cs = (d, some (']' :: rest))) :
    readItems (fuel + 1) cs = ([d], some rest) := by
  rw [readItems, hd]
  rfl

theorem readItems_next {fuel : Nat} {cs more rest : List Char} {d : Document}
    {items : List Document} (hd : readValue fuel cs = (d, some (',' :: more)))
    (hmore : readItems fuel more = (items, some rest)) :
    readItems (fuel + 1) cs = (d :: items, some rest) := by
  rw [readItems, hd]
  simp only [skipBlanks_cons (show isBlank ',' = false from rfl), hmore]

theorem readMembers_last {fuel : Nat} {name : String} {cs rest : List Char} {d : Document}
    (hd : readValue fuel cs = (d, some ('\x7d' :: rest))) :
    readMembers (fuel + 1) (quote name ++ ':' :: cs) = ([(name, d)], some rest) := by
  obtain ⟨more, hname, hread⟩ := readString_quote name (':' :: cs)
  rw [hname, readMembers, skipBlanks_cons rfl]
  simp only [hread, skipBlanks_cons (show isBlank ':' = false from rfl), hd,
    skipBlanks_cons (show isBlank '\x7d' = false from rfl)]

theorem readMembers_next {fuel : Nat} {name : String} {cs next rest : List Char} {d : Document}
    {members : List (String × Document)} (hd : readValue fuel cs = (d, some (',' :: next)))
    (hnext : readMembers fuel next = (members, some rest)) :
    readMembers (fuel + 1) (quote name ++ ':' :: cs) = ((name, d) :: members, some rest) := by
  obtain ⟨more, hname, hread⟩ := readString_quote name (':' :: cs)
  rw [hname, readMembers, skipBlanks_cons rfl]
  simp only [hread, skipBlanks_cons (show isBlank ':' = false from rfl), hd,
    skipBlanks_cons (show isBlank ',' = false from rfl), hnext]

/-! ### Lists and tables -/

theorem jsonItems_cons_cons (d next : Document) (items : List Document) :
    jsonItems (d :: next :: items) = d.jsonChars ++ ',' :: jsonItems (next :: items) := by
  rw [jsonItems]
  exact List.cons_ne_nil next items

theorem jsonMembers_cons_cons (name : String) (d : Document) (next : String × Document)
    (members : List (String × Document)) :
    jsonMembers ((name, d) :: next :: members) =
      quote name ++ ':' :: d.jsonChars ++ ',' :: jsonMembers (next :: members) := by
  rw [jsonMembers]
  exact List.cons_ne_nil next members

/-- Members stand one after another with commas between them. -/
theorem jsonMembers_eq_intercalate (members : List (String × Document)) :
    jsonMembers members =
      [','].intercalate (members.map fun (name, d) => quote name ++ ':' :: d.jsonChars) := by
  induction members with
  | nil => rfl
  | cons member members ih =>
    cases members with
    | nil => simp [jsonMembers, List.intercalate]
    | cons next members =>
      rw [jsonMembers_cons_cons, ih]
      simp only [List.map_cons, List.intercalate_cons_cons, List.append_assoc,
        List.singleton_append]

theorem readItems_jsonItems {items : List Document} (hne : items ≠ [])
    (hitems : ∀ d ∈ items, d.ReadsBack) {fuel : Nat}
    (hfuel : 2 * (jsonItems items).length ≤ fuel) (rest : List Char) :
    readItems (fuel + 2) (jsonItems items ++ ']' :: rest) = (items, some rest) := by
  induction items generalizing fuel with
  | nil => exact absurd rfl hne
  | cons d items ih =>
    obtain ⟨hd, hrest⟩ := List.forall_mem_cons.mp hitems
    cases items with
    | nil =>
      rw [jsonItems] at hfuel ⊢
      exact readItems_last (hd fuel _ (by omega) (endsNumber_cons (by simp) rest))
    | cons next items =>
      rw [jsonItems_cons_cons, List.length_append, List.length_cons] at hfuel
      obtain ⟨fuel, rfl⟩ := Nat.exists_eq_add_one.mpr (show 0 < fuel by omega)
      rw [jsonItems_cons_cons, List.append_assoc, List.cons_append]
      exact readItems_next (hd _ _ (by omega) (endsNumber_cons (by simp) _))
        (ih (List.cons_ne_nil next items) hrest (by omega))

theorem readMembers_jsonMembers {members : List (String × Document)} (hne : members ≠ [])
    (hmembers : ∀ m ∈ members, m.2.ReadsBack) {fuel : Nat}
    (hfuel : 2 * (jsonMembers members).length ≤ fuel) (rest : List Char) :
    readMembers (fuel + 2) (jsonMembers members ++ '\x7d' :: rest) = (members, some rest) := by
  induction members generalizing fuel with
  | nil => exact absurd rfl hne
  | cons member members ih =>
    obtain ⟨name, d⟩ := member
    obtain ⟨hd, hrest⟩ := List.forall_mem_cons.mp hmembers
    change d.ReadsBack at hd
    cases members with
    | nil =>
      rw [jsonMembers, List.length_append, List.length_cons] at hfuel
      rw [jsonMembers, List.append_assoc, List.cons_append]
      exact readMembers_last (hd fuel _ (by omega) (endsNumber_cons (by simp) rest))
    | cons next members =>
      rw [jsonMembers_cons_cons, List.length_append, List.length_append, List.length_cons,
        List.length_cons] at hfuel
      obtain ⟨fuel, rfl⟩ := Nat.exists_eq_add_one.mpr (show 0 < fuel by omega)
      rw [jsonMembers_cons_cons, List.append_assoc, List.append_assoc, List.cons_append,
        List.cons_append]
      exact readMembers_next (hd _ _ (by omega) (endsNumber_cons (by simp) _))
        (ih (List.cons_ne_nil next members) hrest (by omega))

theorem readsBack_list {items : List Document} (hexact : ∀ d ∈ items, d.Exact)
    (hitems : ∀ d ∈ items, d.ReadsBack) : (Document.list items).ReadsBack := by
  intro fuel rest hfuel _
  rw [jsonChars, List.length_append, List.length_cons, List.length_singleton] at hfuel
  obtain ⟨fuel, rfl⟩ : ∃ f, fuel = f + 2 := ⟨fuel - 2, by omega⟩
  rw [jsonChars, List.cons_append, List.cons_append, List.append_assoc, List.singleton_append,
    readValue, skipBlanks_cons rfl]
  cases items with
  | nil => rfl
  | cons d items =>
    have hread := readItems_jsonItems (List.cons_ne_nil d items) hitems
      (show 2 * (jsonItems (d :: items)).length ≤ fuel by omega) rest
    obtain ⟨c, cs, hcs, hblank, hend⟩ := jsonChars_head (hexact d List.mem_cons_self)
    obtain ⟨more, hmore⟩ : ∃ more, jsonItems (d :: items) = c :: more := by
      cases items with
      | nil => exact ⟨cs, hcs⟩
      | cons next items => exact ⟨_, by rw [jsonItems_cons_cons, hcs, List.cons_append]⟩
    rw [hmore] at hread ⊢
    simp only [List.cons_append, skipBlanks_cons hblank] at hread ⊢
    split
    next h => exact absurd (List.cons.inj h).1 hend
    next h => rw [hread]

theorem readsBack_table {members : List (String × Document)}
    (hmembers : ∀ m ∈ members, m.2.ReadsBack) : (Document.table members).ReadsBack := by
  intro fuel rest hfuel _
  rw [jsonChars, List.length_append, List.length_cons, List.length_singleton] at hfuel
  obtain ⟨fuel, rfl⟩ : ∃ f, fuel = f + 2 := ⟨fuel - 2, by omega⟩
  rw [jsonChars, List.cons_append, List.cons_append, List.append_assoc, List.singleton_append,
    readValue, skipBlanks_cons rfl]
  cases members with
  | nil => rfl
  | cons member members =>
    obtain ⟨name, d⟩ := member
    have hread := readMembers_jsonMembers (List.cons_ne_nil (name, d) members) hmembers
      (show 2 * (jsonMembers ((name, d) :: members)).length ≤ fuel by omega) rest
    obtain ⟨more, hmore⟩ : ∃ more, jsonMembers ((name, d) :: members) = '"' :: more := by
      cases members with
      | nil => exact ⟨_, rfl⟩
      | cons next members => exact ⟨_, by rw [jsonMembers_cons_cons, quote]; rfl⟩
    rw [hmore] at hread ⊢
    simp only [List.cons_append, skipBlanks_cons (show isBlank '"' = false from rfl)] at hread ⊢
    simp [hread]

/-! ### Every document -/

theorem readsBack_of_exact {d : Document} (hd : d.Exact) : d.ReadsBack := by
  induction hd with
  | null => exact fun _ _ _ _ => rfl
  | bool b => cases b <;> exact fun _ _ _ _ => rfl
  | int n literal => exact readsBack_int literal
  | text s => exact readsBack_text s
  | list items hexact ih => exact readsBack_list hexact ih
  | table members _ ih => exact readsBack_table ih

/-- The text of a document is read as the document, to its end. -/
theorem read_jsonText {d : Document} (hd : d.Exact) : read d.jsonText = (d, true) := by
  have hread := readsBack_of_exact hd (2 * d.jsonChars.length + 1) [] (by omega) endsNumber_nil
  rw [List.append_nil] at hread
  rw [read, jsonText, String.toList_ofList]
  simp [hread, skipBlanks]

end Json

namespace Document

theorem skippableItems_iff {items : List Document} :
    skippableItems items = true ↔ ∀ d ∈ items, d.skippable = true := by
  induction items with
  | nil => simp [skippableItems]
  | cons d items ih => simp [skippableItems, ih]

theorem skippableMembers_iff {members : List (String × Document)} :
    skippableMembers members = true ↔ ∀ m ∈ members, m.2.skippable = true := by
  induction members with
  | nil => simp [skippableMembers]
  | cons m members ih =>
    obtain ⟨name, d⟩ := m
    rw [skippableMembers, Bool.and_eq_true, ih, List.forall_mem_cons]

theorem Exact.skippable {d : Document} (hd : d.Exact) : d.skippable = true := by
  induction hd with
  | list items _ ih => exact skippableItems_iff.mpr ih
  | table members _ ih => exact skippableMembers_iff.mpr ih
  | _ => rfl

theorem Exact.passOver {d : Document} (hd : d.Exact) (medium : Medium) :
    d.passOver medium = .ok () := by
  rw [Document.passOver, if_neg (fun h => h.2 hd.skippable)]

end Document

/-- What a text decodes to is what the document in it decodes to, if nothing follows that. -/
theorem Decoder.text_eq_ok_iff {α : Type} {decode : Decoder α} {s : String} {x : α} :
    decode.text s = .ok x ↔ ∃ d, Json.read s = (d, true) ∧ decode .json d = .ok x := by
  rw [Decoder.text]
  rcases Json.read s with ⟨d, complete⟩
  cases complete <;> cases hd : decode .json d <;> simp [hd, bind, Except.bind, pure, Except.pure]

/-- Decoding the text of a document is decoding the document. -/
theorem Decoder.text_jsonText {α : Type} (decode : Decoder α) {d : Document} (hd : d.Exact) :
    decode.text d.jsonText = decode .json d := by
  simp only [Decoder.text, Json.read_jsonText hd]
  cases decode .json d <;> rfl

end Clearance
