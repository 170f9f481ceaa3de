import Clearance.Document.Basic
import Mathlib.Data.String.Basic

/-!
# Documents as values

A document that is taken as a value keeps one member of each name, the last one, and the members
stand in the order of their names. So no name is there twice, and looking a name up in the value is
looking it up from the end of the document.
-/

namespace Clearance.Document

/-- The value of the last member with a name, which is the one that counts. -/
def lastMember? (name : String) : Document → Option Document
  | table members => members.reverse.lookup name
  | _ => none

theorem table_of_lastMember? {name : String} {record d : Document}
    (h : record.lastMember? name = some d) : ∃ members, record = .table members := by
  cases record with
  | table members => exact ⟨members, rfl⟩
  | _ => simp [lastMember?] at h

/-- The members stand in the strict order of their names. -/
def InNameOrder (members : List (String × Document)) : Prop :=
  members.Pairwise fun a b => a.1 < b.1

theorem InNameOrder.nodup {members : List (String × Document)} (horder : InNameOrder members) :
    (members.map Prod.fst).Nodup := by
  rw [List.Nodup, List.pairwise_map]
  exact horder.imp fun hlt => ne_of_lt hlt

theorem InNameOrder.lookup_eq_none {members : List (String × Document)} {name : String}
    (hbefore : ∀ m ∈ members, name < m.1) : members.lookup name = none := by
  rw [List.lookup_eq_none_iff]
  intro m hm
  rw [bne_iff_ne]
  exact ne_of_lt (hbefore m hm)

theorem mem_insertMember {name : String} {value : Document} {members : List (String × Document)}
    {m : String × Document} (hm : m ∈ insertMember name value members) :
    m = (name, value) ∨ m ∈ members := by
  induction members with
  | nil => exact .inl (List.mem_singleton.mp hm)
  | cons first rest ih =>
    obtain ⟨other, v⟩ := first
    rw [insertMember] at hm
    split at hm
    · exact List.mem_cons.mp hm
    · split at hm
      · exact .inr hm
      · rcases List.mem_cons.mp hm with hfirst | hrest
        · exact .inr (List.mem_cons.mpr (.inl hfirst))
        · exact (ih hrest).imp id (List.mem_cons_of_mem _)

theorem insertMember_inNameOrder (name : String) (value : Document)
    {members : List (String × Document)} (horder : InNameOrder members) :
    InNameOrder (insertMember name value members) := by
  induction members with
  | nil => exact List.pairwise_singleton _ _
  | cons first rest ih =>
    obtain ⟨other, v⟩ := first
    obtain ⟨hfirst, hrest⟩ := List.pairwise_cons.mp horder
    rw [insertMember]
    split
    next hlt =>
      refine List.pairwise_cons.mpr ⟨?_, horder⟩
      rw [List.forall_mem_cons]
      exact ⟨hlt, fun m hm => lt_trans hlt (hfirst m hm)⟩
    next hnlt =>
      split
      next => exact horder
      next hne =>
        refine List.pairwise_cons.mpr ⟨?_, ih hrest⟩
        intro m hm
        rcases mem_insertMember hm with rfl | hm
        · exact lt_of_le_of_ne (not_lt.mp hnlt) (Ne.symm hne)
        · exact hfirst m hm

theorem canonicalMembers_inNameOrder (members : List (String × Document)) :
    InNameOrder (canonicalMembers members) := by
  induction members with
  | nil =>
    rw [canonicalMembers]
    exact List.Pairwise.nil
  | cons first rest ih =>
    rw [canonicalMembers]
    exact insertMember_inNameOrder _ _ ih

theorem mem_canonicalMembers {members : List (String × Document)} {m : String × Document}
    (hm : m ∈ canonicalMembers members) : ∃ d, (m.1, d) ∈ members ∧ m.2 = d.canonical := by
  induction members with
  | nil => simp [canonicalMembers] at hm
  | cons first rest ih =>
    obtain ⟨name, d⟩ := first
    rw [canonicalMembers] at hm
    rcases mem_insertMember hm with rfl | hm
    · exact ⟨d, List.mem_cons_self, rfl⟩
    · obtain ⟨other, hother, hvalue⟩ := ih hm
      exact ⟨other, List.mem_cons_of_mem _ hother, hvalue⟩

theorem lookup_singleton (key name : String) (value : Document) :
    [(name, value)].lookup key = if key = name then some value else none := by
  by_cases hkey : key = name
  · rw [hkey, List.lookup_cons_self, if_pos rfl]
  · rw [List.lookup_cons, beq_eq_false_iff_ne.mpr hkey, if_neg hkey, List.lookup_nil]

/-- A member that is put in its place can be looked up unless its name was there already. -/
theorem lookup_insertMember (key name : String) (value : Document)
    {members : List (String × Document)} (horder : InNameOrder members) :
    (insertMember name value members).lookup key =
      (members.lookup key).or (if key = name then some value else none) := by
  induction members with
  | nil => exact lookup_singleton key name value
  | cons first rest ih =>
    obtain ⟨other, v⟩ := first
    obtain ⟨hfirst, hrest⟩ := List.pairwise_cons.mp horder
    rw [insertMember]
    split
    next hlt =>
      by_cases hkey : key = name
      · subst hkey
        have habsent : ((other, v) :: rest).lookup key = none := by
          apply InNameOrder.lookup_eq_none
          rw [List.forall_mem_cons]
          exact ⟨hlt, fun m hm => lt_trans hlt (hfirst m hm)⟩
        rw [habsent, List.lookup_cons_self, if_pos rfl, Option.none_or]
      · rw [List.lookup_cons, beq_eq_false_iff_ne.mpr hkey, if_neg hkey, Option.or_none]
    next hnlt =>
      split
      next heq =>
        subst heq
        by_cases hkey : key = name
        · subst hkey
          rw [List.lookup_cons_self, Option.some_or]
        · rw [if_neg hkey, Option.or_none]
      next hne =>
        rw [List.lookup_cons, List.lookup_cons]
        cases key == other with
        | true => rfl
        | false => exact ih hrest

theorem lookup_canonicalMembers (name : String) (members : List (String × Document)) :
    (canonicalMembers members).lookup name = (members.reverse.lookup name).map canonical := by
  induction members with
  | nil =>
    rw [canonicalMembers]
    rfl
  | cons first rest ih =>
    obtain ⟨other, d⟩ := first
    rw [canonicalMembers, lookup_insertMember _ _ _ (canonicalMembers_inNameOrder rest), ih,
      List.reverse_cons, List.lookup_append, Option.map_or, lookup_singleton]
    congr 1
    by_cases hname : name = other <;> simp [hname]

/-- The value of a document has the last member of each name. -/
theorem member?_canonical (name : String) (d : Document) :
    d.canonical.member? name = (d.lastMember? name).map canonical := by
  cases d with
  | table members => rw [canonical]; exact lookup_canonicalMembers name members
  | _ => rfl

theorem canonical_eq_null {d : Document} : d.canonical = .null ↔ d = .null := by
  cases d <;> simp [canonical]

theorem canonical_eq_text {d : Document} {s : String} : d.canonical = .text s ↔ d = .text s := by
  cases d <;> simp [canonical]

end Clearance.Document
