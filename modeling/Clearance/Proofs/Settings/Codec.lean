import Clearance.Proofs.Decoding.Record
import Clearance.Settings.Codec

/-!
# The documents of layers

Nothing in a layer has to be there, so that a file is at fault only for what it does say: a section
that is no record, a setting of another type, or one that stands twice. What a layer is written as
is said here without a decoder, for tables as for lists, and in a file it is all that decodes.
-/

namespace Clearance

open Decoded

namespace Document

/-! ### Records without required fields -/

/-- The fields of a record: the members of a table in which none of the names stands twice, or the
items of a list in the order of the names. -/
inductive HasFields (names : List String) : Document → List (String × Document) → Prop where
  | table {members : List (String × Document)}
      (once : ((members.filter (·.1 ∈ names)).map Prod.fst).Nodup) :
      HasFields names (.table members) members
  | list (items : List Document) : HasFields names (.list items) (names.zip items)

section Members

variable {medium : Medium} (hmedium : medium ≠ .json) {specs : List FieldSpec}

include hmedium

theorem visitMembers_filter (seen : List String) (members : List (String × Document)) :
    visitMembers medium specs seen members =
      visitMembers medium specs seen (members.filter (·.1 ∈ specs.map FieldSpec.name)) := by
  induction members generalizing seen with
  | nil => rfl
  | cons first rest ih =>
    obtain ⟨name, d⟩ := first
    cases hspec : specs.find? (·.name = name) with
    | none =>
      have hunknown : name ∉ specs.map FieldSpec.name := by
        simpa using hspec
      rw [visitMembers, hspec, List.filter_cons_of_neg (by simpa using hunknown)]
      simp only [passOver_of_ne_json hmedium]
      exact ih seen
    | some spec =>
      have hknown : name ∈ specs.map FieldSpec.name := by
        have hname := List.find?_some hspec
        exact List.mem_map.mpr ⟨spec, List.mem_of_find?_eq_some hspec, of_decide_eq_true hname⟩
      rw [List.filter_cons_of_pos (by simpa using hknown), visitMembers, visitMembers, hspec]
      simp only [ih (name :: seen)]

omit hmedium in
theorem nodup_of_visitMembers {seen : List String} {members : List (String × Document)}
    (hknown : ∀ m ∈ members, m.1 ∈ specs.map FieldSpec.name)
    (h : visitMembers medium specs seen members = .ok ()) :
    (members.map Prod.fst).Nodup ∧ ∀ m ∈ members, m.1 ∉ seen := by
  induction members generalizing seen with
  | nil => simp
  | cons first rest ih =>
    obtain ⟨name, d⟩ := first
    obtain ⟨hname, hrest⟩ := List.forall_mem_cons.mp hknown
    rw [visitMembers] at h
    cases hspec : specs.find? (·.name = name) with
    | none =>
      have hunknown : name ∉ specs.map FieldSpec.name := by
        simpa using hspec
      exact absurd hname hunknown
    | some spec =>
      rw [hspec] at h
      by_cases hseen : name ∈ seen
      · simp [hseen, throw, throwThe, MonadExceptOf.throw, bind, Except.bind] at h
      · simp only [hseen, if_false, check_bind_eq_ok] at h
        obtain ⟨hnodup, hfresh⟩ := ih hrest h.2
        rw [List.map_cons, List.nodup_cons, List.forall_mem_cons]
        refine ⟨⟨?_, hnodup⟩, hseen, fun m hm hmem => hfresh m hm (List.mem_cons_of_mem _ hmem)⟩
        rintro hmem
        obtain ⟨m, hm, hsame⟩ := List.mem_map.mp hmem
        exact hfresh m hm (hsame ▸ List.mem_cons_self)

/-- Without a text to read on in, the members are visited without fault if none of the fields stands
twice and each has no fault by itself. -/
theorem visitMembers_eq_ok_iff (hspecs : (specs.map FieldSpec.name).Nodup)
    {members : List (String × Document)} :
    visitMembers medium specs [] members = .ok () ↔
      ((members.filter (·.1 ∈ specs.map FieldSpec.name)).map Prod.fst).Nodup ∧
        ∀ spec ∈ specs, ∀ d, members.lookup spec.name = some d → spec.check d = .ok () := by
  have hpass : ∀ m ∈ members.filter (·.1 ∈ specs.map FieldSpec.name),
      m.2.passOver medium = .ok () :=
    fun m _ => passOver_of_ne_json hmedium m.2
  have hchecked : ((members.filter (·.1 ∈ specs.map FieldSpec.name)).map Prod.fst).Nodup →
      (visitMembers medium specs [] members = .ok () ↔
        ∀ spec ∈ specs, ∀ d, members.lookup spec.name = some d → spec.check d = .ok ()) := by
    intro hnodup
    rw [visitMembers_filter hmedium, visitMembers_eq_ok specs [] hnodup hpass (by simp),
      visited_iff_checked hspecs hnodup]
    refine forall₂_congr fun spec hspec => ?_
    have hknown : spec.name ∈ specs.map FieldSpec.name := List.mem_map_of_mem hspec
    rw [lookup_filter (· ∈ specs.map FieldSpec.name) (decide_eq_true hknown)]
  constructor
  · intro h
    have hnodup : ((members.filter (·.1 ∈ specs.map FieldSpec.name)).map Prod.fst).Nodup := by
      rw [visitMembers_filter hmedium] at h
      exact (nodup_of_visitMembers (by simp) h).1
    exact ⟨hnodup, (hchecked hnodup).mp h⟩
  · rintro ⟨hnodup, hall⟩
    exact (hchecked hnodup).mpr hall

end Members

section Items

variable {specs : List FieldSpec} (hoptional : ∀ spec ∈ specs, spec.required = false)

include hoptional

theorem visitItems_eq_ok_iff (hspecs : (specs.map FieldSpec.name).Nodup) (tooShort : Nat → Fault)
    (index : Nat) (items : List Document) :
    visitItems tooShort index specs items = .ok () ↔
      ∀ spec ∈ specs, spec.MetBy ((specs.map FieldSpec.name).zip items) := by
  induction specs generalizing index items with
  | nil => simp [visitItems]
  | cons spec rest ih =>
    obtain ⟨hspec, hrest⟩ := List.forall_mem_cons.mp hoptional
    rw [List.map_cons, List.nodup_cons] at hspecs
    rw [List.forall_mem_cons]
    cases items with
    | nil =>
      rw [visitItems, hspec, if_neg (by simp), ih hrest hspecs.2]
      simp [FieldSpec.MetBy, hspec]
    | cons d items =>
      have hfirst : spec.MetBy ((spec.name, d) :: (rest.map FieldSpec.name).zip items) ↔
          spec.check d = .ok () := by
        simp [FieldSpec.MetBy]
      have hothers : ∀ other ∈ rest,
          (other.MetBy ((spec.name, d) :: (rest.map FieldSpec.name).zip items) ↔
            other.MetBy ((rest.map FieldSpec.name).zip items)) := by
        intro other hother
        have hne : (other.name == spec.name) = false := by
          rw [beq_eq_false_iff_ne]
          intro hsame
          exact hspecs.1 (hsame ▸ List.mem_map_of_mem hother)
        rw [FieldSpec.MetBy, FieldSpec.MetBy, List.lookup_cons, hne]
      rw [visitItems, check_bind_eq_ok, ih hrest hspecs.2, List.map_cons, List.zip_cons_cons,
        hfirst]
      exact and_congr_right fun _ => forall₂_congr fun other hother => (hothers other hother).symm

/-- In a file a record without required fields is its fields, and each of them has no fault by
itself. -/
theorem asRecord_toml_eq_ok (hspecs : (specs.map FieldSpec.name).Nodup) (name : String)
    {d : Document} {fields : List (String × Document)} :
    asRecord name specs .toml d = .ok fields ↔
      d.HasFields (specs.map FieldSpec.name) fields ∧ ∀ spec ∈ specs, spec.MetBy fields := by
  have hthere : ∀ members : List (String × Document),
      specs.find? (fun spec => spec.required && (members.lookup spec.name).isNone) = none := by
    intro members
    rw [List.find?_eq_none]
    intro spec hspec
    simp [hoptional spec hspec]
  cases d with
  | table members =>
    rw [asRecord, check_bind_eq_ok, visitMembers_eq_ok_iff (by decide) hspecs, hthere]
    constructor
    · rintro ⟨⟨honce, hchecked⟩, hfields⟩
      obtain rfl := pure_eq_ok.mp hfields
      refine ⟨.table honce, fun spec hspec => metBy_iff.mpr ⟨hchecked spec hspec, ?_⟩⟩
      simp [hoptional spec hspec]
    · rintro ⟨hfields, hmet⟩
      cases hfields with
      | table honce => exact ⟨⟨honce, fun spec hspec => (metBy_iff.mp (hmet spec hspec)).1⟩, rfl⟩
  | list items =>
    have hsurplus : (if specs.length < items.length then
        surplusFault .toml items.length specs.length else none) = none := ite_self _
    rw [asRecord, check_bind_eq_ok, visitItems_eq_ok_iff hoptional hspecs, hsurplus]
    constructor
    · rintro ⟨hmet, hfields⟩
      obtain rfl := pure_eq_ok.mp hfields
      exact ⟨.list items, hmet⟩
    · rintro ⟨hfields, hmet⟩
      cases hfields with
      | list => exact ⟨hmet, rfl⟩
  | _ =>
    refine iff_of_false (fun h => by cases h) ?_
    rintro ⟨hfields, -⟩
    cases hfields

theorem asRecord_toml_bind_eq_ok (hspecs : (specs.map FieldSpec.name).Nodup) (name : String)
    {d : Document} {α : Type} {f : List (String × Document) → Decoded α} {x : α} :
    (asRecord name specs .toml d >>= f) = .ok x ↔
      ∃ fields, d.HasFields (specs.map FieldSpec.name) fields ∧
        (∀ spec ∈ specs, spec.MetBy fields) ∧ f fields = .ok x := by
  simp only [bind_eq_ok, asRecord_toml_eq_ok hoptional hspecs, and_assoc]

end Items

/-- A field that is missing or null, or that holds a value. -/
def MayHold {α : Type} (holds : α → Document → Prop) (d? : Option Document) : Option α → Prop
  | none => d? = none ∨ d? = some .null
  | some x => ∃ d, d? = some d ∧ holds x d

theorem optionalField_eq_ok {α : Type} {decode : Document → Decoded α}
    {holds : α → Document → Prop} (hdecode : ∀ d x, decode d = .ok x ↔ holds x d)
    (hnull : ∀ x, ¬ holds x .null) {fields : List (String × Document)} {name : String}
    {x? : Option α} :
    optionalField fields name decode = .ok x? ↔ MayHold holds (fields.lookup name) x? := by
  rw [optionalField]
  cases fields.lookup name with
  | none => cases x? <;> simp [MayHold]
  | some d =>
    simp only [asOptional_eq_ok, hdecode]
    cases x? with
    | none => simp [MayHold]
    | some x =>
      constructor
      · rintro (⟨-, hx⟩ | ⟨-, y, hy, hx⟩)
        · cases hx
        · obtain rfl := Option.some.inj hx
          exact ⟨d, rfl, hy⟩
      · rintro ⟨d', hd, hx⟩
        obtain rfl := Option.some.inj hd
        exact .inr ⟨fun hd => hnull x (hd ▸ hx), x, hx, rfl⟩

theorem asBool_eq_ok {d : Document} {b : Bool} : d.asBool = .ok b ↔ d = .bool b := by
  cases d <;> simp [asBool]

theorem asText_eq_ok {d : Document} {s : String} : d.asText = .ok s ↔ d = .text s := by
  cases d <;> simp [asText]

end Document

/-! ### Layers -/

open Document

/-- A section with nothing but perhaps a truth value for the log of decisions. -/
def AbilityLayer.WrittenAs (l : AbilityLayer) (d : Document) : Prop :=
  ∃ fields, d.HasFields ["log_decisions"] fields ∧
    MayHold (fun b d => d = .bool b) (fields.lookup "log_decisions") l.logDecisions

def LoggingLayer.WrittenAs (l : LoggingLayer) (d : Document) : Prop :=
  ∃ fields, d.HasFields ["level", "json"] fields ∧
    MayHold (fun s d => d = .text s) (fields.lookup "level") l.level ∧
    MayHold (fun b d => d = .bool b) (fields.lookup "json") l.json

def ConfigLayer.WrittenAs (l : ConfigLayer) (d : Document) : Prop :=
  ∃ fields, d.HasFields ["ability", "logging"] fields ∧
    MayHold AbilityLayer.WrittenAs (fields.lookup "ability") l.ability ∧
    MayHold LoggingLayer.WrittenAs (fields.lookup "logging") l.logging

theorem AbilityLayer.decode_eq_ok {l : AbilityLayer} {d : Document} :
    AbilityLayer.decode .toml d = .ok l ↔ l.WrittenAs d := by
  obtain ⟨log?⟩ := l
  have hlog : ∀ {fields} {x? : Option Bool}, optionalField fields "log_decisions" asBool = .ok x? ↔
      MayHold (fun b d => d = .bool b) (fields.lookup "log_decisions") x? :=
    optionalField_eq_ok (fun _ _ => asBool_eq_ok) (by simp)
  rw [AbilityLayer.decode, asRecord_toml_bind_eq_ok (by simp [FieldSpec.optional]) (by decide)]
  simp only [bind_eq_ok, pure_eq_ok, AbilityLayer.mk.injEq, exists_eq_right, hlog]
  refine exists_congr fun fields => and_congr_right fun _ => ?_
  rw [and_iff_right_iff_imp]
  intro h
  rw [List.forall_mem_singleton]
  exact metBy_optional (hlog.mpr h)

theorem LoggingLayer.decode_eq_ok {l : LoggingLayer} {d : Document} :
    LoggingLayer.decode .toml d = .ok l ↔ l.WrittenAs d := by
  obtain ⟨level?, json?⟩ := l
  have hlevel : ∀ {fields} {x? : Option String}, optionalField fields "level" asText = .ok x? ↔
      MayHold (fun s d => d = .text s) (fields.lookup "level") x? :=
    optionalField_eq_ok (fun _ _ => asText_eq_ok) (by simp)
  have hjson : ∀ {fields} {x? : Option Bool}, optionalField fields "json" asBool = .ok x? ↔
      MayHold (fun b d => d = .bool b) (fields.lookup "json") x? :=
    optionalField_eq_ok (fun _ _ => asBool_eq_ok) (by simp)
  rw [LoggingLayer.decode, asRecord_toml_bind_eq_ok (by simp [FieldSpec.optional]) (by decide)]
  simp only [bind_eq_ok, pure_eq_ok, LoggingLayer.mk.injEq, hlevel, hjson, ↓existsAndEq, and_true]
  refine exists_congr fun fields => and_congr_right fun _ => ?_
  rw [and_iff_right_iff_imp]
  rintro ⟨hlevelHeld, hjsonHeld⟩
  rw [List.forall_mem_cons, List.forall_mem_singleton]
  exact ⟨metBy_optional (hlevel.mpr hlevelHeld), metBy_optional (hjson.mpr hjsonHeld)⟩

/-- What a layer is written as, a file decodes to, and nothing else. -/
theorem ConfigLayer.decode_eq_ok {l : ConfigLayer} {d : Document} :
    ConfigLayer.decode .toml d = .ok l ↔ l.WrittenAs d := by
  obtain ⟨ability?, logging?⟩ := l
  have hability : ∀ {fields} {x? : Option AbilityLayer},
      optionalField fields "ability" (AbilityLayer.decode .toml) = .ok x? ↔
        MayHold AbilityLayer.WrittenAs (fields.lookup "ability") x? :=
    optionalField_eq_ok (fun _ _ => AbilityLayer.decode_eq_ok) fun _ ⟨_, h, _⟩ => by cases h
  have hlogging : ∀ {fields} {x? : Option LoggingLayer},
      optionalField fields "logging" (LoggingLayer.decode .toml) = .ok x? ↔
        MayHold LoggingLayer.WrittenAs (fields.lookup "logging") x? :=
    optionalField_eq_ok (fun _ _ => LoggingLayer.decode_eq_ok) fun _ ⟨_, h, _⟩ => by cases h
  rw [ConfigLayer.decode, asRecord_toml_bind_eq_ok (by simp [FieldSpec.optional])
    (by simp [FieldSpec.optional])]
  simp only [bind_eq_ok, pure_eq_ok, ConfigLayer.mk.injEq, hability, hlogging, ↓existsAndEq,
    and_true]
  refine exists_congr fun fields => and_congr_right fun _ => ?_
  rw [and_iff_right_iff_imp]
  rintro ⟨habilityHeld, hloggingHeld⟩
  rw [List.forall_mem_cons, List.forall_mem_singleton]
  exact ⟨metBy_optional (hability.mpr habilityHeld), metBy_optional (hlogging.mpr hloggingHeld)⟩

end Clearance
