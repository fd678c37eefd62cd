import Mathlib
import Rollup.Proofs.Entries
import Rollup.Proofs.Json
import Rollup.Proofs.Time.Timestamp

/-!
Plain forms. The plain form of a value is plain data, it is its own plain form, and it mirrors the
value part by part: lists keep their items, records their fields, and mappings from texts and tiers
their entries, all in order. Other keys of a mapping may become one text; then one entry stands for
them.
-/
namespace Rollup

namespace Value

/-- The mapping from some texts. -/
def ofTexts (entries : List (String × Value)) : Value :=
  .mapping (entries.map fun entry => (.text entry.1, entry.2))

/-- The text of a key that is a text or a tier. -/
def label? : Value → Option String
  | .text name => some name
  | .tier level => some level.label
  | _ => none

/-- Plain data: nothing but constants, numbers, texts, lists and mappings from texts. -/
inductive IsPlain : Value → Prop
  | null : IsPlain .null
  | bool (value : Bool) : IsPlain (.bool value)
  | int (value : Int) : IsPlain (.int value)
  | float (value : Float) : IsPlain (.float value)
  | text (value : String) : IsPlain (.text value)
  | list {items : List Value} (hItems : ∀ item ∈ items, IsPlain item) : IsPlain (.list items)
  | mapping {entries : List (String × Value)} (hKeys : (entries.map Prod.fst).Nodup)
      (hValues : ∀ entry ∈ entries, IsPlain entry.2) : IsPlain (ofTexts entries)

/-- A value that has a plain form: it holds no span of time, no key of a mapping comes twice in it,
and no field of a record. -/
inductive Encodable : Value → Prop
  | null : Encodable .null
  | bool (value : Bool) : Encodable (.bool value)
  | int (value : Int) : Encodable (.int value)
  | float (value : Float) : Encodable (.float value)
  | text (value : String) : Encodable (.text value)
  | tier (value : Tier) : Encodable (.tier value)
  | time (value : Timestamp) : Encodable (.time value)
  | list {items : List Value} (hItems : ∀ item ∈ items, Encodable item) : Encodable (.list items)
  | tuple {items : List Value} (hItems : ∀ item ∈ items, Encodable item) : Encodable (.tuple items)
  | mapping {entries : List (Value × Value)} (hKeys : ∀ entry ∈ entries, Encodable entry.1)
      (hValues : ∀ entry ∈ entries, Encodable entry.2)
      (hApart : entries.Pairwise fun a b => sameKey a.1 b.1 = false) : Encodable (.mapping entries)
  | record {fields : List (String × Value)} (hValues : ∀ field ∈ fields, Encodable field.2)
      (hNames : (fields.map Prod.fst).Nodup) : Encodable (.record fields)

attribute [simp] Encodable.null Encodable.bool Encodable.int Encodable.float Encodable.text
  Encodable.tier Encodable.time

@[simp] theorem encodable_list {items : List Value} :
    (list items).Encodable ↔ ∀ item ∈ items, item.Encodable := by
  constructor
  · rintro ⟨⟩
    assumption
  · exact .list

@[simp] theorem encodable_record {fields : List (String × Value)} :
    (record fields).Encodable ↔
      (∀ field ∈ fields, field.2.Encodable) ∧ (fields.map Prod.fst).Nodup := by
  constructor
  · rintro ⟨⟩
    constructor <;> assumption
  · exact fun ⟨hValues, hNames⟩ => .record hValues hNames

/-- The second value says in plain data what the first one says, part by part. -/
inductive Mirrors : Value → Value → Prop
  | null : Mirrors .null .null
  | bool (value : Bool) : Mirrors (.bool value) (.bool value)
  | int (value : Int) : Mirrors (.int value) (.int value)
  | float (value : Float) : Mirrors (.float value) (.float value)
  | text (value : String) : Mirrors (.text value) (.text value)
  | tier (value : Tier) : Mirrors (.tier value) (.text value.label)
  | time (value : Timestamp) : Mirrors (.time value) (.text value.toText)
  | list {items others : List Value} (hItems : List.Forall₂ Mirrors items others) :
      Mirrors (.list items) (.list others)
  | tuple {items others : List Value} (hItems : List.Forall₂ Mirrors items others) :
      Mirrors (.tuple items) (.list others)
  | record {fields others : List (String × Value)}
      (hNames : fields.map Prod.fst = others.map Prod.fst)
      (hValues : List.Forall₂ Mirrors (fields.map Prod.snd) (others.map Prod.snd)) :
      Mirrors (.record fields) (ofTexts others)
  | labelled {entries : List (Value × Value)} {others : List (String × Value)}
      (hLabels : entries.map (fun entry => label? entry.1) = others.map fun other => some other.1)
      (hValues : List.Forall₂ Mirrors (entries.map Prod.snd) (others.map Prod.snd))
      (hApart : (others.map Prod.fst).Nodup) : Mirrors (.mapping entries) (ofTexts others)
  | merged {entries : List (Value × Value)} {keys : List Value} {rows : List (String × Value)}
      (hOther : ∃ entry ∈ entries, label? entry.1 = none)
      (hKeys : List.Forall₂ Mirrors (entries.map Prod.fst) keys)
      (hTexts : rows.map Prod.fst = keys.map display)
      (hValues : List.Forall₂ Mirrors (entries.map Prod.snd) (rows.map Prod.snd)) :
      Mirrors (.mapping entries) (ofTexts (Entries.ofList (· == ·) rows))

variable {value other key : Value} {name otherName : String}

theorem label?_eq (h : label? key ≠ none) : label? key = some key.plain.display := by
  cases key with
  | text text => rfl
  | tier level => rfl
  | _ => exact absurd rfl h

/-- Texts and tiers are one key exactly if they have one text. -/
theorem sameKey_of_label? (h : label? key = some name) (hOther : label? other = some otherName) :
    sameKey key other = (name == otherName) := by
  cases key with
  | text text =>
      cases h
      cases other with
      | text otherText =>
          cases hOther
          rw [sameKey]
      | tier level =>
          cases hOther
          rw [sameKey]
      | _ => cases hOther
  | tier level =>
      cases h
      cases other with
      | text otherText =>
          cases hOther
          rw [sameKey]
      | tier otherLevel =>
          cases hOther
          rw [sameKey]
          cases level <;> cases otherLevel <;> rfl
      | _ => cases hOther
  | _ => cases h

/-- A record becomes a mapping from its field names. -/
theorem plain_record (fields : List (String × Value)) :
    (record fields).plain = ofTexts (fields.map fun field => (field.1, field.2.plain)) := by
  rw [plain, Json.plainFields_eq, ofTexts, List.map_map]
  rfl

/-- A mapping becomes one from the texts of its keys. -/
theorem plain_mapping (entries : List (Value × Value)) :
    (mapping entries).plain = ofTexts (Entries.ofList (· == ·)
      (entries.map fun entry => (entry.1.plain.display, entry.2.plain))) := by
  have hSame : ∀ a b : String, sameKey (.text a) (.text b) = (a == b) := by
    intro a b
    rw [sameKey]
  rw [plain, Json.plainEntries_eq, ofEntries, ofTexts, ← Entries.ofList_map_key _ hSame,
    List.map_map]
  rfl

/-- Texts that all differ stay the keys that they are. -/
theorem plain_ofTexts {entries : List (String × Value)} (h : (entries.map Prod.fst).Nodup) :
    (ofTexts entries).plain = ofTexts (entries.map fun entry => (entry.1, entry.2.plain)) := by
  have hApart : (entries.map fun entry => (entry.1, entry.2.plain)).Pairwise
      fun a b => (a.1 == b.1) = false := by
    rw [List.pairwise_map]
    rw [List.Nodup, List.pairwise_map] at h
    exact h.imp fun hNe => beq_false_of_ne hNe
  rw [ofTexts, plain_mapping, List.map_map]
  exact congrArg ofTexts (Entries.ofList_of_pairwise hApart)

/-- Plain data is its own plain form. -/
theorem IsPlain.plain_eq (h : value.IsPlain) : value.plain = value := by
  induction h with
  | @list items hItems ih =>
      rw [plain, Json.plainItems_eq, List.map_congr_left (g := id) ih, List.map_id]
  | @mapping entries hKeys hValues ih =>
      have hSame : ∀ entry ∈ entries, (entry.1, entry.2.plain) = id entry :=
        fun entry hMem => Prod.ext rfl (ih entry hMem)
      rw [plain_ofTexts hKeys, List.map_congr_left hSame, List.map_id]
  | _ => rfl

/-- The keys of a mapping of texts and tiers have texts that all differ. -/
theorem nodup_display {entries : List (Value × Value)}
    (hLabels : ∀ entry ∈ entries, label? entry.1 ≠ none)
    (hApart : entries.Pairwise fun a b => sameKey a.1 b.1 = false) :
    (entries.map fun entry => entry.1.plain.display).Nodup := by
  rw [List.Nodup, List.pairwise_map]
  refine hApart.imp_of_mem ?_
  intro a b hA hB hOther hSame
  rw [sameKey_of_label? (label?_eq (hLabels a hA)) (label?_eq (hLabels b hB)), hSame,
    beq_self_eq_true] at hOther
  cases hOther

/-- A mapping of texts and tiers keeps every entry. -/
theorem plain_labelled {entries : List (Value × Value)}
    (hLabels : ∀ entry ∈ entries, label? entry.1 ≠ none)
    (hApart : entries.Pairwise fun a b => sameKey a.1 b.1 = false) :
    (mapping entries).plain =
      ofTexts (entries.map fun entry => (entry.1.plain.display, entry.2.plain)) := by
  have hNames := nodup_display hLabels hApart
  rw [List.Nodup, List.pairwise_map] at hNames
  rw [plain_mapping, Entries.ofList_of_pairwise]
  rw [List.pairwise_map]
  exact hNames.imp fun hNe => beq_false_of_ne hNe

/-- The plain form of an encodable value is plain data. -/
theorem Encodable.isPlain_plain (h : value.Encodable) : value.plain.IsPlain := by
  induction h with
  | null => exact .null
  | bool value => exact .bool value
  | int value => exact .int value
  | float value => exact .float value
  | text value => exact .text value
  | tier value => exact .text value.label
  | time value => exact .text value.toText
  | list hItems ih | tuple hItems ih =>
      rw [plain, Json.plainItems_eq]
      exact .list (List.forall_mem_map.mpr ih)
  | mapping hKeys hValues hApart ihKeys ih =>
      rw [plain_mapping]
      refine .mapping (Entries.nodup_keys_ofList _) fun entry hMem => ?_
      obtain ⟨given, hGiven, hValue⟩ := Entries.exists_of_mem_ofList hMem
      obtain ⟨original, hOriginal, rfl⟩ := List.mem_map.mp hGiven
      rw [← hValue]
      exact ih original hOriginal
  | @record fields hValues hNames ih =>
      have hKeys : (fields.map fun field => (field.1, field.2.plain)).map Prod.fst =
          fields.map Prod.fst := by
        rw [List.map_map]
        rfl
      rw [plain_record]
      exact .mapping (hKeys ▸ hNames) (List.forall_mem_map.mpr ih)

theorem forall₂_mirrors_plain {α : Type} (part : α → Value) {items : List α}
    (h : ∀ item ∈ items, Mirrors (part item) (part item).plain) :
    List.Forall₂ Mirrors (items.map part) (items.map fun item => (part item).plain) := by
  rw [List.forall₂_map_left_iff, List.forall₂_map_right_iff, List.forall₂_same]
  exact h

/-- The plain form of an encodable value mirrors it. -/
theorem Encodable.mirrors_plain (h : value.Encodable) : Mirrors value value.plain := by
  induction h with
  | null => exact .null
  | bool value => exact .bool value
  | int value => exact .int value
  | float value => exact .float value
  | text value => exact .text value
  | tier value => exact .tier value
  | time value => exact .time value
  | @list items hItems ih =>
      have hMirrors := forall₂_mirrors_plain id ih
      rw [List.map_id] at hMirrors
      rw [plain, Json.plainItems_eq]
      exact .list hMirrors
  | @tuple items hItems ih =>
      have hMirrors := forall₂_mirrors_plain id ih
      rw [List.map_id] at hMirrors
      rw [plain, Json.plainItems_eq]
      exact .tuple hMirrors
  | @mapping entries hKeys hValues hApart ihKeys ih =>
      have hRows := forall₂_mirrors_plain Prod.snd ih
      by_cases hOther : ∃ entry ∈ entries, label? entry.1 = none
      · rw [plain_mapping]
        refine .merged hOther (forall₂_mirrors_plain Prod.fst ihKeys) ?_ ?_
        · rw [List.map_map, List.map_map]
          rfl
        · rw [List.map_map]
          exact hRows
      · have hLabels : ∀ entry ∈ entries, label? entry.1 ≠ none :=
          fun entry hMem hNone => hOther ⟨entry, hMem, hNone⟩
        rw [plain_labelled hLabels hApart]
        refine .labelled ?_ ?_ ?_
        · rw [List.map_map]
          exact List.map_congr_left fun entry hMem => label?_eq (hLabels entry hMem)
        · rw [List.map_map]
          exact hRows
        · rw [List.map_map]
          exact nodup_display hLabels hApart
  | @record fields hValues hNames ih =>
      rw [plain_record]
      refine .record ?_ ?_
      · rw [List.map_map]
        rfl
      · rw [List.map_map]
        exact forall₂_mirrors_plain Prod.snd ih

theorem eq_map_of_forall₂ {α : Type} {part : α → Value} {items : List α} {others : List Value}
    (h : List.Forall₂ Mirrors (items.map part) others)
    (hItems : ∀ item ∈ items, ∀ other, Mirrors (part item) other → other = (part item).plain) :
    others = items.map fun item => (part item).plain := by
  induction items generalizing others with
  | nil =>
      cases h
      rfl
  | cons item items ih =>
      obtain ⟨hFirst, hRest⟩ := List.forall_mem_cons.mp hItems
      cases h with
      | cons hItem hOthers => rw [List.map_cons, hFirst _ hItem, ih hOthers hRest]

/-- Keys with labels have those labels for their texts. -/
theorem forall_label?_of_map_eq {entries : List (Value × Value)} {others : List (String × Value)}
    (h : entries.map (fun entry => label? entry.1) = others.map fun other => some other.1) :
    (∀ entry ∈ entries, label? entry.1 ≠ none) ∧
      others.map Prod.fst = entries.map fun entry => entry.1.plain.display := by
  have hAll : ∀ entry ∈ entries, label? entry.1 ≠ none := by
    intro entry hMem hNone
    have hLabel : label? entry.1 ∈ others.map fun other => some other.1 := by
      rw [← h]
      exact List.mem_map_of_mem hMem
    obtain ⟨other, -, hSome⟩ := List.mem_map.mp hLabel
    rw [hNone] at hSome
    cases hSome
  refine ⟨hAll, List.map_injective_iff.mpr (Option.some_injective String) ?_⟩
  rw [List.map_map, List.map_map]
  refine Eq.trans ?_ (h.symm.trans (List.map_congr_left fun entry hMem => label?_eq (hAll entry hMem)))
  rfl

/-- Nothing else mirrors an encodable value. -/
theorem Encodable.eq_plain_of_mirrors (h : value.Encodable) (hMirrors : Mirrors value other) :
    other = value.plain := by
  induction h generalizing other with
  | @list items hItems ih =>
      cases hMirrors with
      | list hOthers =>
          rw [← List.map_id items] at hOthers
          rw [plain, Json.plainItems_eq, eq_map_of_forall₂ hOthers fun item hMem other => ih item hMem]
          rfl
  | @tuple items hItems ih =>
      cases hMirrors with
      | tuple hOthers =>
          rw [← List.map_id items] at hOthers
          rw [plain, Json.plainItems_eq, eq_map_of_forall₂ hOthers fun item hMem other => ih item hMem]
          rfl
  | @mapping entries hKeys hValues hApart ihKeys ih =>
      cases hMirrors with
      | @labelled _ others hLabels hOthers hNames =>
          have hRead := eq_map_of_forall₂ hOthers fun entry hMem other => ih entry hMem
          obtain ⟨hAll, hTexts⟩ := forall_label?_of_map_eq hLabels
          rw [plain_labelled hAll hApart, List.zip_of_prod hTexts hRead, List.zip_map']
      | @merged _ keys rows hOther hGiven hTexts hOthers =>
          have hRead := eq_map_of_forall₂ hOthers fun entry hMem other => ih entry hMem
          rw [eq_map_of_forall₂ hGiven fun entry hMem other => ihKeys entry hMem,
            List.map_map] at hTexts
          rw [plain_mapping, List.zip_of_prod hTexts hRead, List.zip_map']
          rfl
  | @record fields hValues hNames ih =>
      cases hMirrors with
      | @record _ others hSame hOthers =>
          have hRead := eq_map_of_forall₂ hOthers fun field hMem other => ih field hMem
          rw [plain_record, List.zip_of_prod hSame.symm hRead, List.zip_map']
  | _ =>
      cases hMirrors
      rfl

/-- The plain form of an encodable value is plain data, it is its own plain form, and it alone mirrors
the value. -/
theorem plain_stable (h : value.Encodable) :
    value.plain.IsPlain ∧ value.plain.plain = value.plain ∧
      ∀ other, Mirrors value other ↔ other = value.plain := by
  refine ⟨h.isPlain_plain, h.isPlain_plain.plain_eq, fun other => ⟨h.eq_plain_of_mirrors, ?_⟩⟩
  rintro rfl
  exact h.mirrors_plain

/-- A record with a pair, a mapping from a tier and a text, and one whose two keys have one text. -/
def nested : Value := .record [
  ("updated", .time Window.halfHour.start),
  ("ends", .tuple [.float 0, .null]),
  ("tiers", .mapping [(.tier .oneHour, .int 1), (.text "other", .list [.tier .oneMinute])]),
  ("merged", .mapping [(.int 1, .null), (.text "1", .bool true)])]

theorem plain_stable_nested :
    nested.Encodable ∧ nested.plain.IsPlain ∧ nested.plain.plain = nested.plain ∧
      ∀ other, Mirrors nested other ↔ other = nested.plain := by
  have hTiers : (mapping [(.tier .oneHour, .int 1),
      (.text "other", .list [.tier .oneMinute])]).Encodable :=
    .mapping (by simp) (by simp) (by decide)
  have hMerged : (mapping [(.int 1, .null), (.text "1", .bool true)]).Encodable :=
    .mapping (by simp) (by simp) (by decide)
  have hEnds : (tuple [.float 0, .null]).Encodable := .tuple (by simp)
  have hNested : nested.Encodable := by
    simp [nested, hEnds, hTiers, hMerged]
  exact ⟨hNested, plain_stable hNested⟩

end Value
end Rollup
