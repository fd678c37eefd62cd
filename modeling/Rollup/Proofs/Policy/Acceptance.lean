import Mathlib
import Rollup.Policy

/-!
What a policy is made of. The names of sources stand in the text of queries, so they should be
identifiers and nothing else. The check of a name lets one more text through: an identifier with a
line feed behind it.
-/
namespace Rollup

/-- A letter of the ASCII alphabet. -/
def IsLetter (c : Char) : Prop := 'A' ≤ c ∧ c ≤ 'Z' ∨ 'a' ≤ c ∧ c ≤ 'z'

/-- An ASCII letter or an underscore, and behind it letters, underscores and ASCII digits only. -/
def IsIdentifier (name : String) : Prop :=
  ∃ first rest, name.toList = first :: rest ∧ (IsLetter first ∨ first = '_') ∧
    ∀ c ∈ rest, IsLetter c ∨ c = '_' ∨ '0' ≤ c ∧ c ≤ '9'

/-- An identifier with a line feed behind it. -/
def IsTrailed (name : String) : Prop := ∃ stem, IsIdentifier stem ∧ name = stem ++ "\n"

/-- An identifier, with or without a line feed behind it. -/
def IsLenient (name : String) : Prop := IsIdentifier name ∨ IsTrailed name

variable {c : Char} {name : String}

theorem isNameStart_iff : isNameStart c = true ↔ IsLetter c ∨ c = '_' := by
  rw [isNameStart, IsLetter, Bool.or_eq_true, beq_iff_eq, Char.isAlpha, Bool.or_eq_true,
    Char.isUpper, Char.isLower]
  simp only [Bool.and_eq_true, decide_eq_true_eq, ge_iff_le]
  rfl

theorem isNamePart_iff : isNamePart c = true ↔ IsLetter c ∨ c = '_' ∨ '0' ≤ c ∧ c ≤ '9' := by
  rw [isNamePart, Bool.or_eq_true, isNameStart_iff, or_assoc, Char.isDigit]
  simp only [Bool.and_eq_true, decide_eq_true_eq, ge_iff_le]
  rfl

/-- A line feed stands in no identifier. -/
theorem IsIdentifier.lineFeed_notMem (h : IsIdentifier name) : '\n' ∉ name.toList := by
  obtain ⟨first, rest, hName, hFirst, hRest⟩ := h
  intro hMem
  rw [hName] at hMem
  rcases List.mem_cons.mp hMem with rfl | hMem
  · exact absurd (isNameStart_iff.mpr hFirst) (by decide)
  · exact absurd (isNamePart_iff.mpr (hRest '\n' hMem)) (by decide)

/-- The part of a name that is checked: all but a line feed at the very end. -/
def checkedPart (name : String) : List Char :=
  if name.toList.getLast? = some '\n' then name.toList.dropLast else name.toList

theorem checkedPart_of_notMem (h : '\n' ∉ name.toList) : checkedPart name = name.toList :=
  if_neg fun hLast => h (List.mem_of_getLast? hLast)

theorem checkedPart_trailed (stem : String) : checkedPart (stem ++ "\n") = stem.toList := by
  have hText : (stem ++ "\n").toList = stem.toList ++ ['\n'] := String.toList_append
  rw [checkedPart, hText, List.getLast?_concat, if_pos rfl, List.dropLast_concat]

/-- A name that ends in a line feed is checked without it. -/
theorem checkedPart_cases (name : String) :
    checkedPart name = name.toList ∨ name = String.ofList (checkedPart name) ++ "\n" := by
  rw [checkedPart]
  split
  · rename_i hLast
    obtain ⟨before, hName⟩ := List.getLast?_eq_some_iff.mp hLast
    right
    rw [← String.toList_inj, String.toList_append, String.toList_ofList, hName,
      List.dropLast_concat]
    rfl
  · exact .inl rfl

theorem isSourceName_iff_checkedPart :
    isSourceName name = true ↔ IsIdentifier (String.ofList (checkedPart name)) := by
  rw [isSourceName, ← checkedPart, IsIdentifier, String.toList_ofList]
  cases checkedPart name with
  | nil => simp
  | cons first rest =>
      simp only [Bool.and_eq_true, isNameStart_iff, List.all_eq_true, isNamePart_iff,
        List.cons.injEq]
      constructor
      · rintro ⟨hFirst, hRest⟩
        exact ⟨first, rest, ⟨rfl, rfl⟩, hFirst, hRest⟩
      · rintro ⟨_, _, ⟨rfl, rfl⟩, hFirst, hRest⟩
        exact ⟨hFirst, hRest⟩

/-- The check lets identifiers through, and those with a line feed behind them. -/
theorem isSourceName_iff : isSourceName name = true ↔ IsLenient name := by
  rw [isSourceName_iff_checkedPart]
  constructor
  · intro h
    rcases checkedPart_cases name with hAll | hTrailed
    · rw [hAll, String.ofList_toList] at h
      exact .inl h
    · exact .inr ⟨_, h, hTrailed⟩
  · rintro (hName | ⟨stem, hStem, rfl⟩)
    · rw [checkedPart_of_notMem hName.lineFeed_notMem, String.ofList_toList]
      exact hName
    · rw [checkedPart_trailed, String.ofList_toList]
      exact hStem

theorem IsTrailed.not_isIdentifier (h : IsTrailed name) : ¬IsIdentifier name := by
  obtain ⟨stem, -, rfl⟩ := h
  intro hName
  exact hName.lineFeed_notMem (by simp [String.toList_append])

namespace Policy

/-- What a policy can be made of, where `good` tells which names are good for sources: every tier has
a source, every source has such a name, and the limits are positive. -/
structure Acceptable (good : String → Prop) (sources : List (Tier × String))
    (rowCap recentLimit : Int) : Prop where
  complete : ∀ tier, ∃ entry ∈ sources, entry.1 = tier
  named : ∀ entry ∈ sources, good entry.2
  rowCap_pos : 0 < rowCap
  recentLimit_pos : 0 < recentLimit

/-- The policy has these sources and limits. -/
structure Holds (policy : Policy) (sources : List (Tier × String)) (rowCap : Int)
    (substitutes : Bool) (recentLimit : Int) : Prop where
  source : policy.source = sourceIn sources
  rowCap : (policy.rowCap : Int) = rowCap
  substitutes : policy.substitutes = substitutes
  recentLimit : (policy.recentLimit : Int) = recentLimit

/-- What a fault tells is wrong with sources and limits. -/
def Blames (sources : List (Tier × String)) (rowCap recentLimit : Int) :
    ConfigurationFault → Prop
  | .missingSources tiers =>
    tiers ≠ [] ∧ ∀ tier, tier ∈ tiers ↔ ∀ entry ∈ sources, entry.1 ≠ tier
  | .invalidSource tier name => (tier, name) ∈ sources ∧ ¬IsLenient name
  | .rowCapNotPositive => rowCap ≤ 0
  | .fallbackLimitNotPositive => recentLimit ≤ 0
  | _ => False

variable {sources : List (Tier × String)} {rowCap recentLimit : Int} {substitutes : Bool}

theorem mem_missing {tier : Tier} :
    tier ∈ missing sources ↔ ∀ entry ∈ sources, entry.1 ≠ tier := by
  rw [missing, List.mem_filter, Entries.find?, Option.isNone_map, Option.isNone_iff_eq_none,
    List.find?_eq_none]
  simp only [tier.mem_all, true_and, beq_iff_eq, ne_eq]

theorem missing_eq_nil_iff : missing sources = [] ↔ ∀ tier, ∃ entry ∈ sources, entry.1 = tier := by
  rw [List.eq_nil_iff_forall_not_mem]
  simp only [mem_missing, ne_eq, not_forall, not_not, exists_prop]

theorem invalid?_eq_none_iff :
    invalid? sources = none ↔ ∀ entry ∈ sources, isSourceName entry.2 = true := by
  rw [invalid?, List.find?_eq_none]
  simp only [Bool.not_eq_true', Bool.not_eq_false]

/-- What is wrong keeps a policy from being made. -/
theorem Blames.not_acceptable {fault : ConfigurationFault}
    (h : Blames sources rowCap recentLimit fault) :
    ¬Acceptable IsLenient sources rowCap recentLimit := by
  intro hAcceptable
  cases fault with
  | missingSources tiers =>
      obtain ⟨hSome, hTiers⟩ := h
      obtain ⟨tier, hTier⟩ := List.exists_mem_of_ne_nil tiers hSome
      obtain ⟨entry, hEntry, hSame⟩ := hAcceptable.complete tier
      exact (hTiers tier).mp hTier entry hEntry hSame
  | invalidSource tier name => exact h.2 (hAcceptable.named (tier, name) h.1)
  | rowCapNotPositive => exact absurd hAcceptable.rowCap_pos (not_lt.mpr h)
  | fallbackLimitNotPositive => exact absurd hAcceptable.recentLimit_pos (not_lt.mpr h)
  | _ => exact h

/-- A policy is made of what it holds, or else the fault tells what is wrong. -/
theorem make_cases (sources : List (Tier × String)) (rowCap : Int) (substitutes : Bool)
    (recentLimit : Int) :
    (∃ policy, make sources rowCap substitutes recentLimit = .ok policy ∧
      policy.Holds sources rowCap substitutes recentLimit ∧
        Acceptable IsLenient sources rowCap recentLimit) ∨
    ∃ fault, make sources rowCap substitutes recentLimit = .error (.configuration fault) ∧
      Blames sources rowCap recentLimit fault := by
  rw [make]
  split
  · rename_i hComplete
    split
    · rename_i tier name hInvalid
      refine .inr ⟨_, rfl, List.mem_of_find?_eq_some hInvalid, ?_⟩
      rw [← isSourceName_iff]
      simpa using List.find?_some hInvalid
    · rename_i hNamed
      split_ifs with hCap hLimit
      · refine .inl ⟨_, rfl, ⟨rfl, ?_, rfl, ?_⟩, missing_eq_nil_iff.mp hComplete, ?_, hCap, hLimit⟩
        · exact Int.toNat_of_nonneg hCap.le
        · exact Int.toNat_of_nonneg hLimit.le
        · intro entry hMem
          exact isSourceName_iff.mp (invalid?_eq_none_iff.mp hNamed entry hMem)
      · exact .inr ⟨_, rfl, not_lt.mp hLimit⟩
      · exact .inr ⟨_, rfl, not_lt.mp hCap⟩
  · rename_i hMissing
    exact .inr ⟨_, rfl, hMissing, fun tier => mem_missing⟩

/-- A policy is made of sources for all tiers, whose names are identifiers with or without a line feed
behind them, and of positive limits. It holds them; anything else is a fault of the configuration that
tells what is wrong. So the sources that are accepted are the safe ones, unless there is a line feed
behind a name and nothing else is wrong. -/
theorem make_ok_iff_safe (sources : List (Tier × String)) (rowCap : Int) (substitutes : Bool)
    (recentLimit : Int) :
    let made := make sources rowCap substitutes recentLimit
    let lenient := Acceptable IsLenient sources rowCap recentLimit
    let safe := Acceptable IsIdentifier sources rowCap recentLimit
    ((∃ policy, made = .ok policy) ↔ lenient) ∧
      ((∃ policy, made = .ok policy ∧ policy.Holds sources rowCap substitutes recentLimit) ∨
        ∃ fault, made = .error (.configuration fault) ∧ Blames sources rowCap recentLimit fault) ∧
      (((∃ policy, made = .ok policy) ↔ safe) ↔
        ¬(lenient ∧ ∃ entry ∈ sources, IsTrailed entry.2)) := by
  intro made lenient safe
  have hMade : (∃ policy, made = .ok policy) ↔ lenient := by
    rcases make_cases sources rowCap substitutes recentLimit with
      ⟨policy, hOk, -, hLenient⟩ | ⟨fault, hError, hBlames⟩
    · exact iff_of_true ⟨policy, hOk⟩ hLenient
    · refine iff_of_false ?_ hBlames.not_acceptable
      rintro ⟨policy, hOk⟩
      cases hOk.symm.trans hError
  have hSafe : safe ↔ lenient ∧ ∀ entry ∈ sources, ¬IsTrailed entry.2 := by
    constructor
    · intro h
      refine ⟨{ h with named := fun entry hMem => .inl (h.named entry hMem) }, ?_⟩
      exact fun entry hMem hTrailed => hTrailed.not_isIdentifier (h.named entry hMem)
    · rintro ⟨h, hNone⟩
      refine { h with named := fun entry hMem => ?_ }
      exact (h.named entry hMem).resolve_right (hNone entry hMem)
  refine ⟨hMade, ?_, ?_⟩
  · rcases make_cases sources rowCap substitutes recentLimit with
      ⟨policy, hOk, hHolds, -⟩ | hFault
    · exact .inl ⟨policy, hOk, hHolds⟩
    · exact .inr hFault
  · rw [hMade, hSafe]
    push Not
    tauto

/-- The usual sources, the first with a line feed behind its name, are accepted. -/
theorem not_make_ok_iff_safe_trailed :
    let sources := (Tier.oneMinute, "metrics_1m_avg\n") :: defaultSources.tail
    ¬((∃ policy, make sources 10000 true 100 = .ok policy) ↔
      Acceptable IsIdentifier sources 10000 100) := by
  intro sources hSafe
  have hMade : ∃ policy, make sources 10000 true 100 = .ok policy := ⟨_, rfl⟩
  have hIdentifier := (hSafe.mp hMade).named (Tier.oneMinute, "metrics_1m_avg\n") List.mem_cons_self
  exact hIdentifier.lineFeed_notMem (by decide)

end Policy
end Rollup
