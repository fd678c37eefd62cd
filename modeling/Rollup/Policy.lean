import Rollup.Failure

/-!
The policy by which series are read: the source that holds each tier, the cap on the rows of one
read, and whether the most recent rows stand in for an empty window. Every policy is sound: its
sources have names of identifier shape and its limits are positive.
-/
namespace Rollup

/-- Whether a character starts the name of a source. -/
def isNameStart (c : Char) : Bool :=
  c.isAlpha || c == '_'

/-- Whether a character may stand inside the name of a source. -/
def isNamePart (c : Char) : Bool :=
  isNameStart c || c.isDigit

/-- Whether a text names a source: an ASCII letter or underscore, then letters, digits and
underscores, and at most one line feed at the very end. -/
def isSourceName (name : String) : Bool :=
  let cs := name.toList
  let body := if cs.getLast? = some '\n' then cs.dropLast else cs
  match body with
  | [] => false
  | c :: rest => isNameStart c && rest.all isNamePart

/-- A policy for reading series. -/
structure Policy where
  source : Tier → String
  rowCap : Nat
  substitutes : Bool
  recentLimit : Nat
  source_valid : ∀ tier, isSourceName (source tier) = true
  rowCap_pos : 0 < rowCap
  recentLimit_pos : 0 < recentLimit

namespace Policy

/-- The source of each tier unless others are named. -/
def defaultSource : Tier → String
  | .oneMinute => "metrics_1m_avg"
  | .fiveMinutes => "metrics_5m_avg"
  | .tenMinutes => "metrics_10m_avg"
  | .oneHour => "metrics_1h_avg"

/-- The usual sources, finest tier first. -/
def defaultSources : List (Tier × String) :=
  Tier.all.map fun tier => (tier, defaultSource tier)

/-- The usual cap on the rows of one read. -/
def defaultRowCap : Nat := 10000

/-- The usual number of recent rows that stand in for an empty window. -/
def defaultRecentLimit : Nat := 100

/-- The source under a tier; the empty name, which is no source's, if there is none. -/
def sourceIn (sources : List (Tier × String)) (tier : Tier) : String :=
  (Entries.find? (· == ·) tier sources).getD ""

/-- The tiers without a source, finest first. -/
def missing (sources : List (Tier × String)) : List Tier :=
  Tier.all.filter fun tier => (Entries.find? (· == ·) tier sources).isNone

/-- The first entry whose source is no source's name. -/
def invalid? (sources : List (Tier × String)) : Option (Tier × String) :=
  sources.find? fun entry => !isSourceName entry.2

theorem isSourceName_sourceIn {sources : List (Tier × String)} (complete : missing sources = [])
    (valid : invalid? sources = none) (tier : Tier) :
    isSourceName (sourceIn sources tier) = true := by
  have present : (Entries.find? (· == ·) tier sources).isSome = true := by
    have := List.filter_eq_nil_iff.1 complete tier tier.mem_all
    simpa [Option.isSome_iff_ne_none] using this
  obtain ⟨source, found⟩ := Option.isSome_iff_exists.1 present
  obtain ⟨entry, here, rfl⟩ := Option.map_eq_some_iff.1 found
  have := List.find?_eq_none.1 valid entry (List.mem_of_find?_eq_some here)
  simpa [sourceIn, found] using this

/-- The policy of a mapping from tiers to sources and of two limits. What is wrong with them is told
in this order: tiers without source, the first invalid source, the cap, the limit. -/
def make (sources : List (Tier × String)) (rowCap : Int) (substitutes : Bool) (recentLimit : Int) :
    Except Failure Policy :=
  if complete : missing sources = [] then
    match valid : invalid? sources with
    | some (tier, name) => .error (.configuration (.invalidSource tier name))
    | none =>
      if cap : 0 < rowCap then
        if limit : 0 < recentLimit then
          .ok {
            source := sourceIn sources
            rowCap := rowCap.toNat
            substitutes := substitutes
            recentLimit := recentLimit.toNat
            source_valid := isSourceName_sourceIn complete valid
            rowCap_pos := by omega
            recentLimit_pos := by omega }
        else .error (.configuration .fallbackLimitNotPositive)
      else .error (.configuration .rowCapNotPositive)
  else .error (.configuration (.missingSources (missing sources)))

/-- A policy as it is written down, which need not be sound. What is left out is as usual. -/
structure Draft where
  sources : List (Tier × String) := defaultSources
  rowCap : Int := defaultRowCap
  substitutes : Bool := true
  recentLimit : Int := defaultRecentLimit
deriving DecidableEq, Repr

/-- The policy that a draft writes down. -/
def Draft.policy (draft : Draft) : Except Failure Policy :=
  make draft.sources draft.rowCap draft.substitutes draft.recentLimit

/-- The sources of a policy, finest tier first. -/
def sources (policy : Policy) : List (Tier × String) :=
  Tier.all.map fun tier => (tier, policy.source tier)

end Policy
end Rollup
