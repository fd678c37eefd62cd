import Rollup.Value

/-!
The causes for which an operation does not return, and the words for each. The library's own causes
are told from those of a store or of arithmetic, because a read passes on the former unchanged and
wraps the latter. Cancellation is a cause of its own kind that nothing may absorb.
-/
namespace Rollup

/-- What is wrong with a configuration or a setting. -/
inductive ConfigurationFault
  | missingSources (tiers : List Tier)
  | invalidSource (tier : Tier) (name : String)
  | rowCapNotPositive
  | fallbackLimitNotPositive
  | notAnInteger (setting raw : String)
  | notABoolean (setting raw : String)
  | windowNotPositive (setting : String)
  | stated (words : List Value)

/-- The words for a faulty configuration. -/
def ConfigurationFault.message : ConfigurationFault → String
  | .missingSources tiers =>
    "no source configured for tiers: " ++
      (Value.list (tiers.map fun tier => .text tier.label)).literal
  | .invalidSource tier name =>
    "invalid source name for " ++ tier.label ++ ": " ++ Text.quoted name
  | .rowCapNotPositive => "row_cap must be positive"
  | .fallbackLimitNotPositive => "fallback_limit must be positive"
  | .notAnInteger name raw => name ++ " must be an integer, got " ++ Text.quoted raw
  | .notABoolean name raw => name ++ " must be a boolean, got " ++ Text.quoted raw
  | .windowNotPositive name => name ++ " must be positive"
  | .stated words => Value.statement words

/-- What is wrong with a window or a duration that a caller asked for. -/
inductive WindowFault
  | missing (name : String)
  | malformed (name : String)
  | withoutOffset (name : String)
  | reversed
  | tooLong (days : Int)
  | invalidDuration
  | noDuration
  | stated (words : List Value)

/-- The words for a faulty window. -/
def WindowFault.message : WindowFault → String
  | .missing name => name ++ " is required"
  | .malformed name => "invalid " ++ name ++ " time format, use RFC3339"
  | .withoutOffset name => name ++ " must include a timezone offset"
  | .reversed => "end time must be after start time"
  | .tooLong days => "time range cannot exceed " ++ toString days ++ " days"
  | .invalidDuration => "invalid duration format"
  | .noDuration => "duration must be positive"
  | .stated words => Value.statement words

/-- What arithmetic on times, spans and numbers cannot do. -/
inductive ArithmeticFault
  | mixedDifference
  | mixedComparison
  | timeOutOfRange
  | yearOutOfRange (year : Nat)
  | spanOutOfRange (days : Int)
  | infiniteNumber
  | notStorable
deriving DecidableEq, Repr

/-- The first number of days too large to be counted at all. -/
def dayCountLimit : Nat := Nat.pow 2 31

/-- The words for a calculation that cannot be done. -/
def ArithmeticFault.message : ArithmeticFault → String
  | .mixedDifference => "can't subtract offset-naive and offset-aware datetimes"
  | .mixedComparison => "can't compare offset-naive and offset-aware datetimes"
  | .timeOutOfRange => "date value out of range"
  | .yearOutOfRange year => "year " ++ toString year ++ " is out of range"
  | .spanOutOfRange days =>
    if -(dayCountLimit : Int) ≤ days ∧ days < dayCountLimit then
      "days=" ++ toString days ++ "; must have magnitude <= 999999999"
    else "Python int too large to convert to C int"
  | .infiniteNumber => "cannot convert Infinity to integer ratio"
  | .notStorable => "Python int too large to convert to SQLite INTEGER"

/-- Why a store cannot serve a call. -/
inductive StoreFault
  | unknownSource (name : String)
  | cannotOpen
  | notConnected
  | badSchema (reason : String)
  | unreadableSchema (table : String)
deriving DecidableEq, Repr

/-- The words for a store that cannot serve a call. -/
def StoreFault.message : StoreFault → String
  | .unknownSource name => "unknown rollup source: " ++ Text.quoted name
  | .cannotOpen => "unable to open database file"
  | .notConnected => "Memory database connection not initialized"
  | .badSchema reason => reason
  | .unreadableSchema table =>
    "malformed database schema (" ++ table ++ ") - near \"(\": syntax error"

/-- Why a result has no encoding. -/
inductive EncodingFault
  | span
  | infiniteNumber
deriving DecidableEq, Repr

/-- The words for a result without encoding. -/
def EncodingFault.message : EncodingFault → String
  | .span => "Object of type timedelta is not JSON serializable"
  | .infiniteNumber => "Out of range float values are not JSON compliant"

/-- Why an operation did not return. -/
inductive Failure
  | general (words : List Value)
  | unavailable (operation : String) (server : Option String) (cause : Option Failure)
  | unsupportedTier (given : Value) (server : Option String)
  | noCurrentData (server : String)
  | configuration (fault : ConfigurationFault)
  | window (fault : WindowFault)
  | arithmetic (fault : ArithmeticFault)
  | store (fault : StoreFault)
  | encoding (fault : EncodingFault)
  | foreign (kind text : String)
  | cancelled
  | deadline

namespace Failure

/-- The server that a failure was about, unless it has no name. -/
def ofServer : Option String → String
  | none => ""
  | some server => if server = "" then "" else " for server " ++ server

/-- The words for a failure. -/
def message : Failure → String
  | .general words => Value.statement words
  | .unavailable operation server _ => "rollup store failed during " ++ operation ++ ofServer server
  | .unsupportedTier given server => "unsupported granularity: " ++ given.literal ++ ofServer server
  | .noCurrentData server => "no recent data found for server " ++ server
  | .configuration fault => fault.message
  | .window fault => fault.message
  | .arithmetic fault => fault.message
  | .store fault => fault.message
  | .encoding fault => fault.message
  | .foreign _ text => text
  | .cancelled => ""
  | .deadline => ""

/-- Whether a failure is one of the library's own causes. -/
def isOwn : Failure → Bool
  | .general _ | .unavailable .. | .unsupportedTier .. | .noCurrentData _ | .configuration _
  | .window _ => true
  | _ => false

/-- Whether a failure may be absorbed. A cancelled operation ends as cancelled. -/
def isOrdinary : Failure → Bool
  | .cancelled => false
  | _ => true

/-- Whether a failure blames a value that the caller gave. -/
def isBadValue : Failure → Bool
  | .unsupportedTier .. | .configuration _ | .window _ => true
  | _ => false

end Failure

namespace Timestamp

/-- The microseconds from the second timestamp to the first. -/
def minus (later earlier : Timestamp) : Except Failure Int :=
  match later.gap? earlier with
  | some micros => .ok micros
  | none => .error (.arithmetic .mixedDifference)

/-- Whether the first timestamp is not after the second. -/
def notAfter (a b : Timestamp) : Except Failure Bool :=
  match a.le? b with
  | some answer => .ok answer
  | none => .error (.arithmetic .mixedComparison)

/-- Whether the first timestamp is before the second. -/
def before (a b : Timestamp) : Except Failure Bool :=
  match a.lt? b with
  | some answer => .ok answer
  | none => .error (.arithmetic .mixedComparison)

/-- The timestamp moved by a span. -/
def shift (t : Timestamp) (micros : Int) : Except Failure Timestamp :=
  match t.shift? micros with
  | some moved => .ok moved
  | none => .error (.arithmetic .timeOutOfRange)

end Timestamp

/-- The longest span in days. -/
def maxSpanDays : Nat := 999999999

/-- The span of that many microseconds, which must not have more whole days than a span may. -/
def checkedSpan (micros : Int) : Except Failure Int :=
  let days := micros / day
  if -(maxSpanDays : Int) ≤ days ∧ days ≤ maxSpanDays then .ok micros
  else .error (.arithmetic (.spanOutOfRange days))

/-- The span of that many days. -/
def spanOfDays (days : Int) : Except Failure Int :=
  checkedSpan (days * day)

/-- The tier that a value stands for: a tier itself or a text that names one. -/
def Tier.ofValue (given : Value) (server : Option String) : Except Failure Tier :=
  match given with
  | .tier tier => .ok tier
  | .text text =>
    match Tier.ofText? text with
    | some tier => .ok tier
    | none => .error (.unsupportedTier given server)
  | _ => .error (.unsupportedTier given server)

end Rollup
