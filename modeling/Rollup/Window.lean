import Rollup.Failure
import Rollup.Time.IsoReader

/-!
Windows that callers ask for, by the text of their two ends. Both ends need an offset, the end must
not lie before the start, and the window must not be longer than the limit, if there is one.
-/
namespace Rollup

/-- A window, both ends included. -/
structure Window where
  start : Timestamp
  stop : Timestamp
deriving DecidableEq, Repr

namespace Window

/-- The timestamp that a parameter gives. An empty parameter counts as missing. -/
def timeOf (name : String) (raw : Option String) : Except Failure Timestamp :=
  match raw with
  | none => .error (.window (.missing name))
  | some text =>
    if text = "" then .error (.window (.missing name))
    else
      match Timestamp.ofText? text with
      | none => .error (.window (.malformed name))
      | some time => if time.isAware then .ok time else .error (.window (.withoutOffset name))

/-- The longest window that is accepted unless a limit is given: thirty days. -/
def defaultLimit : Int := 30 * day

/-- The window between two parameters, whose names start with `label`. -/
def ofTexts (start stop : Option String) (limit : Option Int) (label : String) :
    Except Failure Window := do
  let first ← timeOf (label ++ "start") start
  let last ← timeOf (label ++ "end") stop
  if ← last.before first then .error (.window .reversed)
  else
    let length ← last.minus first
    match limit with
    | some limit =>
      if limit < length then .error (.window (.tooLong (limit / day)))
      else .ok ⟨first, last⟩
    | none => .ok ⟨first, last⟩

end Window
end Rollup
