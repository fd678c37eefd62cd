import Rollup.Program

/-!
Faults planned for the reads of a session: the read fails, or never ends, or gives another answer
than the store's. A fault may wait for the nth read of its sort.
-/
namespace Rollup

/-- An answer to give instead of the store's. -/
inductive Substitute
  | number (n : Int)
  | nothing
  | points (rows : List Point)

/-- The substitute as an answer to a question, if it is of the right sort. -/
def Substitute.answer? (substitute : Substitute) : (question : Read) → Option question.Answer
  | .range .. | .recent .. =>
    match substitute with
    | .points rows => some rows
    | .nothing => some []
    | .number _ => none
  | .count .. =>
    match substitute with
    | .number n => some n
    | _ => none
  | .latest .. =>
    match substitute with
    | .nothing => some none
    | _ => none
  | .stats _ => none

/-- What happens to a read. -/
inductive Effect
  | raise (failure : Failure)
  | stall
  | replace (answer : Substitute)

/-- A fault in the reads of one sort, in all of them or in the one with the number given, counted
from one. -/
structure Fault where
  kind : Read.Kind
  number : Option Int
  effect : Effect

namespace Fault

/-- Whether a fault concerns the read of a sort with a number. -/
def concerns (fault : Fault) (kind : Read.Kind) (number : Nat) : Bool :=
  fault.kind == kind && fault.number.all (· == (number : Int))

/-- What happens to the read of a sort with a number: the effect of the first fault that concerns
it. -/
def effect? (faults : List Fault) (kind : Read.Kind) (number : Nat) : Option Effect :=
  (faults.find? fun fault => fault.concerns kind number).map Fault.effect

end Fault
end Rollup
