import Rollup.Stats
import Rollup.Window

/-!
Programs over a store that is not known. A program asks one of five reads at a time, or looks at the
clock, and goes on by the answer, which may be a failure. What it does is therefore fixed without
any store, and running it against a backend gives its result together with the reads that it made.
-/
namespace Rollup

/-- One question to a store. -/
inductive Read
  | range (source server : String) (window : Window) (limit : Int)
  | count (source server : String) (window : Window)
  | latest (source server : String)
  | recent (source server : String) (limit : Int)
  | stats (source : String)
deriving DecidableEq, Repr

namespace Read

/-- What a store answers. -/
abbrev Answer : Read → Type
  | .range .. => List Point
  | .count .. => Int
  | .latest .. => Option Point
  | .recent .. => List Point
  | .stats _ => TierStats

/-- The sort of a question. -/
inductive Kind
  | range
  | count
  | latest
  | recent
  | stats
deriving DecidableEq, Repr

/-- The name of the operation behind a sort of question. -/
def Kind.name : Kind → String
  | .range => "query_range"
  | .count => "count_range"
  | .latest => "latest"
  | .recent => "recent"
  | .stats => "tier_stats"

/-- All sorts of questions. -/
def Kind.all : List Kind := [.range, .count, .latest, .recent, .stats]

/-- The sort of a question. -/
def kind : Read → Kind
  | .range .. => .range
  | .count .. => .count
  | .latest .. => .latest
  | .recent .. => .recent
  | .stats _ => .stats

/-- The source that a question is about. -/
def source : Read → String
  | .range source .. | .count source .. | .latest source _ | .recent source .. | .stats source =>
    source

/-- The server that a question is about, if it is about one. -/
def server? : Read → Option String
  | .range _ server .. | .count _ server _ | .latest _ server | .recent _ server _ => some server
  | .stats _ => none

end Read

/-- A program with results of type `α`. -/
inductive Program (α : Type)
  | done (result : α)
  | fail (failure : Failure)
  | read (question : Read) (next : Except Failure question.Answer → Program α)
  | clock (next : Except Failure Timestamp → Program α)

namespace Program

variable {α β σ : Type}

/-- Goes on with the result of a program. -/
def bind : Program α → (α → Program β) → Program β
  | done result, f => f result
  | fail failure, _ => fail failure
  | read question next, f => read question fun answer => (next answer).bind f
  | clock next, f => clock fun time => (next time).bind f

instance : Monad Program where
  pure := done
  bind := bind

/-- A calculation as a program that asks nothing. -/
def lift : Except Failure α → Program α
  | .ok result => done result
  | .error failure => fail failure

/-- The time on the clock. -/
def now : Program Timestamp := clock lift

/-- The failure of a read as its caller sees it: one of the library's own causes as it is, as is
cancellation, and any other as the store being unavailable for that question. -/
def asSeen (question : Read) (failure : Failure) : Failure :=
  if failure.isOwn || !failure.isOrdinary then failure
  else .unavailable question.kind.name question.server? (some failure)

/-- Asks a question. Its failure is the one that its caller sees. -/
def ask (question : Read) : Program question.Answer :=
  read question fun
    | .ok answer => done answer
    | .error failure => fail (asSeen question failure)

/-- Asks a question and leaves its failure as it is. -/
def askPlainly (question : Read) : Program question.Answer :=
  read question lift

/-- A program whose ordinary failures are results. Cancellation still ends it. -/
def attempt : Program α → Program (Except Failure α)
  | done result => done (.ok result)
  | fail failure => if failure.isOrdinary then done (.error failure) else fail failure
  | read question next => read question fun answer => (next answer).attempt
  | clock next => clock fun time => (next time).attempt

end Program

/-- How a read ends: with an answer or a failure, or not at all. -/
inductive Reply (α : Type)
  | ended (answer : Except Failure α)
  | stalled

/-- What answers the questions of programs and shows the time, with its state. -/
structure Backend (σ : Type) where
  answer : σ → (question : Read) → Reply question.Answer × σ
  clock : σ → Except Failure Timestamp × σ

/-- What a run leaves: the result, the state, the questions asked in order, and whether a read
stalled. -/
structure Outcome (α σ : Type) where
  result : Except Failure α
  state : σ
  trace : List Read
  stalled : Bool

namespace Program

variable {α σ : Type}

/-- Runs a program. A program whose read stalls is cancelled there. -/
def run (backend : Backend σ) : Program α → σ → Outcome α σ
  | done result, state => ⟨.ok result, state, [], false⟩
  | fail failure, state => ⟨.error failure, state, [], false⟩
  | read question next, state =>
    match backend.answer state question with
    | (.ended answer, state) =>
      let rest := (next answer).run backend state
      ⟨rest.result, rest.state, question :: rest.trace, rest.stalled⟩
    | (.stalled, state) =>
      let rest := (next (.error .cancelled)).run backend state
      ⟨rest.result, rest.state, question :: rest.trace, true⟩
  | clock next, state =>
    let (time, state) := backend.clock state
    (next time).run backend state

end Program

/-- The result under a deadline: a program that was cancelled because a read stalled has run out of
time. -/
def Outcome.inTime {α σ : Type} (outcome : Outcome α σ) : Except Failure α :=
  match outcome.result with
  | .error .cancelled => .error (if outcome.stalled then .deadline else .cancelled)
  | result => result

end Rollup
