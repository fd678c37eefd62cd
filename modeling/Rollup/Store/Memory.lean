import Rollup.Program

/-!
A store that keeps all that was written to it, in the order of writing. Two points of one time both
stay. A limit of zero or below counts from the other end of the rows: it leaves rows out instead of
bounding their number.
-/
namespace Rollup

/-- Points written at once for one server of a source. -/
structure Batch where
  source : String
  server : String
  points : List Point

/-- What was written, and the questions that were asked, the last one first. -/
structure Memory where
  batches : List Batch
  asked : List Read.Kind

namespace Memory

/-- A store to which nothing was written. -/
def empty : Memory := ⟨[], []⟩

/-- Writes points. -/
def write (m : Memory) (source server : String) (points : List Point) : Memory :=
  { m with batches := m.batches ++ [⟨source, server, points⟩] }

/-- The points of a batch, if it was written for the server of the source. -/
def Batch.pointsFor (source server : String) (batch : Batch) : List Point :=
  if batch.source = source ∧ batch.server = server then batch.points else []

/-- All points of a server of a source, in the order of writing. -/
def written (m : Memory) (source server : String) : List Point :=
  m.batches.flatMap (Batch.pointsFor source server)

/-- The points by time, those of one time in the order given. Points with an offset and points
without one have no common order. -/
def byTime (points : List Point) : Except Failure (List Point) :=
  if points.all (fun p => p.time.isAware) || points.all (fun p => !p.time.isAware) then
    .ok (points.mergeSort fun a b => decide (a.time.position ≤ b.time.position))
  else .error (.arithmetic .mixedComparison)

/-- Whether a time lies in a window, both ends included. -/
def within (window : Window) (time : Timestamp) : Except Failure Bool := do
  if ← window.start.notAfter time then time.notAfter window.stop else return false

/-- The points that lie in a window. -/
def inWindow (window : Window) (points : List Point) : Except Failure (List Point) :=
  points.filterM fun p => within window p.time

/-- So many points from the start; for a negative number, all but so many at the end. -/
def firstPoints (limit : Int) (points : List Point) : List Point :=
  if 0 ≤ limit then points.take limit.toNat else points.take (points.length - limit.natAbs)

/-- So many points at the end; for zero or a negative number, all but so many from the start. -/
def lastPoints (limit : Int) (points : List Point) : List Point :=
  if 0 < limit then points.drop (points.length - limit.toNat) else points.drop limit.natAbs

/-- The servers for which a source was written, in the order of their first batch. -/
def servers (m : Memory) (source : String) : List String :=
  ((m.batches.filter fun batch => batch.source == source).map fun batch => batch.server).eraseDups

/-- The time that precedes all others by a relation, the first of several. -/
def foremost (precedes : Timestamp → Timestamp → Except Failure Bool) :
    List Timestamp → Except Failure (Option Timestamp)
  | [] => .ok none
  | time :: rest => do
    return some (← rest.foldlM (fun best time => do return if ← precedes time best then time else best)
      time)

/-- What a source holds. -/
def stats (m : Memory) (source : String) : Except Failure TierStats := do
  let groups := ((m.servers source).map (m.written source)).filter fun points => !points.isEmpty
  let times := groups.flatten.map fun p => p.time
  let earliest ← foremost (fun time best => time.before best) times
  let latest ← foremost (fun time best => best.before time) times
  return ⟨times.length, groups.length, earliest, latest, none⟩

/-- The answer to a question. -/
def read (m : Memory) : (question : Read) → Except Failure question.Answer
  | .range source server window limit => do
    return firstPoints limit (← inWindow window (← byTime (m.written source server)))
  | .count source server window => do
    return (← inWindow window (← byTime (m.written source server))).length
  | .latest source server => do return (← byTime (m.written source server)).getLast?
  | .recent source server limit => do
    return lastPoints limit (← byTime (m.written source server))
  | .stats source => m.stats source

/-- The answer to a question, which is counted whether or not it has an answer. -/
def answer (m : Memory) (question : Read) : Except Failure question.Answer × Memory :=
  (m.read question, { m with asked := question.kind :: m.asked })

/-- How often a sort of question was asked. -/
def calls (m : Memory) (kind : Read.Kind) : Nat := m.asked.count kind

end Memory
end Rollup
