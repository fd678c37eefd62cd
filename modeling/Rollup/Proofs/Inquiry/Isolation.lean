import Mathlib
import Rollup.Proofs.Dashboard.Completeness
import Rollup.Proofs.Inquiry
import Rollup.Proofs.Store.Isolation

/-!
What is found out about a server depends on its own batches alone. Histories that agree on a server
give the same answer to every inquiry about it, failures included, and each point that is shown
comes from a batch for that server, whether or not it lies in the window.
-/
namespace Rollup

namespace Inquiry

variable {store : Store} {server : String} {history history' : History}

/-- Inquiries about a server that are put to stores that hold the same for it end alike. -/
theorem result_eq_of_alikeFor {κ : Type} (policy : Policy)
    (clock : κ → Except Failure Timestamp × κ) (hand : κ) {store store' : Store}
    (h : Store.AlikeFor server store store') (inquiry : Inquiry)
    (hServer : inquiry.server? = some server) :
    ((inquiry.read policy).run (Store.backend clock) (store, hand)).result =
      ((inquiry.read policy).run (Store.backend clock) (store', hand)).result := by
  let terms : Terms := { may := fun question => question.server? = some server }
  have hKeeps : (inquiry.read policy).Keeps terms (Ends terms policy inquiry) :=
    inquiry.keeps policy fun question hAsked => hAsked.trans hServer
  let alike (state state' : Store × κ) : Prop :=
    Store.AlikeFor server state.1 state'.1 ∧ state.2 = state'.2
  refine hKeeps.result_eq alike ?_ ?_ ⟨h, rfl⟩
  · rintro ⟨store, hand⟩ ⟨store', _⟩ ⟨hAlike, rfl⟩ question hAsked
    exact ⟨trivial, hAlike.answer_eq hAsked, hAlike.answer question, rfl⟩
  · rintro ⟨store, hand⟩ ⟨store', _⟩ ⟨hAlike, rfl⟩
    exact ⟨trivial, rfl, hAlike, rfl⟩

/-- What an inquiry about a server shows, a store holds for it. -/
theorem has_of_result {κ : Type} (policy : Policy) (clock : κ → Except Failure Timestamp × κ)
    (hand : κ) {store : Store} (h : store.Sound) (inquiry : Inquiry)
    (hServer : inquiry.server? = some server) {result : inquiry.Result}
    (hOk : ((inquiry.read policy).run (Store.backend clock) (store, hand)).result = .ok result) :
    (∀ p ∈ inquiry.points result, store.Has server p) ∧
      ∀ cell ∈ inquiry.cells result, ∃ p, store.Has server p ∧ cell = .ofPoint p := by
  -- What is asked is known first: only answers about the server tell what it holds.
  let asks : Terms := { may := fun question => question.server? = some server }
  have hAsks : (inquiry.read policy).Keeps asks (Ends asks policy inquiry) :=
    inquiry.keeps policy fun question hAsked => hAsked.trans hServer
  have hAsked : ∀ exchange ∈ (inquiry.read policy).transcript (Store.backend clock) (store, hand),
      exchange.question.server? = some server :=
    hAsks.asked (fun _ _ => trivial) fun _ _ => trivial
  let hears : Terms := {
    told := fun exchange => exchange.question.server? = some server ∧
      exchange.answer = (store.answer exchange.question).1 }
  have hTold : ∀ exchange ∈ (inquiry.read policy).transcript (Store.backend clock) (store, hand),
      hears.told exchange := fun exchange hMem =>
    ⟨hAsked exchange hMem, Store.Sound.answer_of_mem_transcript h _ exchange hMem⟩
  have hEnds := Inquiry.ends hears (fun _ => trivial) hTold fun _ _ => trivial
  have hShows : ∀ p, hears.Shows p → store.Has server p := by
    rintro p ⟨question, answer, ⟨hAbout, hAnswer⟩, hMem⟩
    exact Store.Sound.has_of_answer h hAbout hAnswer.symm hMem
  rw [hOk] at hEnds
  cases hEnds with
  | shown hPoints hCells =>
      refine ⟨fun p hMem => hShows p (hPoints p hMem), ?_⟩
      intro cell hMem
      obtain ⟨p, hPoint, hCell⟩ := hCells cell hMem
      exact ⟨p, hShows p hPoint, hCell⟩

/-- Servers are isolated. After histories that agree on the batches for a server, every inquiry
about it ends alike, and all points and cells that it shows are given back for points of such
batches. -/
theorem read_isolated {κ : Type} (policy : Policy) (clock : κ → Except Failure Timestamp × κ)
    (hand : κ) (hNew : store.New) (inquiry : Inquiry) (hServer : inquiry.server? = some server)
    (hSame : (history.filter fun batch => batch.server = server) =
      history'.filter fun batch => batch.server = server) :
    ((inquiry.read policy).run (Store.backend clock) (store.load history, hand)).result =
        ((inquiry.read policy).run (Store.backend clock) (store.load history', hand)).result ∧
      ∀ result,
        ((inquiry.read policy).run (Store.backend clock) (store.load history, hand)).result =
            .ok result →
          (∀ p ∈ inquiry.points result, store.Wrote history server p) ∧
            ∀ cell ∈ inquiry.cells result,
              ∃ p, store.Wrote history server p ∧ cell = .ofPoint p := by
  have hSound := hNew.sound
  have hAlike := Store.AlikeFor.load hSound hSame
  refine ⟨result_eq_of_alikeFor policy clock hand hAlike inquiry hServer, ?_⟩
  intro result hOk
  have hWrote : ∀ p, (store.load history).Has server p → store.Wrote history server p :=
    fun p hHas => (hHas.of_load hSound).resolve_left hNew.not_has
  obtain ⟨hPoints, hCells⟩ := has_of_result policy clock hand hAlike.sound inquiry hServer hOk
  refine ⟨fun p hMem => hWrote p (hPoints p hMem), ?_⟩
  intro cell hMem
  obtain ⟨p, hHas, hCell⟩ := hCells cell hMem
  exact ⟨p, hWrote p hHas, hCell⟩

/-- The batches of a server whose last day is empty, and among them those of another server with
points of that day. -/
def shared : History := [
  ⟨"metrics_10m_avg", "web-2", [⟨Window.oneDay.start, .zero⟩, ⟨Window.oneDay.stop, .zero⟩]⟩,
  ⟨"metrics_10m_avg", "web-1", [⟨.universal (737000 * day), .zero⟩]⟩,
  ⟨"metrics_1m_avg", "web-2", [⟨Window.oneDay.stop, .zero⟩]⟩,
  ⟨"metrics_1m_avg", "web-1", [⟨.universal (737000 * day), .zero⟩]⟩]

/-- The dashboard shows the old points of its own server in place of those of its last day, and is
the same where the other server was never written. -/
theorem read_isolated_substituted :
    let store := Store.database (.new .memory ["metrics_1m_avg", "metrics_10m_avg"])
    let inquiry : Inquiry := .dashboard "web-1"
    let own := shared.filter fun batch => batch.server = "web-1"
    store.New ∧ inquiry.server? = some "web-1" ∧
      (shared.filter fun batch => batch.server = "web-1") =
          own.filter (fun batch => batch.server = "web-1") ∧
        ∃ view : Dashboard,
          ((inquiry.read .usual).run (Store.backend Dashboard.endOfDay)
              (store.load shared, ())).result = .ok view ∧
            view.message = some Notice.substituted.text ∧
              ((inquiry.read .usual).run (Store.backend Dashboard.endOfDay)
                  (store.load own, ())).result = .ok view ∧
                (∀ p ∈ view.current :: view.day.points, store.Wrote shared "web-1" p) ∧
                  ∀ cell ∈ view.cells, ∃ p, store.Wrote shared "web-1" p ∧ cell = .ofPoint p := by
  intro store inquiry own
  have hNew : store.New := .database _ _
  have hSame : (shared.filter fun batch => batch.server = "web-1") =
      own.filter fun batch => batch.server = "web-1" := by
    rw [List.filter_filter]
    simp only [Bool.and_self]
  obtain ⟨hResult, hWrote⟩ :=
    read_isolated .usual Dashboard.endOfDay () hNew inquiry rfl hSame
  exact ⟨hNew, rfl, hSame, _, rfl, rfl, hResult.symm, hWrote _ rfl⟩

end Inquiry

end Rollup
