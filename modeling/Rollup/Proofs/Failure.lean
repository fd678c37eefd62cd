import Mathlib
import Rollup.Failure

/-!
Calculations that may fail. One that succeeds does so step by step, one that fails does so in a
step, and so by one of the causes for which its steps fail. Arithmetic on times fails only by what
cannot be calculated.
-/
namespace Rollup

variable {α β : Type}

/-- After a step that succeeded the calculation goes on with its result. -/
theorem ok_bind (a : α) (f : α → Except Failure β) : (Except.ok a >>= f) = f a := rfl

/-- A calculation that succeeds does so step by step. -/
theorem exists_of_bind_eq_ok {first : Except Failure α} {f : α → Except Failure β} {result : β}
    (h : (first >>= f) = .ok result) : ∃ a, first = .ok a ∧ f a = .ok result := by
  cases first with
  | error failure => cases h
  | ok a => exact ⟨a, rfl, h⟩

/-- A calculation that fails does so in one of its steps. -/
theorem error_or_of_bind_eq_error {first : Except Failure α} {f : α → Except Failure β}
    {failure : Failure} (h : (first >>= f) = .error failure) :
    first = .error failure ∨ ∃ a, first = .ok a ∧ f a = .error failure := by
  cases first with
  | error cause =>
      cases h
      exact .inl rfl
  | ok a => exact .inr ⟨a, rfl, h⟩

/-- A calculation comes to a result exactly if each of its steps does. -/
theorem exists_bind_eq_ok_iff {first : Except Failure α} {f : α → Except Failure β} :
    (∃ result, (first >>= f) = .ok result) ↔ ∃ a, first = .ok a ∧ ∃ result, f a = .ok result := by
  cases first with
  | error failure => exact ⟨nofun, nofun⟩
  | ok a => exact ⟨fun h => ⟨a, rfl, h⟩, fun ⟨_, hFirst, h⟩ => Except.ok.inj hFirst ▸ h⟩

/-- What is calculated for all members of a list is calculated for some member each. -/
theorem exists_of_mem_mapM {f : α → Except Failure β} {xs : List α} {ys : List β} {y : β}
    (h : xs.mapM f = .ok ys) (hMem : y ∈ ys) : ∃ x ∈ xs, f x = .ok y := by
  induction xs generalizing ys with
  | nil =>
      cases h
      cases hMem
  | cons x xs ih =>
      rw [List.mapM_cons] at h
      obtain ⟨first, hFirst, h⟩ := exists_of_bind_eq_ok h
      obtain ⟨rest, hRest, h⟩ := exists_of_bind_eq_ok h
      cases h
      rcases List.mem_cons.mp hMem with rfl | hMem
      · exact ⟨x, List.mem_cons_self, hFirst⟩
      · obtain ⟨later, hLater, hValue⟩ := ih hRest hMem
        exact ⟨later, List.mem_cons_of_mem _ hLater, hValue⟩

/-- Something is calculated for every member of a list of which all are calculated. -/
theorem exists_mem_of_mapM {f : α → Except Failure β} {xs : List α} {ys : List β} {x : α}
    (h : xs.mapM f = .ok ys) (hMem : x ∈ xs) : ∃ y ∈ ys, f x = .ok y := by
  induction xs generalizing ys with
  | nil => cases hMem
  | cons first xs ih =>
      rw [List.mapM_cons] at h
      obtain ⟨value, hFirst, h⟩ := exists_of_bind_eq_ok h
      obtain ⟨rest, hRest, h⟩ := exists_of_bind_eq_ok h
      cases h
      rcases List.mem_cons.mp hMem with rfl | hMem
      · exact ⟨value, List.mem_cons_self, hFirst⟩
      · obtain ⟨later, hLater, hValue⟩ := ih hRest hMem
        exact ⟨later, List.mem_cons_of_mem _ hLater, hValue⟩

/-- All members of a list are calculated exactly if each of them is. -/
theorem exists_mapM_eq_ok_iff {f : α → Except Failure β} {xs : List α} :
    (∃ ys, xs.mapM f = .ok ys) ↔ ∀ x ∈ xs, ∃ y, f x = .ok y := by
  constructor
  · rintro ⟨ys, h⟩ x hMem
    obtain ⟨y, -, hValue⟩ := exists_mem_of_mapM h hMem
    exact ⟨y, hValue⟩
  · intro h
    induction xs with
    | nil => exact ⟨[], rfl⟩
    | cons x xs ih =>
        obtain ⟨y, hFirst⟩ := h x List.mem_cons_self
        obtain ⟨ys, hRest⟩ := ih fun later hMem => h later (List.mem_cons_of_mem x hMem)
        refine ⟨y :: ys, ?_⟩
        rw [List.mapM_cons, hFirst, hRest]
        rfl

/-- The failure is one of arithmetic. -/
def Failure.IsArithmetic (failure : Failure) : Prop := ∃ fault, failure = .arithmetic fault

/-- Whatever the calculation fails by is among the causes. -/
def FailsBy (causes : Failure → Prop) (result : Except Failure α) : Prop :=
  ∀ failure, result = .error failure → causes failure

namespace FailsBy

variable {causes : Failure → Prop}

theorem ok (a : α) : FailsBy causes (.ok a) := nofun

theorem error {failure : Failure} (h : causes failure) :
    FailsBy causes (.error failure : Except Failure α) :=
  fun _ hError => Except.error.inj hError ▸ h

theorem bind {first : Except Failure α} {f : α → Except Failure β} (h : FailsBy causes first)
    (hNext : ∀ a, FailsBy causes (f a)) : FailsBy causes (first >>= f) := by
  intro failure hError
  rcases error_or_of_bind_eq_error hError with hFirst | ⟨a, -, hNow⟩
  · exact h failure hFirst
  · exact hNext a failure hNow

theorem map {first : Except Failure α} {f : α → β} (h : FailsBy causes first) :
    FailsBy causes (first >>= fun a => .ok (f a)) :=
  h.bind fun a => ok (f a)

theorem mapM {f : α → Except Failure β} (h : ∀ a, FailsBy causes (f a)) (xs : List α) :
    FailsBy causes (xs.mapM f) := by
  induction xs with
  | nil => exact ok []
  | cons x xs ih =>
      rw [List.mapM_cons]
      exact (h x).bind fun _ => ih.map

theorem foldlM {f : β → α → Except Failure β} (h : ∀ b a, FailsBy causes (f b a)) (xs : List α)
    (start : β) : FailsBy causes (xs.foldlM f start) := by
  induction xs generalizing start with
  | nil => exact ok start
  | cons x xs ih =>
      rw [List.foldlM_cons]
      exact (h start x).bind ih

theorem filterM {test : α → Except Failure Bool} (h : ∀ a, FailsBy causes (test a)) (xs : List α) :
    FailsBy causes (xs.filterM test) := by
  have hAux : ∀ kept : List α, FailsBy causes (xs.filterAuxM test kept) := by
    induction xs with
    | nil => exact fun _ => ok _
    | cons x xs ih => exact fun kept => (h x).bind fun _ => ih _
  exact (hAux []).map

end FailsBy

/-- A value that stands for no tier is not supported. -/
theorem Tier.unsupported_of_ofValue {value : Value} {server : Option String} {failure : Failure}
    (h : Tier.ofValue value server = .error failure) : failure = .unsupportedTier value server := by
  rw [Tier.ofValue.eq_def] at h
  split at h
  · cases h
  · split at h
    · cases h
    · exact (Except.error.inj h).symm
  · exact (Except.error.inj h).symm

namespace Timestamp

variable {a b : Timestamp} {failure : Failure}

theorem arithmetic_of_minus (h : a.minus b = .error failure) :
    ∃ fault, failure = .arithmetic fault := by
  rw [minus] at h
  split at h
  · cases h
  · exact ⟨_, (Except.error.inj h).symm⟩

theorem arithmetic_of_notAfter (h : a.notAfter b = .error failure) :
    ∃ fault, failure = .arithmetic fault := by
  rw [notAfter] at h
  split at h
  · cases h
  · exact ⟨_, (Except.error.inj h).symm⟩

theorem arithmetic_of_shift {micros : Int} (h : a.shift micros = .error failure) :
    ∃ fault, failure = .arithmetic fault := by
  rw [shift] at h
  split at h
  · cases h
  · exact ⟨_, (Except.error.inj h).symm⟩

end Timestamp

end Rollup
