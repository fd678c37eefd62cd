/-!
Mappings that keep the order in which their keys first came: a key that comes again keeps its place
and takes the new value.
-/
namespace Rollup.Entries

variable {κ α : Type}

/-- Puts a value under a key, where `same` says which keys are one. -/
def put (same : κ → κ → Bool) (key : κ) (value : α) : List (κ × α) → List (κ × α)
  | [] => [(key, value)]
  | entry :: rest =>
    if same entry.1 key then (entry.1, value) :: rest else entry :: put same key value rest

/-- The mapping of the entries, read from the first to the last. -/
def ofList (same : κ → κ → Bool) (entries : List (κ × α)) : List (κ × α) :=
  entries.foldl (fun mapping entry => put same entry.1 entry.2 mapping) []

/-- The value under a key. -/
def find? (same : κ → κ → Bool) (key : κ) (entries : List (κ × α)) : Option α :=
  (entries.find? fun entry => same entry.1 key).map Prod.snd

/-- A key that the mapping lacks is added at its end. -/
theorem put_of_forall_not {same : κ → κ → Bool} {key : κ} {value : α} {entries : List (κ × α)}
    (h : ∀ entry ∈ entries, same entry.1 key = false) :
    put same key value entries = entries ++ [(key, value)] := by
  induction entries with
  | nil => rfl
  | cons entry rest ih =>
    have here := h entry List.mem_cons_self
    have there := ih fun e he => h e (List.mem_cons_of_mem _ he)
    simp [put, here, there]

end Rollup.Entries
