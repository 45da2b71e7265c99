-- SUMMARY: Named entries in the order in which their names were first given.

/-!
# Named entries

A table is a list of names with what they stand for. A name that is given again
keeps its place and gets the later value. The main statements say which names a
table has after an entry is put into it, and what is found under each.
-/

namespace FieldedSearch.Entries

variable {β : Type}

/-- What a name stands for. -/
def get? (entries : List (String × β)) (name : String) : Option β := entries.lookup name

def contains (entries : List (String × β)) (name : String) : Bool := (entries.lookup name).isSome

def names (entries : List (String × β)) : List String := entries.map (·.1)

/-- Let a name stand for what `f` makes of what it stood for. -/
def update (name : String) (f : Option β → β) : List (String × β) → List (String × β)
  | [] => [(name, f none)]
  | (n, v) :: rest => if n = name then (n, f (some v)) :: rest else (n, v) :: update name f rest

def put (name : String) (value : β) (entries : List (String × β)) : List (String × β) :=
  update name (fun _ => value) entries

/-- A table from pairs, the last value of a name counting. -/
def ofPairs (pairs : List (String × β)) : List (String × β) :=
  pairs.foldl (fun entries (name, value) => put name value entries) []

-- ---------------------------------------------------------------------------
-- Facts
-- ---------------------------------------------------------------------------

@[simp] theorem get?_update_self (name : String) (f : Option β → β) (entries : List (String × β)) :
    get? (update name f entries) name = some (f (get? entries name)) := by
  induction entries with
  | nil => simp [update, get?]
  | cons e rest ih =>
    obtain ⟨n, v⟩ := e
    by_cases h : n = name
    · simp [update, get?, h]
    · have h' : (name == n) = false := by simpa using fun e => h e.symm
      simpa [update, get?, h, List.lookup_cons, h'] using ih

@[simp] theorem get?_update_of_ne {name other : String} (h : other ≠ name) (f : Option β → β)
    (entries : List (String × β)) : get? (update name f entries) other = get? entries other := by
  have hb : (other == name) = false := by simpa using h
  induction entries with
  | nil => simp [update, get?, List.lookup_cons, hb]
  | cons e rest ih =>
    obtain ⟨n, v⟩ := e
    by_cases hn : n = name
    · subst hn
      simp [update, get?, List.lookup_cons, hb]
    · cases ho : other == n <;> simp_all [update, get?, List.lookup_cons]

theorem names_update (name : String) (f : Option β → β) (entries : List (String × β)) :
    names (update name f entries) =
      if name ∈ names entries then names entries else names entries ++ [name] := by
  induction entries with
  | nil => simp [update, names]
  | cons e rest ih =>
    obtain ⟨n, v⟩ := e
    by_cases h : n = name
    · simp [update, names, h]
    · have h' : ¬ name = n := fun e => h e.symm
      simp only [names] at ih
      by_cases hm : name ∈ rest.map (·.1) <;> simp_all [update, names]

end FieldedSearch.Entries
