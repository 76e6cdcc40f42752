import TemplateTrace.Text.Basic

/-!
# Indexes

Values by text keys, each key once and the keys in ascending order of their characters. The order
is what a reader of an index sees, so it does not depend on the order in which entries came.

- `Index`: the entries of an index.
- `Index.insert`: one entry more, in the stead of an entry with the same key.
- `Index.get?`: the value of a key, and `get?_insert`, which says that the last write wins.
- `Index.sorted_insert`: insertion keeps the keys ascending.
-/

namespace TemplateTrace

/-- Values by text keys in ascending order. -/
structure Index (α : Type) where
  entries : List (Text × α) := []
  deriving DecidableEq, Repr

namespace Index

variable {α β : Type}

/-- Puts an entry in front of the first greater key, or in the place of an equal one. -/
def insertEntry (key : Text) (value : α) : List (Text × α) → List (Text × α)
  | [] => [(key, value)]
  | (k, v) :: es =>
    if key = k then (key, value) :: es
    else if key < k then (key, value) :: (k, v) :: es
    else (k, v) :: insertEntry key value es

/-- An index with one entry more; an entry with the same key is replaced. -/
def insert (x : Index α) (key : Text) (value : α) : Index α := ⟨insertEntry key value x.entries⟩

/-- The index of entries that come one after another; of equal keys the last one counts. -/
def ofList (l : List (Text × α)) : Index α := l.foldl (fun x (k, v) => x.insert k v) {}

/-- The value of a key. -/
def get? (x : Index α) (key : Text) : Option α := (x.entries.find? (·.1 = key)).map (·.2)

/-- The keys in ascending order. -/
def keys (x : Index α) : List Text := x.entries.map (·.1)

/-- An index with every value changed. -/
def mapValues (f : α → β) (x : Index α) : Index β := ⟨x.entries.map fun (k, v) => (k, f v)⟩

/-- The keys ascend. -/
def Sorted (x : Index α) : Prop := x.keys.Pairwise (· < ·)

/-! ## Laws -/

/-- An insertion is seen at its key and nowhere else. -/
theorem get?_insert (x : Index α) (key : Text) (value : α) (k : Text) :
    (x.insert key value).get? k = if key = k then some value else x.get? k := by
  obtain ⟨es⟩ := x
  simp only [get?, insert]
  induction es with
  | nil => by_cases h : key = k <;> simp [insertEntry, h]
  | cons e es ih =>
    obtain ⟨k', v'⟩ := e
    by_cases hk : key = k'
    · subst hk
      by_cases h : key = k <;> simp [insertEntry, h]
    · by_cases hlt : key < k'
      · rw [insertEntry, if_neg hk, if_pos hlt]
        by_cases h : key = k <;> simp [h]
      · by_cases h : k' = k
        · subst h
          simp [insertEntry, hk, hlt]
        · simpa [insertEntry, hk, hlt, h] using ih

/-- An insertion adds no key but its own. -/
theorem mem_keys_insertEntry {key : Text} {value : α} {es : List (Text × α)} {k : Text}
    (h : k ∈ (insertEntry key value es).map (·.1)) : k = key ∨ k ∈ es.map (·.1) := by
  induction es with
  | nil => simpa [insertEntry] using h
  | cons e es ih =>
    obtain ⟨k', v'⟩ := e
    by_cases hk : key = k'
    · subst hk
      rw [insertEntry, if_pos rfl, List.map_cons] at h
      rcases List.mem_cons.1 h with h | h
      · exact .inl h
      · exact .inr (List.mem_cons_of_mem _ h)
    · by_cases hlt : key < k'
      · rw [insertEntry, if_neg hk, if_pos hlt, List.map_cons] at h
        exact List.mem_cons.1 h
      · rw [insertEntry, if_neg hk, if_neg hlt, List.map_cons] at h
        rcases List.mem_cons.1 h with h | h
        · exact .inr (h ▸ List.mem_cons_self)
        · exact (ih h).imp id (List.mem_cons_of_mem _)

/-- An insertion keeps the keys in order. -/
theorem sorted_insert {x : Index α} (h : x.Sorted) (key : Text) (value : α) :
    (x.insert key value).Sorted := by
  obtain ⟨es⟩ := x
  simp only [Sorted, keys, insert] at h ⊢
  induction es with
  | nil => simp [insertEntry]
  | cons e es ih =>
    obtain ⟨k', v'⟩ := e
    rw [List.map_cons, List.pairwise_cons] at h
    by_cases hk : key = k'
    · subst hk
      simpa [insertEntry] using h
    · by_cases hlt : key < k'
      · rw [insertEntry, if_neg hk, if_pos hlt, List.map_cons, List.map_cons, List.pairwise_cons,
          List.pairwise_cons]
        refine ⟨fun k hmem => ?_, h⟩
        rcases List.mem_cons.1 hmem with rfl | hmem
        · exact hlt
        · exact List.lt_trans hlt (h.1 k hmem)
      · rw [insertEntry, if_neg hk, if_neg hlt, List.map_cons, List.pairwise_cons]
        refine ⟨fun k hmem => ?_, ih h.2⟩
        rcases mem_keys_insertEntry hmem with rfl | hmem
        · exact (List.le_iff_lt_or_eq.1 (List.not_lt.1 hlt)).resolve_right (Ne.symm hk)
        · exact h.1 k hmem

end Index

end TemplateTrace
