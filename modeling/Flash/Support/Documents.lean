import Mathlib

/-!
# Support — Guarded writes to a collection

A collection is a list of documents in insertion order.  `findOneAndUpdate(filter, update,
{ new: true })` updates the first document the filter matches and returns it updated; when no
document matches it changes nothing, and the caller sees `null`.  The filter is the guard of a
compare-and-set: the document is updated only if it still matches when the write runs.

* `findOneAndUpdate_forall₂`: every document after the write is the one before it, or the update
  of one the filter matched — so a fact kept by the update of every matching document is kept by
  the write.
* `findOneAndUpdate_mem`: the document returned is the update of a matching document, and is in
  the collection.

The last lemmas read such a document-by-document relation between two collections back, by
membership and by position.
-/

namespace Documents

variable {α : Type}

/-- `findOneAndUpdate(filter, update, { new: true })`: the updated document, and the collection,
when some document matches. -/
def findOneAndUpdate (filter : α → Bool) (update : α → α) : List α → Option (α × List α)
  | [] => none
  | d :: ds =>
      if filter d then some (update d, update d :: ds)
      else (findOneAndUpdate filter update ds).map fun p => (p.1, d :: p.2)

variable {filter : α → Bool} {update : α → α}

/-- Every document is kept, or is the update of one the filter matched. -/
theorem findOneAndUpdate_forall₂ {ds ds' : List α} {u : α}
    (h : findOneAndUpdate filter update ds = some (u, ds')) :
    List.Forall₂ (fun d d' => d' = d ∨ (filter d ∧ d' = update d)) ds ds' := by
  induction ds generalizing ds' with
  | nil => cases h
  | cons d ds ih =>
      unfold findOneAndUpdate at h
      split at h
      · rename_i hd
        cases h
        exact .cons (.inr ⟨hd, rfl⟩) (List.forall₂_same.mpr fun _ _ => .inl rfl)
      · obtain ⟨⟨u', ds''⟩, hrest, hp⟩ := Option.map_eq_some_iff.mp h
        cases hp
        exact .cons (.inl rfl) (ih hrest)

/-- The document returned is the update of a matching document, and is in the collection. -/
theorem findOneAndUpdate_mem {ds ds' : List α} {u : α}
    (h : findOneAndUpdate filter update ds = some (u, ds')) :
    ∃ d ∈ ds, filter d ∧ u = update d ∧ u ∈ ds' := by
  induction ds generalizing ds' with
  | nil => cases h
  | cons d ds ih =>
      unfold findOneAndUpdate at h
      split at h
      · rename_i hd
        cases h
        exact ⟨d, List.mem_cons_self, hd, rfl, List.mem_cons_self⟩
      · obtain ⟨⟨u', ds''⟩, hrest, hp⟩ := Option.map_eq_some_iff.mp h
        cases hp
        obtain ⟨d', hd', hf, hu, hmem⟩ := ih hrest
        exact ⟨d', List.mem_cons_of_mem _ hd', hf, hu, List.mem_cons_of_mem _ hmem⟩

/-! ### Reading a relation between two collections -/

section Forall₂

variable {β : Type} {R : α → β → Prop}

theorem exists_of_forall₂_left {l : List α} {l' : List β} (h : List.Forall₂ R l l') {a : α}
    (ha : a ∈ l) : ∃ b ∈ l', R a b := by
  induction h with
  | nil => cases ha
  | cons hab _ ih =>
      rcases List.mem_cons.mp ha with rfl | ha
      · exact ⟨_, List.mem_cons_self, hab⟩
      · obtain ⟨b, hb, hr⟩ := ih ha
        exact ⟨b, List.mem_cons_of_mem _ hb, hr⟩

theorem exists_of_forall₂_right {l : List α} {l' : List β} (h : List.Forall₂ R l l') {b : β}
    (hb : b ∈ l') : ∃ a ∈ l, R a b := by
  induction h with
  | nil => cases hb
  | cons hab _ ih =>
      rcases List.mem_cons.mp hb with rfl | hb
      · exact ⟨_, List.mem_cons_self, hab⟩
      · obtain ⟨a, ha, hr⟩ := ih hb
        exact ⟨a, List.mem_cons_of_mem _ ha, hr⟩

theorem getElem?_of_forall₂ {l : List α} {l' : List β} (h : List.Forall₂ R l l') {i : Nat}
    {a : α} (ha : l[i]? = some a) : ∃ b, l'[i]? = some b ∧ R a b := by
  induction h generalizing i with
  | nil => cases ha
  | cons hab _ ih =>
      cases i with
      | zero =>
          cases ha
          exact ⟨_, rfl, hab⟩
      | succ i => exact ih ha

end Forall₂

end Documents
