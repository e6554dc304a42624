import TableSchema.Proofs.Outline.Build

/-!
The columns of a finished table.

There is one for each name, letter case aside, in the order in which the names first appear. What
it says is what the last definition of its name says by itself. Nothing but the place of a column
and the keys of the whole table comes from the rest of the statement.
-/

namespace TableSchema

open Text (lowerString)

namespace Outline

variable {rules : Rules} {o : Outline} {t : Table}

/-- **Columns**: one for each name, in the order of first appearance and numbered from one, each as
the last definition of its name makes it beside any table at all. -/
theorem build_columns (h : (o.build rules).result = .ok t) :
    t.columns.map Column.key = (o.columns.map fun d => lowerString d.1).eraseDups ∧
      (∀ (i : Nat) (hi : i < t.columns.length), t.columns[i].position = i + 1) ∧
      ∀ c ∈ t.columns, ∃ name d r, lastOf? o.columns c.name = some (name, d) ∧
        (∀ u : TableDraft, (resolveColumn rules name d (some u)).result = .ok r) ∧
        c = { r with
          position := c.position
          nullability := if o.KeyNames c then .notNull else r.nullability } := by
  obtain ⟨u, hmade, -, ht⟩ := build_ok h
  have hcolumns : t.columns = u.columns.map (TableDraft.requireValue o.keys.flatten) := by rw [ht]
  refine ⟨?_, ?_, fun c hc => ?_⟩
  · rw [hcolumns, TableDraft.keys_requireValues, hmade.keys]
  · have hnumbered : Numbered 0 t.columns := by
      rw [hcolumns]
      refine hmade.numbered.map fun c => ?_
      rw [requireValue_eq]
    intro i hi
    rw [hnumbered.getElem i hi]
    omega
  · obtain ⟨⟨name, d⟩, r, hlast, hr, heq⟩ := column_of_build h hc
    exact ⟨name, d, r, hlast, hr, heq⟩

theorem build_columns_mixed :
    ∃ t, (mixed.build {}).result = .ok t ∧ t.columns.map Column.key = ["a", "b"] ∧
      (∀ (i : Nat) (hi : i < t.columns.length), t.columns[i].position = i + 1) ∧
      ∀ c ∈ t.columns, ∃ name d r, lastOf? mixed.columns c.name = some (name, d) ∧
        (∀ u : TableDraft, (resolveColumn {} name d (some u)).result = .ok r) ∧
        c = { r with
          position := c.position
          nullability := if mixed.KeyNames c then .notNull else r.nullability } := by
  obtain ⟨t, ht⟩ := mixed_build
  have h := build_columns ht
  exact ⟨t, ht, h.1.trans (by decide), h.2⟩

end Outline
end TableSchema
