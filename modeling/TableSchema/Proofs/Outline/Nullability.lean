import TableSchema.Proofs.Outline.Build

/-!
Null and the primary key.

A column that a key of the whole table names admits no null. For a clause of the definition this
holds only as long as no `NULL` follows it: of the clauses that say whether null is admitted, the
one for the key among them, the last one decides.
-/

namespace TableSchema

variable {rules : Rules} {o : Outline} {t : Table}

lemma exists_findSome?_of_key {cs : List Constraint} (h : .primaryKey ∈ cs) :
    ∃ n, n ≠ .unspecified ∧ cs.reverse.findSome? Constraint.nullability? = some n := by
  have hsome : (cs.reverse.findSome? Constraint.nullability?).isSome := by
    rw [List.findSome?_isSome_iff]
    exact ⟨.primaryKey, List.mem_reverse.mpr h, rfl⟩
  obtain ⟨n, hn⟩ := Option.isSome_iff_exists.mp hsome
  obtain ⟨c, -, hc⟩ := List.exists_of_findSome?_eq_some hn
  exact ⟨n, Constraint.nullability?_ne hc, hn⟩

namespace Outline

/-- **Keys and null**: a column of the key admits no null exactly if a key of the whole table names
it, or if its last clause about null, that for the key included, is not `NULL`. -/
theorem build_nullability_iff (h : (o.build rules).result = .ok t) :
    ∀ c ∈ t.columns, ∃ name d, lastOf? o.columns c.name = some (name, d) ∧
      (o.KeyNames c ∨ .primaryKey ∈ d.constraints →
        (c.nullability = .notNull ↔ o.KeyNames c ∨
          d.constraints.reverse.findSome? Constraint.nullability? ≠ some .nullable)) := by
  intro c hc
  obtain ⟨⟨name, d⟩, r, hlast, hr, heq⟩ := column_of_build h hc
  refine ⟨name, d, hlast, fun hkey => ?_⟩
  have hnull : c.nullability = if o.KeyNames c then .notNull else r.nullability :=
    congrArg Column.nullability heq
  by_cases hnamed : o.KeyNames c
  · rw [hnull, if_pos hnamed]
    simp [hnamed]
  · obtain ⟨n, hne, hn⟩ := exists_findSome?_of_key (hkey.resolve_left hnamed)
    rw [hnull, if_neg hnamed, resolveColumn_nullability (hr { id := o.id }) hn, hn]
    cases n with
    | unspecified => exact absurd rfl hne
    | nullable => simp [hnamed]
    | notNull => simp

theorem build_nullability_mixed :
    ∃ t, (mixed.build {}).result = .ok t ∧
      ∀ c ∈ t.columns, ∃ name d, lastOf? mixed.columns c.name = some (name, d) ∧
        (mixed.KeyNames c ∨ .primaryKey ∈ d.constraints →
          (c.nullability = .notNull ↔ mixed.KeyNames c ∨
            d.constraints.reverse.findSome? Constraint.nullability? ≠ some .nullable)) := by
  obtain ⟨t, ht⟩ := mixed_build
  exact ⟨t, ht, build_nullability_iff ht⟩

/-- One column with a clause for the key and a `NULL` after it. -/
def nullAfterKey : Outline where
  id := { table := "t" }
  columns := [("id", {
    type := .dimensioned "INT" none none none false false
    constraints := [.primaryKey, .null {}] })]

/-- A `NULL` after the clause for the key has the last word. -/
theorem key_column_nullable :
    ¬ ∀ (o : Outline) (t : Table), (o.build {}).result = .ok t →
      ∀ c ∈ t.columns, ∀ name d, lastOf? o.columns c.name = some (name, d) →
        o.KeyNames c ∨ .primaryKey ∈ d.constraints → c.nullability = .notNull := by
  intro h
  obtain ⟨t, c, ht, hc, hname, hnull⟩ : ∃ t, ∃ c, (nullAfterKey.build {}).result = .ok t ∧
      c ∈ t.columns ∧ c.name = "id" ∧ c.nullability = .nullable :=
    ⟨_, _, rfl, List.mem_cons_self, rfl, rfl⟩
  have hlast := h nullAfterKey t ht c hc "id"
  rw [hname, hnull] at hlast
  have hno := hlast _ rfl (.inr List.mem_cons_self)
  cases hno

end Outline
end TableSchema
