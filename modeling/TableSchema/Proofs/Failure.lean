import TableSchema.Proofs.Typing
import TableSchema.Proofs.TypeName

/-!
Definitions that have no column.

The failures of a definition are those of its type: no clause adds one, since the key that a clause
asks for is the very column that is then in the table. By the time the first clause is met the type
is read, so a failure finds the table as it was. Main statement: `resolveColumn_error_iff`.
-/

namespace TableSchema

open Resolver

variable {rules : Rules} {name : String} {d : ColumnDefinition} {table : Option TableDraft}

lemma resolveColumn_cases (rules : Rules) (name : String) (d : ColumnDefinition)
    (table : Option TableDraft) :
    (∃ s, enterDefinition rules d.type { column := { name }, table } = .ok () s ∧
        (resolveColumn rules name d table).result =
          .ok (d.constraints.foldl (clause rules) s).close.column) ∨
      ∃ e s, enterDefinition rules d.type { column := { name }, table } = .error e s ∧
        resolveColumn rules name d table = ⟨.error e, s.table, s.diagnostics⟩ := by
  rcases h : enterDefinition rules d.type { column := { name }, table } with ⟨⟨⟩, s⟩ | ⟨e, s⟩
  · exact .inl ⟨s, rfl, by rw [resolveColumn_of_ok h]⟩
  · exact .inr ⟨e, s, rfl, resolveColumn_of_error h⟩

lemma resolveColumn_fails_iff :
    (∃ e, (resolveColumn rules name d table).result = .error e) ↔
      d.type.BadLiteral ∨ d.type.Mismatch (rules.resolveType d.type).name := by
  rw [← enterDefinition_fails_iff rules d.type name table]
  rcases resolveColumn_cases rules name d table with ⟨s, h, hr⟩ | ⟨e, s, h, hr⟩
  · simp [h, hr]
  · simp [h, hr]

lemma exists_resolveColumn_ok (hl : ¬ d.type.BadLiteral)
    (hn : ¬ d.type.Mismatch (rules.resolveType d.type).name) :
    ∃ c, (resolveColumn rules name d table).result = .ok c := by
  rcases h : (resolveColumn rules name d table).result with e | c
  · exact absurd (resolveColumn_fails_iff.mp ⟨e, h⟩) (not_or.mpr ⟨hl, hn⟩)
  · exact ⟨c, rfl⟩

/-- A failure is a fault of the type, and leaves the table as it was. -/
lemma resolveColumn_error {e : ResolveError}
    (h : (resolveColumn rules name d table).result = .error e) :
    e.kind = .grammarInvariant ∧ (resolveColumn rules name d table).table = table := by
  rcases resolveColumn_cases rules name d table with ⟨s, -, hr⟩ | ⟨e', s, he, hr⟩
  · rw [hr] at h
    cases h
  · rw [hr] at h ⊢
    cases h
    exact enterDefinition_error he

/-- The shape of a type against the name itself, letter case included. -/
lemma ColumnType.mismatch_resolve_iff (t : ColumnType) :
    t.Mismatch t.resolve.name ↔
      t.IsCollection ∧ t.resolve.name ∉ ["ENUM", "SET"] ∨
        ¬ t.IsCollection ∧ t.resolve.name ∈ ["ENUM", "SET"] := by
  have henum := t.upperString_resolve_name_iff (w := "ENUM") (by decide)
  have hset := t.upperString_resolve_name_iff (w := "SET") (by decide)
  simp only [Mismatch, List.mem_cons, List.not_mem_nil, or_false, henum, hset]

lemma ColumnType.badLiteral_iff (t : ColumnType) :
    t.BadLiteral ↔ (∃ l ∈ t.lengthLiterals ++ t.scaleLiterals, Unreadable l) ∨
      ∃ l ∈ t.scaleLiterals, Oversized l := by
  simp only [BadLiteral, List.mem_append, or_and_right, and_or_left, exists_or, or_assoc]

/-- **Failures**: a definition has no column exactly if one of its literals writes no number or one
beyond all limits, a scale is beyond its own limit, or the shape of the type does not go with its
name. No other failure exists, and each leaves the table as it was. -/
theorem resolveColumn_error_iff (skipComments : Bool) (name : String) (d : ColumnDefinition)
    (table : Option TableDraft) :
    let out := resolveColumn { skipComments } name d table
    ((∃ e, out.result = .error e) ↔
        (∃ l ∈ d.type.lengthLiterals ++ d.type.scaleLiterals, Unreadable l) ∨
          (∃ l ∈ d.type.scaleLiterals, Oversized l) ∨
          (d.type.IsCollection ∧ d.type.resolve.name ∉ ["ENUM", "SET"] ∨
            ¬ d.type.IsCollection ∧ d.type.resolve.name ∈ ["ENUM", "SET"])) ∧
      ∀ e, out.result = .error e → e.kind = .grammarInvariant ∧ out.table = table := by
  intro out
  refine ⟨?_, fun e he => resolveColumn_error he⟩
  have hfails : (∃ e, out.result = .error e) ↔
      d.type.BadLiteral ∨ d.type.Mismatch d.type.resolve.name := resolveColumn_fails_iff
  rw [hfails, ColumnType.badLiteral_iff, ColumnType.mismatch_resolve_iff, or_assoc]

example : (resolveColumn {} "a" {
    type := .dimensioned "DECIMAL" none none (some ⟨"5", some "2147483648"⟩) false false
    constraints := [.primaryKey] } (some { id := { table := "t" } })).result =
      .error (.scaleTooLarge "2147483648" "a") := by rfl

end TableSchema
