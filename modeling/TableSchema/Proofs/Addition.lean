import TableSchema.Proofs.Failure
import TableSchema.Proofs.Independence

/-!
What a definition leaves in its table.

A definition may put its column into the table up to three times: at the clause for the key, where a
unique column becomes the key, and when it is finished. Nothing of this shows afterwards: the table
is as if the finished column had been added once, and the key set at most once. Main statement:
`resolveColumn_adds_once`.
-/

namespace TableSchema

variable {rules : Rules} {name : String} {d : ColumnDefinition} {t : TableDraft} {c : Column}

/-- Adding a column changes one place of the table at most. -/
lemma TableDraft.add_split (t : TableDraft) (c : Column) :
    ∃ before after,
      (t.add c).columns = before ++ { c with position := before.length + 1 } :: after ∧
      (∀ x ∈ before, ¬ sameName x.name c.name) ∧
      (t.columns = before ∧ after = [] ∨
        ∃ x, sameName x.name c.name ∧ t.columns = before ++ x :: after) := by
  simpa [TableDraft.add, Column.key] using TableDraft.placeColumn_split c 0 t.columns

/-- **One addition**: a definition that has a column leaves the table with that column added once,
at the place of the first column of its name or at the end, and all others as and where they were.
The key names the column alone if a clause asks for the key, or if the column is unique and there
was no key, and is the one before otherwise. -/
theorem resolveColumn_adds_once (h : (resolveColumn rules name d (some t)).result = .ok c) :
    ∃ t', (resolveColumn rules name d (some t)).table = some t' ∧ t'.id = t.id ∧
      t'.columns = (t.add c).columns ∧
      (∃ before after, t'.columns = before ++ { c with position := before.length + 1 } :: after ∧
        (∀ x ∈ before, ¬ sameName x.name name) ∧
        (t.columns = before ∧ after = [] ∨
          ∃ x, sameName x.name name ∧ t.columns = before ++ x :: after)) ∧
      t'.primaryKey =
        if .primaryKey ∈ d.constraints then [name]
        else if (.uniqueKey ∈ d.constraints ∨ .serialDefault ∈ d.constraints ∨
            Text.upperString (rules.resolveType d.type).name = "SERIAL") ∧ t.primaryKey = [] then
          [name]
        else t.primaryKey := by
  obtain ⟨before, after, hsplit, hbefore, hrest⟩ := t.add_split c
  rw [resolveColumn_name h] at hbefore hrest
  refine ⟨_, resolveColumn_table h, rfl, rfl, ⟨before, after, hsplit, hbefore, hrest⟩, ?_⟩
  simp only [ColumnDefinition.keyAfter, ColumnDefinition.isUnique_eq_true_iff]

/-- A table with a key, and a column named `ID`. -/
def keyedDraft : TableDraft where
  id := { table := "t" }
  columns := [{ name := "x" }, { name := "ID", position := 2 }]
  primaryKey := ["x"]

theorem resolveColumn_adds_once_replaced :
    let d : ColumnDefinition := {
      type := .simple "SERIAL" false false, constraints := [.primaryKey, .null {}, .uniqueKey] }
    ∃ c t', (resolveColumn {} "id" d (some keyedDraft)).result = .ok c ∧
      (resolveColumn {} "id" d (some keyedDraft)).table = some t' ∧
      t'.columns = [{ name := "x" }, { c with position := 2 }] ∧ t'.primaryKey = ["id"] := by
  intro d
  have hliteral : ¬ d.type.BadLiteral := by
    simp [d, ColumnType.BadLiteral, ColumnType.lengthLiterals, ColumnType.scaleLiterals]
  have hname : Text.upperString d.type.resolve.name ∉ ["ENUM", "SET"] := by decide
  obtain ⟨c, hc⟩ : ∃ c, (resolveColumn {} "id" d (some keyedDraft)).result = .ok c :=
    exists_resolveColumn_ok hliteral fun h => h.elim (fun h => h.1) fun h => hname h.2
  obtain ⟨t', ht, -, hcolumns, -, hkey⟩ := resolveColumn_adds_once hc
  refine ⟨c, t', hc, ht, ?_, hkey.trans (by decide)⟩
  have hname : c.key = "id" := by
    rw [Column.key, resolveColumn_name hc]
    decide
  have hx : Column.key { name := "x" } ≠ c.key := by
    rw [hname]
    decide
  have hid : Column.key { name := "ID", position := 2 } = c.key := by
    rw [hname]
    decide
  rw [hcolumns, TableDraft.add, keyedDraft, TableDraft.placeColumn_cons_of_ne hx,
    TableDraft.placeColumn_cons_of_eq hid]
  rfl

end TableSchema
