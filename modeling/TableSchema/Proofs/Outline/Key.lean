import TableSchema.Proofs.Outline.Build
import TableSchema.Proofs.TypeName

/-!
The primary key of a finished table.

Keys of the whole table come first, and of these the last. Where there is none, the last definition
with a clause for the key decides, and where there is no such clause the first definition that makes
its column unique. The invariant over a run of definitions is that the key so far is that of the
definitions so far: see `foldl_keyAfter`.
-/

namespace TableSchema

open Text (lowerString)

def ColumnDefinition.hasKeyClause (d : ColumnDefinition) : Bool :=
  d.constraints.contains .primaryKey

/-- The key that definitions ask for: the last by a clause, or else the first that is unique. -/
def columnKey (rules : Rules) (ds : List (String × ColumnDefinition)) : List String :=
  match ds.reverse.find? fun d => d.2.hasKeyClause with
  | some d => [d.1]
  | none =>
    match ds.find? fun d => d.2.isUnique rules with
    | some d => [d.1]
    | none => []

variable {rules : Rules} {ds : List (String × ColumnDefinition)} {d : String × ColumnDefinition}

lemma columnKey_append_of_clause (h : d.2.hasKeyClause = true) :
    columnKey rules (ds ++ [d]) = [d.1] := by
  have hcons : (d :: ds.reverse).find? (fun d => d.2.hasKeyClause) = some d :=
    List.find?_cons_of_pos h
  unfold columnKey
  rw [List.reverse_append, List.reverse_singleton, List.singleton_append, hcons]

lemma columnKey_append_of_no_clause (h : ¬ d.2.hasKeyClause = true) :
    columnKey rules (ds ++ [d]) =
      if d.2.isUnique rules ∧ columnKey rules ds = [] then [d.1] else columnKey rules ds := by
  have hcons : (d :: ds.reverse).find? (fun d => d.2.hasKeyClause) =
      ds.reverse.find? fun d => d.2.hasKeyClause := List.find?_cons_of_neg h
  unfold columnKey
  rw [List.reverse_append, List.reverse_singleton, List.singleton_append, hcons, List.find?_append]
  rcases hclause : ds.reverse.find? fun d => d.2.hasKeyClause with _ | e
  · rcases hunique : ds.find? fun d => d.2.isUnique rules with _ | e
    · by_cases hu : d.2.isUnique rules <;> simp [hclause, hunique, hu]
    · simp [hclause, hunique]
  · simp [hclause]

lemma foldl_keyAfter (rules : Rules) (ds : List (String × ColumnDefinition)) :
    ds.foldl (fun key d => d.2.keyAfter rules d.1 key) [] = columnKey rules ds := by
  induction ds using List.reverseRecOn with
  | nil => rfl
  | append_singleton ds d ih =>
    rw [List.foldl_append, List.foldl_cons, List.foldl_nil, ih, ColumnDefinition.keyAfter]
    have hcontains : d.2.hasKeyClause = true ↔ .primaryKey ∈ d.2.constraints :=
      List.contains_iff_mem
    split_ifs with hclause hunique
    · rw [columnKey_append_of_clause (hcontains.mpr hclause)]
    · rw [columnKey_append_of_no_clause (mt hcontains.mp hclause), if_pos hunique]
    · rw [columnKey_append_of_no_clause (mt hcontains.mp hclause), if_neg hunique]

/-- By the standard rules a column is unique by a clause or by the name of its type. -/
lemma ColumnDefinition.isUnique_iff (skipComments : Bool) (d : ColumnDefinition) :
    d.isUnique { skipComments } ↔ .uniqueKey ∈ d.constraints ∨ .serialDefault ∈ d.constraints ∨
      d.type.resolve.name = "SERIAL" := by
  have hname := d.type.upperString_resolve_name_iff (w := "SERIAL") (by decide)
  rw [isUnique_eq_true_iff, hname]

namespace Outline

variable {o : Outline}

/-- **The key**: where all definitions have columns, an outline fails exactly if one of its keys
names no column, and the failure says which. Otherwise the last of these keys is the key of the
table, or else the one that the definitions ask for, where by the standard rules a definition asks
for it by a clause or by the name of its type. -/
theorem build_primaryKey
    (h : ∀ d ∈ o.columns, ∃ c, (resolveColumn rules d.1 d.2 (some { id := o.id })).result = .ok c) :
    ((∃ e, (o.build rules).result = .error e) ↔ ∃ key ∈ o.keys, ∃ n ∈ key,
        lowerString n ∉ o.columns.map fun d => lowerString d.1) ∧
      (∀ e, (o.build rules).result = .error e → ∃ key ∈ o.keys, ∃ n ∈ key,
        lowerString n ∉ (o.columns.map fun d => lowerString d.1) ∧
          e = .missingKeyColumn ⟨n, o.id⟩) ∧
      (∀ t, (o.build rules).result = .ok t →
        t.primaryKey = o.keys.getLast?.getD (columnKey rules o.columns)) ∧
      ∀ skipComments, rules = { skipComments } → ∀ d ∈ o.columns,
        (d.2.isUnique rules ↔ .uniqueKey ∈ d.2.constraints ∨ .serialDefault ∈ d.2.constraints ∨
          d.2.type.resolve.name = "SERIAL") := by
  have hm : ∀ d ∈ o.columns, ∃ c, Makes rules d c := by
    intro d hd
    obtain ⟨c, hc⟩ := h d hd
    exact ⟨c, makes_of_ok hc⟩
  have herror : ∀ e, (o.build rules).result = .error e → ∃ key ∈ o.keys, ∃ n ∈ key,
      lowerString n ∉ (o.columns.map fun d => lowerString d.1) ∧
        e = .missingKeyColumn ⟨n, o.id⟩ := by
    intro e he
    obtain ⟨n, hn, hno, rfl⟩ := build_error hm he
    obtain ⟨key, hkey, hmem⟩ := List.mem_flatten.mp hn
    exact ⟨key, hkey, n, hmem, hno, rfl⟩
  refine ⟨⟨?_, ?_⟩, herror, ?_, ?_⟩
  · rintro ⟨e, he⟩
    obtain ⟨key, hkey, n, hn, hno, -⟩ := herror e he
    exact ⟨key, hkey, n, hn, hno⟩
  · rintro ⟨key, hkey, n, hn, hno⟩
    rcases hb : (o.build rules).result with e | t
    · exact ⟨e, rfl⟩
    · obtain ⟨u, -, hall, -⟩ := build_ok hb
      exact absurd (hall n (List.mem_flatten.mpr ⟨key, hkey, hn⟩)) hno
  · intro t ht
    obtain ⟨u, hmade, -, rfl⟩ := build_ok ht
    rw [hmade.key, foldl_keyAfter]
  · rintro skipComments rfl d -
    exact d.2.isUnique_iff skipComments

theorem build_primaryKey_mixed :
    (∀ d ∈ mixed.columns,
        ∃ c, (resolveColumn {} d.1 d.2 (some { id := mixed.id })).result = .ok c) ∧
      ∃ t, (mixed.build {}).result = .ok t ∧ t.primaryKey = ["B"] := by
  obtain ⟨t, ht⟩ := mixed_build
  exact ⟨mixed_makes, t, ht, ((build_primaryKey mixed_makes).2.2.1 t ht).trans (by decide)⟩

end Outline
end TableSchema
