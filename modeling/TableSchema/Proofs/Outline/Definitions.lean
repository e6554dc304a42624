import TableSchema.Outline
import TableSchema.Proofs.Independence

/-!
The table that definitions make, one after the other.

Each definition adds its column and settles the key, and nothing else comes of it. So after a list
of definitions there is one column for each name, at the place of the first definition of that name
and with what the last one says. The invariant is `Made`; one more definition keeps it, and so does
a whole run.
-/

namespace TableSchema

open Text (lowerString)

variable {rules : Rules} {ds rest : List (String × ColumnDefinition)}
  {d : String × ColumnDefinition} {c : Column} {t t' : TableDraft}

/-! ### Names and their last definitions -/

lemma eraseDups_concat {α : Type} [DecidableEq α] (xs : List α) (x : α) :
    (xs ++ [x]).eraseDups = if x ∈ xs then xs.eraseDups else xs.eraseDups ++ [x] := by
  rw [List.eraseDups_append]
  split_ifs with h <;> simp [List.removeAll, List.eraseDups_cons, h]

lemma nodup_eraseDups {α : Type} [DecidableEq α] (xs : List α) : xs.eraseDups.Nodup := by
  induction xs using List.reverseRecOn with
  | nil => simp
  | append_singleton xs x ih =>
    rw [eraseDups_concat]
    split_ifs with h
    · exact ih
    · rw [← List.concat_eq_append]
      exact ih.concat (by simpa using h)

def lastOf? (ds : List (String × ColumnDefinition)) (name : String) :
    Option (String × ColumnDefinition) :=
  ds.reverse.find? fun d => sameName d.1 name

lemma lastOf?_append (ds : List (String × ColumnDefinition)) (d : String × ColumnDefinition)
    (name : String) :
    lastOf? (ds ++ [d]) name = if sameName d.1 name then some d else lastOf? ds name := by
  unfold lastOf?
  rw [List.reverse_append, List.reverse_singleton, List.singleton_append, List.find?_cons]
  split <;> simp [*]

/-! ### The invariant -/

/-- A definition has a column, whatever table it is put into. -/
def Makes (rules : Rules) (d : String × ColumnDefinition) (c : Column) : Prop :=
  ∀ u : TableDraft, (resolveColumn rules d.1 d.2 (some u)).result = .ok c

lemma makes_of_ok {u : TableDraft}
    (h : (resolveColumn rules d.1 d.2 (some u)).result = .ok c) : Makes rules d c :=
  fun u' => (resolveColumn_beside u' u).trans h

def TableDraft.extend (rules : Rules) (t : TableDraft) (d : String × ColumnDefinition)
    (c : Column) : TableDraft :=
  { t.add c with primaryKey := d.2.keyAfter rules d.1 t.primaryKey }

structure Made (rules : Rules) (ds : List (String × ColumnDefinition)) (t : TableDraft) : Prop where
  keys : t.columns.map Column.key = (ds.map fun d => lowerString d.1).eraseDups
  numbered : Numbered 0 t.columns
  column : ∀ c ∈ t.columns, ∃ d r, lastOf? ds c.name = some d ∧ Makes rules d r ∧
    c = { r with position := c.position }
  key : t.primaryKey = ds.foldl (fun key d => d.2.keyAfter rules d.1 key) []

lemma Made.nil (id : TableId) : Made rules [] { id } where
  keys := rfl
  numbered := trivial
  column := by simp
  key := rfl

lemma Made.extend (h : Made rules ds t) (hc : Makes rules d c) :
    Made rules (ds ++ [d]) (t.extend rules d c) := by
  have hname : c.name = d.1 := resolveColumn_name (hc t)
  have hkey : lowerString d.1 = c.key := by rw [Column.key, hname]
  refine ⟨?_, TableDraft.numbered_placeColumn c h.numbered, fun x hx => ?_, ?_⟩
  · have hplace : (t.extend rules d c).columns.map Column.key = _ :=
      TableDraft.keys_placeColumn c 0 t.columns
    rw [hplace, h.keys, List.map_append, List.map_singleton, hkey, eraseDups_concat]
    simp only [List.mem_eraseDups]
  · have hnodup : (t.columns.map Column.key).Nodup := by
      rw [h.keys]
      exact nodup_eraseDups _
    rcases TableDraft.mem_placeColumn hnodup hx with heq | ⟨hold, hne⟩
    · have hx' : x.name = d.1 := by rw [heq]; exact hname
      refine ⟨d, c, ?_, hc, heq⟩
      rw [lastOf?_append, if_pos (by simp [hx'])]
    · -- a column of another name, of whose definitions `d` is none
      obtain ⟨e, r, hlast, hr, heq⟩ := h.column x hold
      refine ⟨e, r, ?_, hr, heq⟩
      have hdiff : ¬ sameName d.1 x.name = true := by
        rw [sameName_iff, hkey]
        exact fun h => hne h.symm
      rw [lastOf?_append, if_neg hdiff, hlast]
  · rw [List.foldl_append, List.foldl_cons, List.foldl_nil, ← h.key]
    rfl

/-! ### Runs -/

namespace TableDraft

lemma define_cons_of_ok (hc : (resolveColumn rules d.1 d.2 (some t)).result = .ok c) :
    (t.define rules (d :: rest)).result = ((t.extend rules d c).define rules rest).result := by
  rw [define, hc, resolveColumn_table hc]
  rfl

lemma define_cons_of_error {e : ResolveError}
    (he : (resolveColumn rules d.1 d.2 (some t)).result = .error e) :
    (t.define rules (d :: rest)).result = .error e := by
  rw [define, he]

/-- **A run of definitions** carries the invariant on. -/
theorem made_of_define (h : Made rules ds t) (hr : (t.define rules rest).result = .ok t') :
    Made rules (ds ++ rest) t' ∧ t'.id = t.id := by
  induction rest generalizing ds t with
  | nil =>
    obtain rfl := Except.ok.inj hr
    rw [List.append_nil]
    exact ⟨h, rfl⟩
  | cons d rest ih =>
    rcases hc : (resolveColumn rules d.1 d.2 (some t)).result with e | c
    · rw [define_cons_of_error hc] at hr
      cases hr
    · rw [define_cons_of_ok hc] at hr
      have hnext := ih (h.extend (makes_of_ok hc)) hr
      rwa [List.append_assoc, List.singleton_append] at hnext

/-- Definitions that all have a column make a table. -/
lemma define_of_makes (h : ∀ d ∈ rest, ∃ c, Makes rules d c) :
    ∃ t', (t.define rules rest).result = .ok t' := by
  induction rest generalizing t with
  | nil => exact ⟨t, rfl⟩
  | cons d rest ih =>
    obtain ⟨c, hc⟩ := h d List.mem_cons_self
    obtain ⟨t', ht'⟩ := ih (t := t.extend rules d c) fun e he => h e (List.mem_cons_of_mem _ he)
    exact ⟨t', (define_cons_of_ok (hc t)).trans ht'⟩

end TableDraft
end TableSchema
