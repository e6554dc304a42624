import TableSchema.Proofs.Outline.Definitions

/-!
Keys of a whole table, and what an outline comes to.

Of several keys the last one remains, and a column that any of them names admits no null. A key is
accepted as long as all its names are there, whatever keys came before. With the run of definitions
this says what an outline makes and when it fails: see `build_ok` and `build_error`.
-/

namespace TableSchema

open Text (lowerString)

namespace TableDraft

variable {t t' : TableDraft} {names : List String} {keys : List (List String)}

lemma requireValue_eq (names : List String) (c : Column) :
    requireValue names c =
      { c with nullability :=
        if c.key ∈ names.map lowerString then .notNull else c.nullability } := by
  have hany : names.any (sameName c.name ·) = true ↔ c.key ∈ names.map lowerString := by
    simp only [List.any_eq_true, sameName_iff, List.mem_map, Column.key,
      eq_comm (a := lowerString c.name)]
  unfold requireValue
  rw [if_congr hany rfl rfl]
  split_ifs <;> rfl

lemma key_requireValue (names : List String) (c : Column) :
    (requireValue names c).key = c.key := by
  rw [requireValue_eq]
  rfl

lemma requireValue_requireValue (names names' : List String) (c : Column) :
    requireValue names' (requireValue names c) = requireValue (names ++ names') c := by
  rw [requireValue_eq names', key_requireValue]
  simp only [requireValue_eq, List.map_append, List.mem_append]
  by_cases h : c.key ∈ names.map lowerString <;> by_cases h' : c.key ∈ names'.map lowerString <;>
    simp only [h, h', or_self, or_true, true_or, if_true, if_false]

lemma setTableKey_ok_iff :
    t.setTableKey names = .ok t' ↔
      (∀ n ∈ names, lowerString n ∈ t.columns.map Column.key) ∧
        t' = { t with columns := t.columns.map (requireValue names), primaryKey := names } := by
  unfold setTableKey
  rcases h : t.setKey names with e | u
  · have hno : ¬ ∀ n ∈ names, lowerString n ∈ t.columns.map Column.key := fun hall => by
      rw [setKey_ok_iff.mpr ⟨hall, rfl⟩] at h
      cases h
    refine ⟨fun h => ?_, fun h => absurd h.1 hno⟩
    cases h
  · obtain ⟨hall, rfl⟩ := setKey_ok_iff.mp h
    exact ⟨fun h => ⟨hall, (Except.ok.inj h).symm⟩, fun h => h.2 ▸ rfl⟩

lemma setTableKey_eq_error_iff {e : MissingKeyColumn} :
    t.setTableKey names = .error e ↔ t.setKey names = .error e := by
  unfold setTableKey
  cases t.setKey names <;> simp [Except.map]

lemma keys_requireValues (cs : List Column) (names : List String) :
    (cs.map (requireValue names)).map Column.key = cs.map Column.key := by
  rw [List.map_map]
  exact List.map_congr_left fun c _ => key_requireValue names c

lemma setTableKeys_cons_of_ok (h : t.setTableKey names = .ok t') :
    t.setTableKeys (names :: keys) = t'.setTableKeys keys := by
  unfold setTableKeys
  rw [List.foldlM_cons, h]
  rfl

lemma setTableKeys_cons_of_error {e : MissingKeyColumn} (h : t.setTableKey names = .error e) :
    t.setTableKeys (names :: keys) = .error e := by
  unfold setTableKeys
  rw [List.foldlM_cons, h]
  rfl

lemma setTableKeys_of_mem (h : ∀ n ∈ keys.flatten, lowerString n ∈ t.columns.map Column.key) :
    t.setTableKeys keys = .ok { t with
      columns := t.columns.map (requireValue keys.flatten)
      primaryKey := keys.getLast?.getD t.primaryKey } := by
  induction keys generalizing t with
  | nil =>
    have hid : t.columns.map (requireValue []) = t.columns := List.map_id t.columns
    rw [List.flatten_nil, hid]
    rfl
  | cons names keys ih =>
    rw [List.flatten_cons] at h
    have hnames := setTableKey_ok_iff.mpr ⟨fun n hn => h n (List.mem_append_left _ hn), rfl⟩
    rw [setTableKeys_cons_of_ok hnames, ih fun n hn => ?_]
    · simp only [List.map_map, List.flatten_cons, List.getLast?_cons, Option.getD_some]
      congr 2
      refine List.map_congr_left fun c _ => ?_
      exact requireValue_requireValue names keys.flatten c
    · rw [keys_requireValues]
      exact h n (List.mem_append_right _ hn)

lemma setTableKeys_error {e : MissingKeyColumn} (h : t.setTableKeys keys = .error e) :
    e.table = t.id ∧ e.name ∈ keys.flatten ∧ lowerString e.name ∉ t.columns.map Column.key := by
  induction keys generalizing t with
  | nil => cases h
  | cons names keys ih =>
    rw [List.flatten_cons]
    rcases hk : t.setTableKey names with e' | u
    · rw [setTableKeys_cons_of_error hk] at h
      obtain rfl := Except.error.inj h
      obtain ⟨htable, hmem, hno⟩ := setKey_error (setTableKey_eq_error_iff.mp hk)
      exact ⟨htable, List.mem_append_left _ hmem, hno⟩
    · rw [setTableKeys_cons_of_ok hk] at h
      obtain ⟨htable, hmem, hno⟩ := ih h
      obtain ⟨-, rfl⟩ := setTableKey_ok_iff.mp hk
      rw [keys_requireValues] at hno
      exact ⟨htable, List.mem_append_right _ hmem, hno⟩

lemma mem_of_setTableKeys (h : t.setTableKeys keys = .ok t') :
    ∀ n ∈ keys.flatten, lowerString n ∈ t.columns.map Column.key := by
  induction keys generalizing t with
  | nil => simp
  | cons names keys ih =>
    intro n hn
    rcases hk : t.setTableKey names with e | u
    · rw [setTableKeys_cons_of_error hk] at h
      cases h
    · rw [setTableKeys_cons_of_ok hk] at h
      obtain ⟨hnames, rfl⟩ := setTableKey_ok_iff.mp hk
      have hkeys := ih h
      rw [keys_requireValues] at hkeys
      rcases List.mem_append.mp (List.flatten_cons ▸ hn) with hn | hn
      · exact hnames n hn
      · exact hkeys n hn

end TableDraft

/-! ### Outlines -/

namespace Outline

variable {rules : Rules} {o : Outline} {t : Table}

lemma build_of_define {u : TableDraft}
    (h : (TableDraft.define rules { id := o.id } o.columns).result = .ok u) :
    (o.build rules).result =
      match u.setTableKeys o.keys with
      | .ok u => .ok u.finish
      | .error e => .error (.missingKeyColumn e) := by
  unfold build
  dsimp only
  rw [h]
  rcases hk : u.setTableKeys o.keys with e | u'
  · simp [bind, Except.bind, hk, throw, throwThe, MonadExceptOf.throw]
  · simp [bind, Except.bind, hk, pure, Except.pure]

lemma build_of_define_error {e : ResolveError}
    (h : (TableDraft.define rules { id := o.id } o.columns).result = .error e) :
    (o.build rules).result = .error e := by
  unfold build
  dsimp only
  rw [h]
  rfl

lemma mem_keys_iff {u : TableDraft} (h : Made rules o.columns u) (name : String) :
    lowerString name ∈ u.columns.map Column.key ↔
      lowerString name ∈ o.columns.map fun d => lowerString d.1 := by
  rw [h.keys, List.mem_eraseDups]

/-- A finished table has the columns of the definitions, of which a key may have made some not
null, and its keys name columns. -/
lemma build_ok (h : (o.build rules).result = .ok t) :
    ∃ u, Made rules o.columns u ∧
      (∀ n ∈ o.keys.flatten, lowerString n ∈ o.columns.map fun d => lowerString d.1) ∧
      t = ⟨o.id, u.columns.map (TableDraft.requireValue o.keys.flatten),
        o.keys.getLast?.getD u.primaryKey⟩ := by
  rcases hd : (TableDraft.define rules { id := o.id } o.columns).result with e | u
  · rw [build_of_define_error hd] at h
    cases h
  · obtain ⟨hmade, hid⟩ := TableDraft.made_of_define (.nil o.id) hd
    rw [build_of_define hd] at h
    rcases hk : u.setTableKeys o.keys with e | u'
    · rw [hk] at h
      cases h
    · rw [hk] at h
      have hmem := TableDraft.mem_of_setTableKeys hk
      rw [TableDraft.setTableKeys_of_mem hmem] at hk
      obtain rfl := Except.ok.inj hk
      refine ⟨u, hmade, fun n hn => (mem_keys_iff hmade n).mp (hmem n hn),
        (Except.ok.inj h).symm.trans ?_⟩
      rw [TableDraft.finish, hid]

def KeyNames (o : Outline) (c : Column) : Prop :=
  ∃ key ∈ o.keys, ∃ n ∈ key, lowerString n = c.key

instance (o : Outline) (c : Column) : Decidable (o.KeyNames c) :=
  inferInstanceAs (Decidable (∃ key ∈ o.keys, ∃ n ∈ key, lowerString n = c.key))

lemma requireValue_eq (o : Outline) (c : Column) :
    TableDraft.requireValue o.keys.flatten c =
      { c with nullability := if o.KeyNames c then .notNull else c.nullability } := by
  have hnames : c.key ∈ o.keys.flatten.map lowerString ↔ o.KeyNames c := by
    simp only [List.mem_map, List.mem_flatten, KeyNames]
    tauto
  rw [TableDraft.requireValue_eq, if_congr hnames rfl rfl]

/-- A column of a finished table is that of the last definition of its name, but for its place and
for what the keys of the whole table ask of it. -/
lemma column_of_build (h : (o.build rules).result = .ok t) {c : Column} (hc : c ∈ t.columns) :
    ∃ d r, lastOf? o.columns c.name = some d ∧ Makes rules d r ∧
      c = { r with
        position := c.position
        nullability := if o.KeyNames c then .notNull else r.nullability } := by
  obtain ⟨u, hmade, -, rfl⟩ := build_ok h
  obtain ⟨x, hx, rfl⟩ := List.mem_map.mp hc
  obtain ⟨d, r, hlast, hr, heq⟩ := hmade.column x hx
  obtain ⟨p, rfl⟩ : ∃ p, x = { r with position := p } := ⟨_, heq⟩
  rw [requireValue_eq]
  exact ⟨d, r, hlast, hr, rfl⟩

lemma build_error (hm : ∀ d ∈ o.columns, ∃ c, Makes rules d c) {e : ResolveError}
    (h : (o.build rules).result = .error e) :
    ∃ n ∈ o.keys.flatten, lowerString n ∉ (o.columns.map fun d => lowerString d.1) ∧
      e = .missingKeyColumn ⟨n, o.id⟩ := by
  obtain ⟨u, hu⟩ := TableDraft.define_of_makes (t := { id := o.id }) hm
  obtain ⟨hmade, hid⟩ := TableDraft.made_of_define (.nil o.id) hu
  rw [build_of_define hu] at h
  rcases hk : u.setTableKeys o.keys with ⟨n, id⟩ | u'
  · rw [hk] at h
    obtain ⟨htable, hmem, hno⟩ := TableDraft.setTableKeys_error hk
    have hid' : id = o.id := htable.trans hid
    rw [mem_keys_iff hmade] at hno
    exact ⟨n, hmem, hno, by rw [← hid']; exact (Except.error.inj h).symm⟩
  · rw [hk] at h
    cases h

/-- A name that comes twice, a unique column, a clause for the key and a key of the whole table. -/
def mixed : Outline where
  id := { table := "t" }
  columns := [
    ("a", { type := .simple "UUID" false false, constraints := [.uniqueKey] }),
    ("b", {
      type := .string "CHAR" (some ⟨"4"⟩) none none
      constraints := [.primaryKey, .null {}] }),
    ("A", { type := .collection "ENUM" ⟨["x", "y"]⟩ none })]
  keys := [["a"], ["B"]]

lemma mixed_makes : ∀ d ∈ mixed.columns,
    ∃ c, (resolveColumn {} d.1 d.2 (some { id := mixed.id })).result = .ok c := by
  intro d hd
  rcases List.mem_cons.mp hd with rfl | hd
  · exact ⟨_, rfl⟩
  · rcases List.mem_cons.mp hd with rfl | hd
    · exact ⟨_, rfl⟩
    · obtain rfl := List.mem_singleton.mp hd
      exact ⟨_, rfl⟩

lemma mixed_build : ∃ t, (mixed.build {}).result = .ok t := ⟨_, rfl⟩

end Outline
end TableSchema
