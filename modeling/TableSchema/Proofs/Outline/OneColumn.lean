import TableSchema.Ddl
import TableSchema.Proofs.Outline.Build

/-!
The column of a text that is to hold one definition.

Columns are counted when the table is made, and by then definitions of one name have become one
column. So a text of several definitions is refused just if two of them differ in name; if all go by
one name, the column of the last is given for the text, and the others are lost without a word.
-/

namespace TableSchema

open Text (lowerString)

/-- Definitions, at least one, that all go by one name. -/
def OneName (ds : List (String × ColumnDefinition)) : Prop :=
  ∃ key, ds ≠ [] ∧ ∀ d ∈ ds, lowerString d.1 = key

lemma ResolveError.isParsing (e : ResolveError) : e.kind.IsParsing := by
  cases e <;> trivial

/-! ### Names -/

lemma length_eraseDups_eq_one_iff {α : Type} [DecidableEq α] {xs : List α} :
    xs.eraseDups.length = 1 ↔ ∃ x, xs ≠ [] ∧ ∀ y ∈ xs, y = x := by
  constructor
  · intro h
    obtain ⟨x, hx⟩ := List.length_eq_one_iff.mp h
    have hmem : ∀ y, y ∈ xs ↔ y = x := by
      intro y
      rw [← List.mem_eraseDups, hx, List.mem_singleton]
    exact ⟨x, List.ne_nil_of_mem ((hmem x).mpr rfl), fun y hy => (hmem y).mp hy⟩
  · rintro ⟨x, hne, hall⟩
    obtain ⟨y, hy⟩ := List.exists_mem_of_ne_nil xs hne
    have hreplicate : xs.eraseDups = List.replicate xs.eraseDups.length x :=
      List.eq_replicate_iff.mpr ⟨rfl, fun z hz => hall z (List.mem_eraseDups.mp hz)⟩
    have hle : xs.eraseDups.length ≤ 1 := by
      have hnodup := nodup_eraseDups xs
      rw [hreplicate] at hnodup
      exact List.nodup_replicate.mp hnodup
    have hpos : 0 < xs.eraseDups.length :=
      List.length_pos_of_mem (List.mem_eraseDups.mpr hy)
    omega

lemma oneName_iff {ds : List (String × ColumnDefinition)} :
    OneName ds ↔ (ds.map fun d => lowerString d.1).eraseDups.length = 1 := by
  simp only [OneName, length_eraseDups_eq_one_iff, ne_eq, List.map_eq_nil_iff, List.forall_mem_map]

/-- Of definitions of one name the last is the last of them all. -/
lemma lastOf?_of_forall {ds : List (String × ColumnDefinition)} {name : String}
    (h : ∀ d ∈ ds, lowerString d.1 = lowerString name) : lastOf? ds name = ds.getLast? := by
  rcases List.eq_nil_or_concat ds with rfl | ⟨ds, d, rfl⟩
  · rfl
  · rw [List.concat_eq_append, lastOf?_append, if_pos (sameName_iff.mpr (h d (by simp)))]
    simp

/-! ### Tables -/

namespace Outline

variable {rules : Rules} {o : Outline} {t : Table}

lemma length_columns_of_build (h : (o.build rules).result = .ok t) :
    t.columns.length = (o.columns.map fun d => lowerString d.1).eraseDups.length := by
  obtain ⟨u, hmade, -, rfl⟩ := build_ok h
  rw [← hmade.keys]
  simp

lemma column_of_build_singleton {c : Column} (h : (o.build rules).result = .ok t)
    (hc : t.columns = [c]) :
    ∃ d r, o.columns.getLast? = some d ∧ Makes rules d r ∧
      c = { r with
        position := 1
        nullability := if o.KeyNames c then .notNull else r.nullability } := by
  have hmem : c ∈ t.columns := by simp [hc]
  obtain ⟨d, r, hlast, hr, heq⟩ := column_of_build h hmem
  obtain ⟨u, hmade, -, rfl⟩ := build_ok h
  obtain ⟨x, hx, hxc⟩ := List.map_eq_singleton_iff.mp hc
  have hkey : ∀ e ∈ o.columns, lowerString e.1 = lowerString c.name := by
    intro e he
    have hmem : lowerString e.1 ∈ u.columns.map Column.key := by
      rw [hmade.keys, List.mem_eraseDups]
      exact List.mem_map_of_mem he
    rw [hx, List.map_singleton, List.mem_singleton] at hmem
    rw [hmem, ← TableDraft.key_requireValue o.keys.flatten x, hxc]
    rfl
  have hposition : c.position = 1 := by
    have hnumbered := hmade.numbered
    rw [hx] at hnumbered
    rw [← hxc, requireValue_eq]
    exact hnumbered.1
  rw [hposition] at heq
  exact ⟨d, r, (lastOf?_of_forall hkey).symm.trans hlast, hr, heq⟩

end Outline

/-! ### Texts -/

lemma Sql.outlineOf_error {r : Sql.Renderer} {id : TableId} {columns : List Sql.ColumnSpec}
    {keys : List (List Sql.KeyPart)} {e : Sql.OutlineError}
    (h : (Sql.outlineOf r id columns keys).error = some e) : e.kind.IsParsing := by
  unfold Sql.outlineOf at h
  split at h
  · obtain rfl := Option.some.inj h
    trivial
  · dsimp only at h
    split_ifs at h
    obtain rfl := Option.some.inj h
    trivial

/-- What ends an outline early is about what the text says. -/
lemma Sql.outline_error {engine : Sql.Engine} {d : Sql.Dialect} {text : String}
    {o : Sql.PartialOutline} {e : Sql.OutlineError} (h : Sql.outline engine d text = .ok o)
    (he : o.error = some e) : e.kind.IsParsing := by
  unfold Sql.outline at h
  rcases hr : engine.read d (Source.rewrite text.toList) with e' | s
  · rw [hr] at h
    cases h
  · rw [hr] at h
    cases s with
    | createTable id items =>
      obtain rfl := Except.ok.inj h
      exact outlineOf_error he
    | alterTable id columns =>
      obtain rfl := Except.ok.inj h
      exact outlineOf_error he
    | other kind => cases h

namespace Ddl

variable {s : Settings} {definition name : String} {engine : Sql.Engine}
  {o : Sql.PartialOutline} {t : Table}

lemma outline_isParsing {text : String} {e : Sql.OutlineError}
    (h : outline s text engine = .ok o) (he : o.error = some e) : e.kind.IsParsing := by
  unfold outline at h
  split at h
  · cases h
  · next d _ =>
    rcases hd : Sql.outline engine d text with e' | o'
    · rw [hd] at h
      cases h
    · rw [hd] at h
      obtain rfl := Except.ok.inj h
      exact Sql.outline_error hd he

lemma onlyColumn_eq_ok_iff {c : Column} : onlyColumn definition t = .ok c ↔ t.columns = [c] := by
  unfold onlyColumn
  rcases t.columns with _ | ⟨x, _ | ⟨y, cs⟩⟩ <;> simp

lemma onlyColumn_of_length_ne (h : t.columns.length ≠ 1) :
    onlyColumn definition t = .error (.notOneColumn definition t.columns.length) := by
  unfold onlyColumn
  split
  · next c hc => simp [hc] at h
  · rfl

/-- What comes of a text that is read: the failure of its table, what ended its outline early, or
the count of the columns. -/
lemma column_cases (h : outline s (createTable name definition) engine = .ok o) :
    (∃ e, (o.outline.build (rules s)).result = .error e ∧
        (column s definition name engine).result = .error (.resolve e)) ∨
      (∃ e, o.error = some e ∧
        (column s definition name engine).result = .error (.outline e)) ∨
      ∃ t, o.error = none ∧ (o.outline.build (rules s)).result = .ok t ∧
        (column s definition name engine).result = onlyColumn definition t := by
  have hsql : isSql "sql" = true := rfl
  have hcolumn : (column s definition name engine).result =
      (build s o).result.bind (onlyColumn definition) := by
    simp [column, table, hsql, h]
  rw [hcolumn, build]
  rcases (o.outline.build (rules s)).result with e | t
  · exact .inl ⟨e, rfl, rfl⟩
  · rcases o.error with _ | e
    · exact .inr (.inr ⟨t, rfl, rfl, rfl⟩)
    · exact .inr (.inl ⟨e, rfl, rfl⟩)

/-- **One column**: a text that is read, with whatever engine, fails exactly if its table fails,
something ended its outline, or its definitions do not all go by one name; the failure is about what
the text says, and counts names, not definitions. Otherwise it gives the column of the last of its
definitions. -/
theorem column_of_definitions (h : outline s (createTable name definition) engine = .ok o) :
    (∀ e, (column s definition name engine).result = .error e → e.kind.IsParsing) ∧
      ((∃ e, (column s definition name engine).result = .error e) ↔
        (∃ e, (o.outline.build (rules s)).result = .error e) ∨ o.error ≠ none ∨
          ¬ OneName o.outline.columns) ∧
      (∀ d count, (column s definition name engine).result = .error (.notOneColumn d count) →
        d = definition ∧
          count = (o.outline.columns.map fun d => lowerString d.1).eraseDups.length) ∧
      ∀ c, (column s definition name engine).result = .ok c →
        ∃ n d r, o.outline.columns.getLast? = some (n, d) ∧
          (∀ u : TableDraft, (resolveColumn (rules s) n d (some u)).result = .ok r) ∧
          c = { r with
            position := 1
            nullability := if o.outline.KeyNames c then .notNull else r.nullability } := by
  rcases column_cases h with ⟨e, hb, hr⟩ | ⟨e, he, hr⟩ | ⟨t, he, hb, hr⟩
  · simp [hr, hb, DdlError.kind, e.isParsing]
  · simp [hr, he, DdlError.kind, outline_isParsing h he]
  · have hlength := Outline.length_columns_of_build hb
    rw [hr]
    by_cases hone : OneName o.outline.columns
    · obtain ⟨c, hc⟩ := List.length_eq_one_iff.mp (hlength.trans (oneName_iff.mp hone))
      have hok : onlyColumn definition t = .ok c := onlyColumn_eq_ok_iff.mpr hc
      refine ⟨by simp [hok], by simp [hok, hb, he, hone], by simp [hok], fun c' hc' => ?_⟩
      obtain ⟨⟨n, d⟩, r, hlast, hmakes, heq⟩ :=
        Outline.column_of_build_singleton hb (onlyColumn_eq_ok_iff.mp hc')
      exact ⟨n, d, r, hlast, hmakes, heq⟩
    · have herror : onlyColumn definition t = .error (.notOneColumn definition t.columns.length) :=
        onlyColumn_of_length_ne fun hl => hone (oneName_iff.mpr (hlength.symm.trans hl))
      simp [herror, hone, hlength, DdlError.kind, ErrorKind.IsParsing, eq_comm]

def repeatedDefinition : String := "a INT, A VARCHAR(3)"

def repeatedOutline : Outline where
  id := { table := defaultTable }
  columns := [("a", { type := .dimensioned "INT" none none none false false }),
    ("A", { type := .string "VARCHAR" (some ⟨"3"⟩) none none })]

lemma outline_repeated :
    ∃ o, outline {} (createTable defaultTable repeatedDefinition) = .ok o ∧
      o.outline = repeatedOutline ∧ o.error = none := by
  have hparts : (outline {} (createTable defaultTable repeatedDefinition)).toOption.map
      (fun o => (o.outline, o.error.isNone)) = some (repeatedOutline, true) := by decide +kernel
  rcases ho : outline {} (createTable defaultTable repeatedDefinition) with e | o
  · rw [ho] at hparts
    cases hparts
  · rw [ho] at hparts
    obtain ⟨hout, hnone⟩ := Prod.mk.inj (Option.some.inj hparts)
    exact ⟨o, rfl, hout, Option.isNone_iff_eq_none.mp hnone⟩

lemma build_repeated : ∃ t, (repeatedOutline.build (rules {})).result = .ok t := ⟨_, rfl⟩

lemma oneName_repeated : OneName repeatedOutline.columns := oneName_iff.mpr (by decide)

theorem column_of_definitions_repeated :
    ∃ o, outline {} (createTable defaultTable repeatedDefinition) = .ok o ∧
      o.outline.columns.map Prod.fst = ["a", "A"] ∧
      ∃ c, (column {} repeatedDefinition).result = .ok c ∧ c.name = "A" := by
  obtain ⟨o, ho, hout, hnone⟩ := outline_repeated
  obtain ⟨t, ht⟩ := build_repeated
  obtain ⟨-, hfails, -, hcolumn⟩ := column_of_definitions ho
  rw [hout] at hfails hcolumn
  refine ⟨o, ho, by rw [hout]; rfl, ?_⟩
  rcases hc : (column {} repeatedDefinition).result with e | c
  · rcases hfails.mp ⟨e, hc⟩ with ⟨e', he'⟩ | hstopped | hnames
    · rw [ht] at he'
      cases he'
    · exact absurd hnone hstopped
    · exact absurd oneName_repeated hnames
  · obtain ⟨n, d, r, hlast, hr, heq⟩ := hcolumn c hc
    obtain ⟨rfl, -⟩ := Prod.mk.inj (Option.some.inj hlast)
    have hname := resolveColumn_name (hr { id := t.id })
    exact ⟨c, rfl, (congrArg Column.name heq).trans hname⟩

/-- A text of two definitions of one name is not refused. -/
theorem second_definition_taken :
    ¬ ∀ (s : Settings) (definition name : String) (o : Sql.PartialOutline),
      outline s (createTable name definition) = .ok o → o.outline.columns.length ≠ 1 →
      ∃ e, (column s definition name).result = .error e ∧ e.kind.IsParsing := by
  intro h
  obtain ⟨o, ho, hout, hnone⟩ := outline_repeated
  obtain ⟨t, ht⟩ := build_repeated
  obtain ⟨e, he, -⟩ := h {} repeatedDefinition defaultTable o ho (by rw [hout]; decide)
  rcases column_cases ho with ⟨e', hb, -⟩ | ⟨e', hstopped, -⟩ | ⟨t', -, hb, hr⟩
  · rw [hout, ht] at hb
    cases hb
  · rw [hnone] at hstopped
    cases hstopped
  · have hlength := Outline.length_columns_of_build hb
    rw [hout, oneName_iff.mp oneName_repeated] at hlength
    obtain ⟨c, hc⟩ := List.length_eq_one_iff.mp hlength
    rw [onlyColumn_eq_ok_iff.mpr hc] at hr
    rw [hr] at he
    cases he

end Ddl
end TableSchema
