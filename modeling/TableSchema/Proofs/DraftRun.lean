import TableSchema.Proofs.Failure
import TableSchema.Proofs.Outline.Build

/-!
Runs of changes to a table.

A table may be changed in four ways, each of which may come at any time and all but one of which may
fail. Main statements: a change that fails has changed nothing, see `TableDraft.step_of_failure`,
and after any changes at all the columns are numbered, known by one name each and among them those
of the key, see `TableDraft.run_sound`.
-/

namespace TableSchema

open Text (lowerString)

inductive DraftStep where
  | add (column : Column)
  | setKey (names : List String)
  | setTableKey (names : List String)
  /-- A definition may be resolved by rules of its own. -/
  | define (rules : Rules) (name : String) (definition : ColumnDefinition)

namespace TableDraft

/-- A change that may be refused, and then leaves the table as it is. -/
def attempt (t : TableDraft) : Except MissingKeyColumn TableDraft → Option ResolveError × TableDraft
  | .ok t' => (none, t')
  | .error e => (some (.missingKeyColumn e), t)

def step (t : TableDraft) : DraftStep → Option ResolveError × TableDraft
  | .add column => (none, t.add column)
  | .setKey names => t.attempt (t.setKey names)
  | .setTableKey names => t.attempt (t.setTableKey names)
  | .define rules name definition =>
    let r := resolveColumn rules name definition (some t)
    match r.result with
    | .ok _ => (none, r.table.getD t)
    | .error e => (some e, r.table.getD t)

/-- The table after some changes. One that fails does not end the run. -/
def run (t : TableDraft) (steps : List DraftStep) : TableDraft :=
  steps.foldl (fun t s => (t.step s).2) t

variable {t t' : TableDraft} {names : List String} {rules : Rules} {name : String}
  {definition : ColumnDefinition}

/-! ### Failures -/

lemma attempt_of_failure {r : Except MissingKeyColumn TableDraft} {e : ResolveError}
    (h : (t.attempt r).1 = some e) : (t.attempt r).2 = t := by
  cases r with
  | ok => cases h
  | error => rfl

lemma step_define_of_error {e : ResolveError}
    (h : (resolveColumn rules name definition (some t)).result = .error e) :
    t.step (.define rules name definition) = (some e, t) := by
  unfold step
  simp only [h, (resolveColumn_error h).2, Option.getD_some]

lemma step_define_of_ok {c : Column}
    (h : (resolveColumn rules name definition (some t)).result = .ok c) :
    t.step (.define rules name definition) =
      (none, { t.add c with primaryKey := definition.keyAfter rules name t.primaryKey }) := by
  unfold step
  simp only [h, resolveColumn_table h, Option.getD_some]

/-- **Failures**: a change that fails has changed nothing. -/
theorem step_of_failure {s : DraftStep} {e : ResolveError} (h : (t.step s).1 = some e) :
    (t.step s).2 = t := by
  cases s with
  | add column => cases h
  | setKey names => exact attempt_of_failure h
  | setTableKey names => exact attempt_of_failure h
  | define rules name definition =>
    rcases hr : (resolveColumn rules name definition (some t)).result with e' | c
    · rw [step_define_of_error hr]
    · rw [step_define_of_ok hr] at h
      cases h

/-! ### The invariant -/

/-- The columns are numbered, no two of them go by one name, and the key names columns. -/
structure Sound (t : TableDraft) : Prop where
  numbered : Numbered 0 t.columns
  distinct : (t.columns.map Column.key).Nodup
  keyed : ∀ n ∈ t.primaryKey, lowerString n ∈ t.columns.map Column.key

lemma sound_new (id : TableId) : Sound { id } where
  numbered := trivial
  distinct := List.nodup_nil
  keyed := by simp

lemma mem_keys_add (t : TableDraft) (c : Column) (key : String) :
    key ∈ (t.add c).columns.map Column.key ↔ key = c.key ∨ key ∈ t.columns.map Column.key := by
  rw [add, keys_placeColumn]
  split_ifs with h
  · have hc : key = c.key → key ∈ t.columns.map Column.key := fun e => e ▸ h
    tauto
  · rw [List.mem_append, List.mem_singleton, or_comm]

lemma Sound.add (h : t.Sound) (c : Column) : (t.add c).Sound where
  numbered := numbered_placeColumn c h.numbered
  distinct := by
    rw [TableDraft.add, keys_placeColumn]
    split_ifs with hc
    · exact h.distinct
    · rw [← List.concat_eq_append]
      exact h.distinct.concat hc
  keyed n hn := (mem_keys_add t c _).mpr (.inr (h.keyed n hn))

lemma Sound.setKey (h : t.Sound) (hs : t.setKey names = .ok t') : t'.Sound := by
  obtain ⟨hnames, rfl⟩ := setKey_ok_iff.mp hs
  exact ⟨h.numbered, h.distinct, hnames⟩

lemma Sound.setTableKey (h : t.Sound) (hs : t.setTableKey names = .ok t') : t'.Sound := by
  obtain ⟨hnames, rfl⟩ := setTableKey_ok_iff.mp hs
  have hposition : ∀ c, (requireValue names c).position = c.position := by
    intro c
    rw [requireValue_eq]
  refine ⟨h.numbered.map hposition, ?_, ?_⟩
  · rw [keys_requireValues]
    exact h.distinct
  · rw [keys_requireValues]
    exact hnames

/-- The key after a definition is the one before, or names the column of the definition. -/
lemma Sound.define {c : Column} (h : t.Sound)
    (hc : (resolveColumn rules name definition (some t)).result = .ok c) :
    Sound { t.add c with primaryKey := definition.keyAfter rules name t.primaryKey } where
  numbered := (h.add c).numbered
  distinct := (h.add c).distinct
  keyed n hn := by
    have hname : lowerString name = c.key := by rw [Column.key, resolveColumn_name hc]
    have hcases : n = name ∨ n ∈ t.primaryKey := by
      unfold ColumnDefinition.keyAfter at hn
      split_ifs at hn
      · exact .inl (List.mem_singleton.mp hn)
      · exact .inl (List.mem_singleton.mp hn)
      · exact .inr hn
    rcases hcases with rfl | hn
    · exact (mem_keys_add t c _).mpr (.inl hname)
    · exact (h.add c).keyed n hn

lemma Sound.attempt (h : t.Sound) {r : Except MissingKeyColumn TableDraft}
    (hr : ∀ t', r = .ok t' → t'.Sound) : (t.attempt r).2.Sound := by
  cases r with
  | ok t' => exact hr t' rfl
  | error => exact h

/-- **One change** keeps the invariant, failed or not. -/
lemma Sound.step (h : t.Sound) (s : DraftStep) : (t.step s).2.Sound := by
  cases s with
  | add column => exact h.add column
  | setKey names => exact h.attempt fun _ => h.setKey
  | setTableKey names => exact h.attempt fun _ => h.setTableKey
  | define rules name definition =>
    rcases hr : (resolveColumn rules name definition (some t)).result with e | c
    · rw [step_define_of_error hr]
      exact h
    · rw [step_define_of_ok hr]
      exact h.define hr

lemma Sound.run (h : t.Sound) (steps : List DraftStep) : (t.run steps).Sound := by
  induction steps generalizing t with
  | nil => exact h
  | cons s steps ih => exact ih (h.step s)

/-! ### Columns by name -/

lemma of_findColumn? {cs : List Column} {c : Column} (h : findColumn? cs name = some c) :
    c ∈ cs ∧ c.key = lowerString name := by
  unfold findColumn? at h
  have hsame := List.find?_some h
  exact ⟨List.mem_of_find?_eq_some h, sameName_iff.mp hsame⟩

/-- Where names do not repeat, a search by name finds the only column that goes by it. -/
lemma Sound.find?_eq_some_iff (h : t.Sound) {c : Column} :
    t.find? name = some c ↔ c ∈ t.columns ∧ lowerString c.name = lowerString name := by
  constructor
  · exact of_findColumn?
  · rintro ⟨hmem, hname⟩
    rcases hfind : t.find? name with _ | d
    · rw [find?, findColumn?_eq_none_iff, ← hname] at hfind
      exact absurd (List.mem_map_of_mem hmem) hfind
    · obtain ⟨hd, hkey⟩ := of_findColumn? hfind
      rw [List.inj_on_of_nodup_map h.distinct hd hmem (hkey.trans hname.symm)]

/-- **Runs**: after any changes to a new table, failed ones among them, the columns are numbered
from one and no two go by one name, the key names columns, and a search by name, before or after the
table is finished, finds the only column of the name. -/
theorem run_sound (id : TableId) (steps : List DraftStep) :
    let t := run { id } steps
    (∀ (i : Nat) (hi : i < t.columns.length), t.columns[i].position = i + 1) ∧
      t.columns.Pairwise (fun c d => lowerString c.name ≠ lowerString d.name) ∧
      (∀ n ∈ t.primaryKey, (t.find? n).isSome) ∧
      ∀ name, t.finish.find? name = t.find? name ∧
        ∀ c, t.find? name = some c ↔ c ∈ t.columns ∧ lowerString c.name = lowerString name := by
  intro t
  have h : t.Sound := (sound_new id).run steps
  refine ⟨fun i hi => ?_, List.pairwise_map.mp h.distinct, fun n hn => ?_, fun name => ⟨rfl, ?_⟩⟩
  · rw [h.numbered.getElem i hi]
    omega
  · rw [Option.isSome_iff_ne_none, find?, Ne, findColumn?_eq_none_iff, not_not]
    exact h.keyed n hn
  · exact fun c => h.find?_eq_some_iff

end TableDraft
end TableSchema
