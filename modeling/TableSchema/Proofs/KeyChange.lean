import TableSchema.Proofs.DraftRun

/-!
Setting a key, one step after the other.

The names of a key are looked up one by one, then the key is written, and a key of the whole table
goes on to rewrite the columns in place. A step that fails keeps what was done before it, so it is
only the order of the steps that saves a table from half a key. Main statements: the steps come to
what `setKey` and `setTableKey` say at once, see `writeKey_eq` and `writeTableKey_eq`, and so a key
is set as a whole or not at all, see `setsKey`.
-/

namespace TableSchema

open Text (lowerString)

namespace TableDraft

/-- A change of a table in steps. A failure keeps the table it is met in. -/
abbrev Changing := EStateM MissingKeyColumn TableDraft

def lookUp (name : String) : Changing Unit := do
  let t ← get
  if (t.find? name).isNone then throw ⟨name, t.id⟩

def writeKey (names : List String) : Changing Unit := do
  names.forM lookUp
  modify fun t => { t with primaryKey := names }

/-- The columns with the one at a place made not null, if the names mention it and it is not so
yet. -/
def requireAt (names : List String) (cs : List Column) (i : Nat) : List Column :=
  match cs[i]? with
  | some c =>
    if names.any (sameName c.name ·) && c.nullability != .notNull then
      cs.set i { c with nullability := .notNull }
    else cs
  | none => cs

/-- Writes the key of the whole table, and goes over the columns from the first to the last. -/
def writeTableKey (names : List String) : Changing Unit := do
  writeKey names
  let t ← get
  (List.range t.columns.length).forM fun i =>
    modify fun t => { t with columns := requireAt names t.columns i }

/-- A change made at once. If it is refused, the table stays as it is. -/
def atOnce (t : TableDraft) :
    Except MissingKeyColumn TableDraft → EStateM.Result MissingKeyColumn TableDraft Unit
  | .ok t' => .ok () t'
  | .error e => .error e t

variable {t t' : TableDraft} {names : List String}

lemma get_apply (t : TableDraft) : (get : Changing TableDraft) t = .ok t t := rfl

/-! ### The names -/

lemma lookUp_eq (t : TableDraft) (name : String) :
    lookUp name t = if (t.find? name).isNone then .error ⟨name, t.id⟩ t else .ok () t := by
  unfold lookUp
  simp only [bind, EStateM.bind, get_apply]
  split_ifs <;> rfl

/-- Looking names up changes nothing and stops at the first that is missing. -/
lemma forM_lookUp (t : TableDraft) (names : List String) :
    names.forM lookUp t =
      match names.find? fun n => (t.find? n).isNone with
      | some name => .error ⟨name, t.id⟩ t
      | none => .ok () t := by
  induction names with
  | nil => rfl
  | cons n names ih =>
    have hcons : (n :: names).forM lookUp t = (lookUp n >>= fun _ => names.forM lookUp) t := rfl
    rw [hcons, List.find?_cons]
    simp only [bind, EStateM.bind, lookUp_eq]
    cases h : (t.find? n).isNone with
    | true => simp
    | false => simpa using ih

theorem writeKey_eq (t : TableDraft) (names : List String) :
    writeKey names t = t.atOnce (t.setKey names) := by
  unfold writeKey setKey
  simp only [bind, EStateM.bind, forM_lookUp]
  cases names.find? fun n => (t.find? n).isNone with
  | some name => rfl
  | none => rfl

/-! ### The columns -/

/-- At its place in the pass a column becomes what the key asks of it. -/
lemma requireAt_of_getElem? {cs : List Column} {i : Nat} {c : Column} (h : cs[i]? = some c) :
    requireAt names cs i = cs.set i (requireValue names c) := by
  obtain ⟨hi, rfl⟩ := List.getElem?_eq_some_iff.mp h
  unfold requireAt requireValue
  rw [h]
  by_cases hn : names.any (sameName cs[i].name ·) = true
  · by_cases hnull : cs[i].nullability = .notNull
    · -- the column that is not null already is written back as it is
      have hsame : ({ cs[i] with nullability := .notNull } : Column) = cs[i] := by rw [← hnull]
      simp [hn, hnull, hsame]
    · simp [hn, hnull]
  · simp [hn]

/-- **The pass**: after `n` steps the first `n` columns are what the key asks, and the others are
as they were. -/
lemma foldl_requireAt (names : List String) (cs : List Column) (n : Nat) :
    (List.range n).foldl (requireAt names) cs =
      (cs.take n).map (requireValue names) ++ cs.drop n := by
  induction n with
  | zero => simp
  | succ n ih =>
    rw [List.range_succ, List.foldl_concat, ih]
    rcases hc : cs[n]? with _ | c
    · have hn : cs.length ≤ n := List.getElem?_eq_none_iff.mp hc
      have hnone : ((cs.take n).map (requireValue names) ++ cs.drop n)[n]? = none := by
        simp [hn]
      unfold requireAt
      rw [hnone]
      simp [List.take_of_length_le, List.drop_eq_nil_of_le, hn, Nat.le_succ_of_le hn]
    · obtain ⟨hn, rfl⟩ := List.getElem?_eq_some_iff.mp hc
      have hlength : ((cs.take n).map (requireValue names)).length = n := by simp; omega
      have hsome : ((cs.take n).map (requireValue names) ++ cs.drop n)[n]? = some cs[n] := by
        rw [List.getElem?_append_right (by omega), hlength]
        simp
      rw [requireAt_of_getElem? hsome, List.set_append_right _ _ (by omega), hlength,
        List.drop_eq_getElem_cons hn, Nat.sub_self, List.set_cons_zero,
        List.take_succ_eq_append_getElem hn, List.map_append, List.append_assoc]
      rfl

lemma forM_requireAt (names : List String) (is : List Nat) (t : TableDraft) :
    (is.forM fun i => (modify fun t => { t with columns := requireAt names t.columns i } :
      Changing Unit)) t = .ok () { t with columns := is.foldl (requireAt names) t.columns } := by
  induction is generalizing t with
  | nil => rfl
  | cons i is ih => exact ih _

theorem writeTableKey_eq (t : TableDraft) (names : List String) :
    writeTableKey names t = t.atOnce (t.setTableKey names) := by
  unfold writeTableKey setTableKey
  simp only [bind, EStateM.bind, writeKey_eq, get_apply]
  rcases t.setKey names with e | u
  · rfl
  · simp only [atOnce, forM_requireAt, foldl_requireAt, List.take_length, List.drop_length,
      List.append_nil, Except.map]

/-! ### Keys as a whole -/

/-- A failure that tells of the first name of a key that is no column's. -/
def FirstMissing (t : TableDraft) (names : List String) (e : MissingKeyColumn) : Prop :=
  ∃ before after, names = before ++ e.name :: after ∧ (∀ n ∈ before, (t.find? n).isSome) ∧
    t.find? e.name = none ∧ e.table = t.id

/-- Steps that set a key of some names, with the columns that go with it, as a whole or not at
all. -/
structure SetsKey (steps : Changing Unit) (t : TableDraft) (names : List String)
    (columns : List Column) : Prop where
  fails_iff : (∃ e u, steps t = .error e u) ↔ ∃ n ∈ names, t.find? n = none
  of_error : ∀ e u, steps t = .error e u → t.FirstMissing names e ∧ u = t
  of_ok : ∀ u, steps t = .ok () u → u = { t with columns, primaryKey := names }
  again : ∀ u, steps t = .ok () u → steps u = .ok () u

lemma atOnce_eq_error_iff {r : Except MissingKeyColumn TableDraft} {e : MissingKeyColumn} :
    t.atOnce r = .error e t' ↔ r = .error e ∧ t' = t := by
  cases r <;> simp [atOnce, eq_comm]

lemma atOnce_eq_ok_iff {r : Except MissingKeyColumn TableDraft} :
    t.atOnce r = .ok () t' ↔ r = .ok t' := by
  cases r <;> simp [atOnce]

lemma firstMissing_of_setKey {e : MissingKeyColumn} (h : t.setKey names = .error e) :
    t.FirstMissing names e := by
  unfold setKey at h
  split at h
  · next name hname =>
    obtain rfl := Except.error.inj h
    obtain ⟨hnone, before, after, rfl, hbefore⟩ := List.find?_eq_some_iff_append.mp hname
    refine ⟨before, after, rfl, fun n hn => ?_, Option.isNone_iff_eq_none.mp hnone, rfl⟩
    simpa [Option.isSome_iff_ne_none] using hbefore n hn
  · cases h

/-- Steps that come to one change at once set the key as a whole. -/
lemma SetsKey.of_atOnce {steps : Changing Unit} {columns : List Column}
    {set : TableDraft → Except MissingKeyColumn TableDraft}
    (hsteps : ∀ u, steps u = u.atOnce (set u))
    (herror : ∀ u e, set u = .error e ↔ u.setKey names = .error e)
    (hok : ∀ u, set t = .ok u → u = { t with columns, primaryKey := names })
    (hagain : ∀ u, set t = .ok u → set u = .ok u) : SetsKey steps t names columns where
  fails_iff := by
    simp only [hsteps, atOnce_eq_error_iff, herror, exists_and_left, exists_eq, and_true]
    constructor
    · rintro ⟨e, he⟩
      obtain ⟨before, after, rfl, -, hnone, -⟩ := firstMissing_of_setKey he
      exact ⟨e.name, by simp, hnone⟩
    · intro hmissing
      by_contra hno
      rcases hset : t.setKey names with e | u
      · exact hno ⟨e, hset⟩
      · obtain ⟨hall, -⟩ := setKey_ok_iff.mp hset
        obtain ⟨n, hn, hnone⟩ := hmissing
        exact findColumn?_eq_none_iff.mp hnone (hall n hn)
  of_error e u h := by
    rw [hsteps, atOnce_eq_error_iff, herror] at h
    exact ⟨firstMissing_of_setKey h.1, h.2⟩
  of_ok u h := hok u (atOnce_eq_ok_iff.mp (hsteps t ▸ h))
  again u h := by
    rw [hsteps, atOnce_eq_ok_iff]
    exact hagain u (atOnce_eq_ok_iff.mp (hsteps t ▸ h))

/-- **Keys**: a key is refused exactly if some name of it is no column's, for the first such name,
and that leaves the table as it was, step by step though it is looked up and written. A key that is
set is the list as spelled. A key of the whole table also makes the columns that it names not null,
and changes nothing else of the columns; setting it once more changes nothing at all. -/
theorem setsKey (t : TableDraft) (names : List String) :
    SetsKey (writeKey names) t names t.columns ∧
      SetsKey (writeTableKey names) t names (t.columns.map fun c =>
        { c with nullability :=
          if c.key ∈ names.map lowerString then .notNull else c.nullability }) ∧
      writeKey names t = t.atOnce (t.setKey names) ∧
      writeTableKey names t = t.atOnce (t.setTableKey names) := by
  refine ⟨.of_atOnce (writeKey_eq · names) (fun _ _ => Iff.rfl) (fun u h => ?_) (fun u h => ?_),
    .of_atOnce (writeTableKey_eq · names) (fun _ _ => setTableKey_eq_error_iff) (fun u h => ?_)
      (fun u h => ?_), writeKey_eq t names, writeTableKey_eq t names⟩
  · exact (setKey_ok_iff.mp h).2
  · obtain ⟨hall, rfl⟩ := setKey_ok_iff.mp h
    exact setKey_ok_iff.mpr ⟨hall, rfl⟩
  · rw [(setTableKey_ok_iff.mp h).2]
    simp only [← requireValue_eq]
  · obtain ⟨hall, rfl⟩ := setTableKey_ok_iff.mp h
    refine setTableKey_ok_iff.mpr ⟨?_, ?_⟩
    · rw [keys_requireValues]
      exact hall
    · have htwice : ∀ c, requireValue names (requireValue names c) = requireValue names c := by
        intro c
        rw [requireValue_requireValue, requireValue_eq, requireValue_eq, List.map_append]
        simp only [List.mem_append, or_self]
      simp [htwice]

end TableDraft
end TableSchema
