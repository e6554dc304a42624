import TableSchema.Table
import Mathlib.Data.List.Nodup
import Mathlib.Tactic.Lemma
import Mathlib.Tactic.SplitIfs

/-!
What a table holds after a column is added, and which keys it accepts.

Columns go by the lower case of their names. Adding a column settles what stands under its name,
whatever stood there before, and leaves all other columns and the order of the names alone. A key
is accepted exactly when each of its names is the name of a column.
-/

namespace TableSchema

open Text (lowerString)

def Column.key (c : Column) : String := lowerString c.name

@[simp] lemma sameName_iff {a b : String} :
    sameName a b = true ↔ lowerString a = lowerString b := by simp [sameName]

lemma findColumn?_eq_none_iff {cs : List Column} {name : String} :
    findColumn? cs name = none ↔ lowerString name ∉ cs.map Column.key := by
  simp only [findColumn?, List.find?_eq_none, sameName_iff, List.mem_map, not_exists, not_and]
  rfl

/-- The columns stand at the positions after `n`, in order. -/
def Numbered (n : Nat) : List Column → Prop
  | [] => True
  | c :: cs => c.position = n + 1 ∧ Numbered (n + 1) cs

lemma Numbered.getElem {n : Nat} {cs : List Column} (h : Numbered n cs) (i : Nat)
    (hi : i < cs.length) : cs[i].position = n + i + 1 := by
  induction cs generalizing n i with
  | nil => simp at hi
  | cons c cs ih =>
    cases i with
    | zero => simpa using h.1
    | succ i =>
      have := ih h.2 i (by simpa using hi)
      rw [List.getElem_cons_succ, this]
      omega

lemma Numbered.map {f : Column → Column} (hf : ∀ c, (f c).position = c.position) {n : Nat}
    {cs : List Column} (h : Numbered n cs) : Numbered n (cs.map f) := by
  induction cs generalizing n with
  | nil => trivial
  | cons c cs ih => exact ⟨(hf c).trans h.1, ih h.2⟩

namespace TableDraft

/-! ### Placing a column -/

lemma placeColumn_cons_of_eq {c x : Column} (h : x.key = c.key) (n : Nat) (cs : List Column) :
    placeColumn c n (x :: cs) = { c with position := n + 1 } :: cs :=
  if_pos (sameName_iff.mpr h)

lemma placeColumn_cons_of_ne {c x : Column} (h : x.key ≠ c.key) (n : Nat) (cs : List Column) :
    placeColumn c n (x :: cs) = x :: placeColumn c (n + 1) cs :=
  if_neg fun e => h (sameName_iff.mp e)

lemma keys_placeColumn (c : Column) (n : Nat) (cs : List Column) :
    (placeColumn c n cs).map Column.key =
      if c.key ∈ cs.map Column.key then cs.map Column.key else cs.map Column.key ++ [c.key] := by
  induction cs generalizing n with
  | nil => rfl
  | cons x cs ih =>
    by_cases h : x.key = c.key
    · have hc : ({ c with position := n + 1 } : Column).key = c.key := rfl
      rw [placeColumn_cons_of_eq h]
      simp [h, hc]
    · rw [placeColumn_cons_of_ne h, List.map_cons, ih]
      simp only [List.map_cons, List.mem_cons, Ne.symm h, false_or]
      split_ifs <;> rfl

lemma numbered_placeColumn (c : Column) {n : Nat} {cs : List Column} (h : Numbered n cs) :
    Numbered n (placeColumn c n cs) := by
  induction cs generalizing n with
  | nil => exact ⟨rfl, trivial⟩
  | cons x cs ih =>
    by_cases hx : x.key = c.key
    · rw [placeColumn_cons_of_eq hx]
      exact ⟨rfl, h.2⟩
    · rw [placeColumn_cons_of_ne hx]
      exact ⟨h.1, ih h.2⟩

/-- A column that was placed gives way to the next one of its name, and leaves no trace. -/
lemma placeColumn_placeColumn {c d : Column} (h : c.key = d.key) (n : Nat) (cs : List Column) :
    placeColumn d n (placeColumn c n cs) = placeColumn d n cs := by
  have hc : ∀ m : Nat, ({ c with position := m + 1 } : Column).key = d.key := fun _ => h
  induction cs generalizing n with
  | nil => exact placeColumn_cons_of_eq (hc n) n []
  | cons x cs ih =>
    by_cases hx : x.key = c.key
    · rw [placeColumn_cons_of_eq hx, placeColumn_cons_of_eq (hx.trans h)]
      exact placeColumn_cons_of_eq (hc n) n cs
    · have hd : x.key ≠ d.key := fun e => hx (e.trans h.symm)
      rw [placeColumn_cons_of_ne hx, placeColumn_cons_of_ne hd, placeColumn_cons_of_ne hd, ih]

/-- A column is placed where the first one of its name stands, or at the end. All others stay. -/
lemma placeColumn_split (c : Column) (n : Nat) (cs : List Column) :
    ∃ before after, placeColumn c n cs =
        before ++ { c with position := n + before.length + 1 } :: after ∧
      (∀ x ∈ before, x.key ≠ c.key) ∧
      (cs = before ∧ after = [] ∨ ∃ x, x.key = c.key ∧ cs = before ++ x :: after) := by
  induction cs generalizing n with
  | nil => exact ⟨[], [], by simp [placeColumn], by simp, .inl ⟨rfl, rfl⟩⟩
  | cons y cs ih =>
    by_cases hy : y.key = c.key
    · exact ⟨[], cs, by simp [placeColumn_cons_of_eq hy], by simp, .inr ⟨y, hy, rfl⟩⟩
    · obtain ⟨before, after, hplace, hbefore, hrest⟩ := ih (n + 1)
      have hposition : (((n + 1 : Nat) : Int) + before.length + 1) =
          n + (y :: before).length + 1 := by
        simp only [List.length_cons]
        omega
      rw [hposition] at hplace
      refine ⟨y :: before, after, ?_, List.forall_mem_cons.mpr ⟨hy, hbefore⟩, ?_⟩
      · rw [placeColumn_cons_of_ne hy, hplace]
        rfl
      · rcases hrest with ⟨rfl, rfl⟩ | ⟨x, hx, rfl⟩
        · exact .inl ⟨rfl, rfl⟩
        · exact .inr ⟨x, hx, rfl⟩

/-- Where names do not repeat, the columns are the one placed and those of other names. -/
lemma mem_placeColumn {c x : Column} {n : Nat} {cs : List Column}
    (hn : (cs.map Column.key).Nodup) (h : x ∈ placeColumn c n cs) :
    x = { c with position := x.position } ∨ x ∈ cs ∧ x.key ≠ c.key := by
  induction cs generalizing n with
  | nil =>
    obtain rfl : x = { c with position := n + 1 } := by simpa [placeColumn] using h
    exact .inl rfl
  | cons y cs ih =>
    rw [List.map_cons, List.nodup_cons] at hn
    by_cases hy : y.key = c.key
    · rw [placeColumn_cons_of_eq hy] at h
      rcases List.mem_cons.mp h with rfl | hx
      · exact .inl rfl
      · refine .inr ⟨List.mem_cons_of_mem _ hx, fun e => hn.1 ?_⟩
        rw [hy, ← e]
        exact List.mem_map_of_mem hx
    · rw [placeColumn_cons_of_ne hy] at h
      rcases List.mem_cons.mp h with rfl | hx
      · exact .inr ⟨List.mem_cons_self, hy⟩
      · rcases ih hn.2 hx with h1 | ⟨h1, h2⟩
        · exact .inl h1
        · exact .inr ⟨List.mem_cons_of_mem _ h1, h2⟩

/-! ### Keys -/

lemma setKey_ok_iff {t t' : TableDraft} {names : List String} :
    t.setKey names = .ok t' ↔
      (∀ n ∈ names, lowerString n ∈ t.columns.map Column.key) ∧
        t' = { t with primaryKey := names } := by
  have hfind : (names.find? fun n => (t.find? n).isNone) = none ↔
      ∀ n ∈ names, lowerString n ∈ t.columns.map Column.key := by
    simp only [List.find?_eq_none, Option.isNone_iff_eq_none, find?, findColumn?_eq_none_iff,
      not_not]
  rw [← hfind]
  unfold setKey
  split
  · next name hname => simp [hname]
  · next hnone => simp [hnone, eq_comm]

lemma setKey_error {t : TableDraft} {names : List String} {e : MissingKeyColumn}
    (h : t.setKey names = .error e) :
    e.table = t.id ∧ e.name ∈ names ∧ lowerString e.name ∉ t.columns.map Column.key := by
  unfold setKey at h
  split at h
  · next name hname =>
    cases h
    have hnone := List.find?_some hname
    rw [Option.isNone_iff_eq_none, find?, findColumn?_eq_none_iff] at hnone
    exact ⟨rfl, List.mem_of_find?_eq_some hname, hnone⟩
  · cases h

lemma setKey_add (t : TableDraft) (c : Column) :
    (t.add c).setKey [c.name] = .ok { t.add c with primaryKey := [c.name] } := by
  rw [setKey_ok_iff]
  refine ⟨fun n hn => ?_, rfl⟩
  obtain rfl : n = c.name := by simpa using hn
  have hk : lowerString c.name = c.key := rfl
  rw [add, keys_placeColumn, hk]
  split_ifs with h
  · exact h
  · simp

end TableDraft
end TableSchema
