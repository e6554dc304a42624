import TableSchema.Sql.Definition
import Mathlib.Data.List.Forall2
import Mathlib.Data.List.Perm.Basic
import Mathlib.Tactic.Lemma

/-!
The places of modifiers.

Some clauses of a column tell of its type: a character set, a collation, and the checks that stand
for `ZEROFILL` and `LONG VARCHAR`. They are gathered wherever they stand, and the other clauses make
the constraints. Main statement: `ColumnSpec.definition_rearranged`.
-/

namespace TableSchema.Sql

open Source (Marker)

/-- A check on nothing but a column with a reserved name: the name in any letter case, qualified or
not, in parentheses or not. -/
def Marks (e : Expr) (m : Marker) : Prop :=
  ∃ parts i, (e = .column (parts ++ [i]) ∨ e = .paren (.column (parts ++ [i]))) ∧
    Text.lowerString i.text = m.name

lemma ofName?_eq_some_iff {name : String} {m : Marker} :
    Marker.ofName? name = some m ↔ Text.lowerString name = m.name := by
  unfold Marker.ofName?
  constructor
  · intro h
    have hname := List.find?_some h
    exact (beq_iff_eq.mp hname).symm
  · intro h
    rw [h]
    cases m <;> rfl

namespace Clause

/-- The clauses that tell of the type. -/
inductive IsModifier : Clause → Prop
  | charset (name : String) : IsModifier (.charset name)
  | collation (name : String) : IsModifier (.collation name)
  | zerofill {e : Expr} (h : Marks e .zerofill) : IsModifier (.check e)
  | longVarchar {e : Expr} (h : Marks e .longVarchar) : IsModifier (.check e)

inductive Makes (r : Renderer) : Clause → Constraint → Prop
  | null (notNull : Bool) : Makes r (.null notNull) (.null ⟨notNull⟩)
  | primaryKey : Makes r .primaryKey .primaryKey
  | unique : Makes r .unique .uniqueKey
  | autoIncrement : Makes r .autoIncrement .autoIncrement
  | comment (e : Expr) : Makes r (.comment e) (.comment (some (r.render e)))
  | default (e : Expr) : Makes r (.default e) (.default ⟨r.render e⟩)
  | serialDefault {e : Expr} (h : Marks e .serialDefault) : Makes r (.check e) .serialDefault

def IsRecognised (r : Renderer) (c : Clause) : Prop := ∃ k, c.Makes r k

variable {r : Renderer} {c : Clause} {e : Expr} {m : Marker} {k : Constraint}

lemma checkedName?_eq_some_iff {name : String} : checkedName? e = some name ↔
    ∃ parts i, (e = .column (parts ++ [i]) ∨ e = .paren (.column (parts ++ [i]))) ∧
      i.text = name := by
  have hlast : ∀ parts : List Ident, parts.getLast?.map Ident.text = some name ↔
      ∃ front i, parts = front ++ [i] ∧ i.text = name := by
    intro parts
    rw [Option.map_eq_some_iff, exists_comm]
    simp [List.getLast?_eq_some_iff]
  unfold checkedName?
  split
  · simp [hlast]
  · simp [hlast]
  · next hcolumn hparen =>
    refine iff_of_false (by simp) ?_
    rintro ⟨parts, i, he | he, -⟩
    · exact hcolumn _ he
    · exact hparen _ he

lemma marker?_check_iff : (check e).marker? = some m ↔ Marks e m := by
  show (checkedName? e).bind Marker.ofName? = some m ↔ _
  simp only [Option.bind_eq_some_iff, checkedName?_eq_some_iff, ofName?_eq_some_iff, Marks]
  constructor
  · rintro ⟨name, ⟨parts, i, he, rfl⟩, hm⟩
    exact ⟨parts, i, he, hm⟩
  · rintro ⟨parts, i, he, hm⟩
    exact ⟨i.text, ⟨parts, i, he, rfl⟩, hm⟩

lemma isModifier_iff : c.IsModifier ↔ c.charset?.isSome ∨ c.collation?.isSome ∨
    c.marker? = some .zerofill ∨ c.marker? = some .longVarchar := by
  constructor
  · rintro (_ | _ | h | h)
    · exact .inl rfl
    · exact .inr (.inl rfl)
    · exact .inr (.inr (.inl (marker?_check_iff.mpr h)))
    · exact .inr (.inr (.inr (marker?_check_iff.mpr h)))
  · intro h
    cases c with
    | charset name => exact .charset name
    | collation name => exact .collation name
    | check e =>
      rcases h with h | h | h | h
      · cases h
      · cases h
      · exact .zerofill (marker?_check_iff.mp h)
      · exact .longVarchar (marker?_check_iff.mp h)
    | _ => simp [charset?, collation?, marker?] at h

instance : DecidablePred IsModifier := fun _ => decidable_of_iff _ isModifier_iff.symm

lemma constraint?_eq_some_iff : c.constraint? r = some k ↔ c.Makes r k := by
  constructor
  · intro h
    cases c with
    | check e =>
      unfold constraint? at h
      split_ifs at h with hserial
      obtain rfl := Option.some.inj h
      exact .serialDefault (marker?_check_iff.mp hserial)
    | tableKey | charset | collation | other => cases h
    | _ =>
      obtain rfl := Option.some.inj h
      constructor
  · rintro (_ | _ | _ | _ | _ | _ | h)
    case serialDefault => exact if_pos (marker?_check_iff.mpr h)
    all_goals rfl

lemma isRecognised_iff : c.IsRecognised r ↔ (c.constraint? r).isSome := by
  rw [Option.isSome_iff_exists]
  exact exists_congr fun _ => constraint?_eq_some_iff.symm

instance : DecidablePred (IsRecognised r) := fun _ => decidable_of_iff _ isRecognised_iff.symm

lemma IsModifier.constraint?_eq_none (h : c.IsModifier) : c.constraint? r = none := by
  cases h with
  | charset | collation => rfl
  | zerofill h => exact if_neg (by simp [marker?_check_iff.mpr h])
  | longVarchar h => exact if_neg (by simp [marker?_check_iff.mpr h])

end Clause

/-! ### Rearranged clauses -/

open Clause

variable {r : Renderer} {cs cs' : List Clause}

/-- Each clause that is recognised makes one constraint, in the order of the clauses. -/
lemma forall₂_makes (r : Renderer) (cs : List Clause) :
    List.Forall₂ (Clause.Makes r) (cs.filter (IsRecognised r ·))
      (cs.filterMap (constraint? r)) := by
  induction cs with
  | nil => exact .nil
  | cons c cs ih =>
    rcases hc : c.constraint? r with _ | k
    · have hnot : ¬ c.IsRecognised r := by simp [isRecognised_iff, hc]
      rwa [List.filter_cons_of_neg (by simpa using hnot), List.filterMap_cons_none hc]
    · have hmakes : c.Makes r k := constraint?_eq_some_iff.mp hc
      rw [List.filter_cons_of_pos (by simpa using ⟨k, hmakes⟩), List.filterMap_cons_some hc]
      exact .cons hmakes ih

/-- The constraints are made by the clauses that are no modifiers. -/
lemma filterMap_constraint?_eq (r : Renderer) (cs : List Clause) :
    cs.filterMap (constraint? r) = (cs.filter (¬ IsModifier ·)).filterMap (constraint? r) := by
  rw [List.filterMap_filter]
  refine List.filterMap_congr fun c _ => ?_
  split_ifs with h
  · rfl
  · exact IsModifier.constraint?_eq_none (by simpa using h)

/-- Where at most one clause says something, it does not matter which one. -/
lemma filterMap_perm_eq {β : Type} {f : Clause → Option β} (h : cs.Perm cs')
    (hone : (cs.filterMap f).length ≤ 1) : cs.filterMap f = cs'.filterMap f := by
  have hperm := h.filterMap f
  rcases hcs : cs.filterMap f with _ | ⟨b, _ | ⟨b', bs⟩⟩
  · rw [hcs] at hperm
    exact hperm.nil_eq
  · rw [hcs] at hperm
    exact (List.perm_singleton.mp hperm.symm).symm
  · simp [hcs] at hone

lemma Modifiers.ofClauses_perm (h : cs.Perm cs') (hcharset : (cs.filterMap charset?).length ≤ 1)
    (hcollation : (cs.filterMap collation?).length ≤ 1) :
    Modifiers.ofClauses cs = Modifiers.ofClauses cs' := by
  unfold Modifiers.ofClauses
  rw [filterMap_perm_eq h hcharset, filterMap_perm_eq h hcollation, h.any_eq, h.any_eq]

/-- **Modifiers may stand anywhere**: a column with at most one character set and at most one
collation has the same definition wherever its modifiers stand, as long as the other clauses keep
their order. Those of them that are recognised make its constraints, one each and in order. However
expressions are rendered, this is so. -/
theorem ColumnSpec.definition_rearranged (r : Renderer) (name : String) (t : TypeSpec)
    (h : cs.Perm cs')
    (hothers : cs.filter (¬ IsModifier ·) = cs'.filter (¬ IsModifier ·))
    (hcharset : (cs.filterMap charset?).length ≤ 1)
    (hcollation : (cs.filterMap collation?).length ≤ 1) :
    ∃ d, definition? r { name, type := some t, clauses := cs } = some d ∧
      definition? r { name, type := some t, clauses := cs' } = some d ∧
      List.Forall₂ (Clause.Makes r) ((cs.filter (¬ IsModifier ·)).filter (IsRecognised r ·))
        d.constraints := by
  have hmodifiers : Modifiers.ofClauses cs = Modifiers.ofClauses cs' :=
    Modifiers.ofClauses_perm h hcharset hcollation
  have hconstraints : cs.filterMap (constraint? r) = cs'.filterMap (constraint? r) := by
    rw [filterMap_constraint?_eq, hothers, ← filterMap_constraint?_eq]
  refine ⟨⟨t.toColumnType r (.ofClauses cs), cs.filterMap (constraint? r)⟩, rfl, ?_, ?_⟩
  · rw [hmodifiers, hconstraints]
    rfl
  · rw [filterMap_constraint?_eq]
    exact forall₂_makes r _

def checkOn (name : String) : Clause := .check (.column [{ text := name }])

def varchar : TypeSpec := { name := .known "VARCHAR" }

/-- Modifiers of all kinds among other clauses. -/
def scattered : List Clause :=
  [.charset "latin1", .null true, checkOn "CDC_DDL_ZEROFILL", .default (.string "x"),
    checkOn "cdc_ddl_serial_default_value", .collation "latin1_bin", .other,
    checkOn "cdc_ddl_long_varchar", .comment (.string "y")]

/-- The same clauses with the modifiers after the others. -/
def gathered : List Clause :=
  [.null true, .default (.string "x"), checkOn "cdc_ddl_serial_default_value", .other,
    .comment (.string "y"), checkOn "cdc_ddl_long_varchar", .collation "latin1_bin",
    checkOn "CDC_DDL_ZEROFILL", .charset "latin1"]

lemma scattered_perm : scattered.Perm gathered := by
  let others : Clause → Bool := (¬ IsModifier ·)
  have hgathered : scattered.filter others ++ (scattered.filter (!others ·)).reverse = gathered :=
    rfl
  rw [← hgathered]
  exact (List.filter_append_perm others scattered).symm.trans
    ((List.reverse_perm _).symm.append_left _)

theorem ColumnSpec.definition_rearranged_gathered :
    scattered.Perm gathered ∧
      scattered.filter (¬ IsModifier ·) = gathered.filter (¬ IsModifier ·) ∧
      (scattered.filterMap charset?).length ≤ 1 ∧ (scattered.filterMap collation?).length ≤ 1 ∧
      ∃ d, definition? .standard { name := "c", type := varchar, clauses := scattered } = some d ∧
        definition? .standard { name := "c", type := varchar, clauses := gathered } = some d ∧
        d.constraints =
          [.null ⟨true⟩, .default ⟨"'x'"⟩, .serialDefault, .comment (some "'y'")] := by
  have hothers : scattered.filter (¬ IsModifier ·) = gathered.filter (¬ IsModifier ·) := rfl
  have hcharset : (scattered.filterMap charset?).length ≤ 1 := Nat.le_refl 1
  have hcollation : (scattered.filterMap collation?).length ≤ 1 := Nat.le_refl 1
  obtain ⟨d, hd, hd', -⟩ := ColumnSpec.definition_rearranged .standard "c" varchar scattered_perm
    hothers hcharset hcollation
  refine ⟨scattered_perm, hothers, hcharset, hcollation, d, hd, hd', ?_⟩
  rw [← Option.some.inj hd]
  rfl

end TableSchema.Sql
