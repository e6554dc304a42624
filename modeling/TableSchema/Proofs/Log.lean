import TableSchema.Log
import Mathlib.Tactic.Lemma

/-!
What the removal of marks does to a message.

A message is put together from parts, and a mark that lies in one part is removed there. Where no
mark can reach from one part into the next, the parts can be looked at one by one: `Cleans` says
what becomes of a part, whatever follows it.
-/

namespace TableSchema.Log

variable {cs cs' ds ds' : List Char} {b b' : Bool}

/-! ### One character -/

lemma removeMarks_mark (cs : List Char) :
    removeMarks ('[' :: '!' :: 'n' :: ']' :: cs) = ((removeMarks cs).1, true) := by
  rw [removeMarks]

lemma removeMarks_cons {c : Char} (h : ∀ ds, c :: cs ≠ '[' :: '!' :: 'n' :: ']' :: ds) :
    removeMarks (c :: cs) = (c :: (removeMarks cs).1, (removeMarks cs).2) := by
  rw [removeMarks]
  rintro ds rfl rfl
  exact h ds rfl

lemma removeMarks_of_ne {c : Char} (h : c ≠ '[') (cs : List Char) :
    removeMarks (c :: cs) = (c :: (removeMarks cs).1, (removeMarks cs).2) :=
  removeMarks_cons fun _ e => h (List.cons.inj e).1

/-! ### Whole messages -/

lemma length_removeMarks_le (cs : List Char) : (removeMarks cs).1.length ≤ cs.length := by
  induction cs using removeMarks.induct with
  | case1 cs ih =>
    rw [removeMarks_mark]
    simp only [List.length_cons]
    omega
  | case2 c cs hno ih =>
    rw [removeMarks_cons fun ds e => by cases e; exact hno ds rfl rfl]
    exact Nat.succ_le_succ ih
  | case3 => exact Nat.le_refl 0

/-- A text with a mark gets shorter. -/
lemma removeMarks_eq_self_iff (cs : List Char) :
    (removeMarks cs).1 = cs ↔ (removeMarks cs).2 = false := by
  induction cs using removeMarks.induct with
  | case1 cs ih =>
    have hlength := length_removeMarks_le cs
    rw [removeMarks_mark]
    refine iff_of_false (fun e => ?_) (by simp)
    have := congrArg List.length e
    simp only [List.length_cons] at this
    omega
  | case2 c cs hno ih =>
    rw [removeMarks_cons fun ds e => by cases e; exact hno ds rfl rfl, ← ih]
    simp
  | case3 => simp [removeMarks]

lemma unmarked_eq_self_iff (s : String) : unmarked s = s ↔ isMarked s = false := by
  rw [isMarked, ← removeMarks_eq_self_iff, ← String.toList_inj, unmarked, String.toList_ofList]

lemma unmarked_append_lineEnd_iff (s : String) :
    unmarked s ++ lineEnd s = s ++ "\n" ↔ isMarked s = false := by
  constructor
  · refine fun h => Bool.eq_false_iff.mpr fun hmarked => ?_
    have hend : lineEnd s = "" := if_pos hmarked
    have hlength := length_removeMarks_le s.toList
    rw [hend, ← String.toList_inj, String.toList_append, String.toList_append, unmarked,
      String.toList_ofList] at h
    have htoo := congrArg List.length h
    rw [List.length_append, List.length_append] at htoo
    have hempty : "".toList.length = 0 := rfl
    have hnewline : "\n".toList.length = 1 := rfl
    omega
  · intro h
    rw [(unmarked_eq_self_iff s).mpr h, lineEnd, h]
    rfl

/-! ### Between the marks -/

def mark : List Char := ['[', '!', 'n', ']']

/-- A text is cut at its marks: `parts` stand between them, and no mark is left in any. -/
structure Cuts (cs : List Char) (parts : List (List Char)) : Prop where
  text_eq : mark.intercalate parts = cs
  ne_nil : parts ≠ []
  noMark : ∀ p ∈ parts, ¬ mark <:+: p

/-- A part is kept: no mark begins in it that the next one would end. -/
lemma removeMarks_part {p rest : List Char} (hp : ¬ mark <:+: p)
    (hrest : ∀ c ∈ rest.head?, c = '[') :
    removeMarks (p ++ rest) = (p ++ (removeMarks rest).1, (removeMarks rest).2) := by
  induction p with
  | nil => rfl
  | cons c p ih =>
    have hnone : ∀ ds, c :: (p ++ rest) ≠ '[' :: '!' :: 'n' :: ']' :: ds := by
      intro ds h
      obtain ⟨rfl, h⟩ := List.cons.inj h
      rcases rest with _ | ⟨d, rest⟩
      · rw [List.append_nil] at h
        exact hp ⟨[], ds, by rw [h]; rfl⟩
      · obtain rfl := hrest d rfl
        -- the bracket that comes next is none of the last three characters of a mark
        rcases p with _ | ⟨c₁, _ | ⟨c₂, _ | ⟨c₃, p⟩⟩⟩ <;> simp at h
        obtain ⟨rfl, rfl, rfl, -⟩ := h
        exact hp ⟨[], p, rfl⟩
    have hp' : ¬ mark <:+: p := fun h => hp (h.trans (List.suffix_cons c p).isInfix)
    rw [List.cons_append, removeMarks_cons hnone, ih hp']
    rfl

lemma Cuts.removeMarks_eq {parts : List (List Char)} (h : Cuts cs parts) :
    removeMarks cs = (parts.flatten, decide (1 < parts.length)) := by
  obtain ⟨rfl, hne, hno⟩ := h
  induction parts with
  | nil => exact absurd rfl hne
  | cons p parts ih =>
    obtain ⟨hp, hparts⟩ := List.forall_mem_cons.mp hno
    cases parts with
    | nil =>
      have hlast : removeMarks (p ++ []) = (p ++ [], false) := removeMarks_part hp (by simp)
      simpa using hlast
    | cons q parts =>
      have hmark : mark ++ mark.intercalate (q :: parts) =
          '[' :: '!' :: 'n' :: ']' :: mark.intercalate (q :: parts) := rfl
      rw [List.intercalate_cons_cons, List.append_assoc, hmark, removeMarks_part hp (by simp),
        removeMarks_mark, ih (by simp) hparts]
      simp

lemma intercalate_cons_head (sep p : List Char) (c : Char) (parts : List (List Char)) :
    sep.intercalate ((c :: p) :: parts) = c :: sep.intercalate (p :: parts) := by
  cases parts with
  | nil => simp
  | cons q parts => rw [List.intercalate_cons_cons, List.intercalate_cons_cons]; rfl

lemma exists_cuts (cs : List Char) : ∃ parts, Cuts cs parts := by
  induction cs using removeMarks.induct with
  | case1 cs ih =>
    obtain ⟨parts, rfl, hne, hno⟩ := ih
    obtain ⟨p, parts, rfl⟩ := List.exists_cons_of_ne_nil hne
    refine ⟨[] :: p :: parts, ?_, by simp, List.forall_mem_cons.mpr ⟨by decide, hno⟩⟩
    rw [List.intercalate_cons_cons]
    rfl
  | case2 c cs hstart ih =>
    obtain ⟨parts, rfl, hne, hno⟩ := ih
    obtain ⟨p, parts, rfl⟩ := List.exists_cons_of_ne_nil hne
    obtain ⟨hp, hparts⟩ := List.forall_mem_cons.mp hno
    refine ⟨(c :: p) :: parts, intercalate_cons_head .., by simp,
      List.forall_mem_cons.mpr ⟨fun h => ?_, hparts⟩⟩
    rcases List.infix_cons_iff.mp h with ⟨ds, h⟩ | h
    · obtain ⟨rfl, rfl⟩ := List.cons.inj h
      cases parts with
      | nil => exact hstart ds rfl (by simp)
      | cons q parts =>
        exact hstart (ds ++ mark ++ mark.intercalate (q :: parts)) rfl (by simp)
    · exact hp h
  | case3 => exact ⟨[[]], rfl, by simp, by simp [mark]⟩

/-! ### Parts of a message -/

/-- Wherever `cs` stands it becomes `ds`, and `b` says whether it has a mark. -/
def Cleans (cs ds : List Char) (b : Bool) : Prop :=
  ∀ rest, removeMarks (cs ++ rest) = (ds ++ (removeMarks rest).1, b || (removeMarks rest).2)

lemma Cleans.removeMarks_eq (h : Cleans cs ds b) : removeMarks cs = (ds, b) := by
  simpa [removeMarks] using h []

lemma Cleans.append (h : Cleans cs ds b) (h' : Cleans cs' ds' b') :
    Cleans (cs ++ cs') (ds ++ ds') (b || b') := by
  intro rest
  rw [List.append_assoc, h, h', List.append_assoc, Bool.or_assoc]

lemma cleans_plain (h : '[' ∉ cs) : Cleans cs cs false := by
  intro rest
  induction cs with
  | nil => simp
  | cons c cs ih =>
    rw [List.mem_cons, not_or] at h
    rw [List.cons_append, removeMarks_of_ne (Ne.symm h.1), ih h.2]
    rfl

lemma Cleans.bracket (h : Cleans cs ds b) (hne : cs ≠ []) (hhead : cs.head? ≠ some '!') :
    Cleans ('[' :: cs) ('[' :: ds) b := by
  intro rest
  obtain ⟨c, cs, rfl⟩ := List.exists_cons_of_ne_nil hne
  have hc : c ≠ '!' := by simpa using hhead
  have hno : ∀ ds, '[' :: (c :: cs ++ rest) ≠ '[' :: '!' :: 'n' :: ']' :: ds := fun ds e =>
    hc (List.cons.inj (List.cons.inj e).2).1
  rw [List.cons_append, removeMarks_cons hno, h]
  rfl

end TableSchema.Log
