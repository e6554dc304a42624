import TableSchema.Source.Rewrite
import Mathlib.Tactic.Lemma
import Mathlib.Tactic.SplitIfs

/-!
Strings inside a statement.

A text without backslashes is written as a string by doubling its quotes. Such a string is one
quoted region of a statement, whatever the text holds, so rewriting leaves it alone and works on the
plain text before and after it as if each stood by itself.
-/

namespace TableSchema.Source

/-- A text with each single quote written twice. -/
def doubled (v : List Char) : List Char := v.flatMap fun c => if c = '\'' then [c, c] else [c]

/-- A text written as a string. -/
def literal (v : List Char) : List Char := '\'' :: (doubled v ++ ['\''])

variable {v p rest cs : List Char} {q c : Char}

lemma doubled_cons (c : Char) (v : List Char) :
    doubled (c :: v) = (if c = '\'' then [c, c] else [c]) ++ doubled v := rfl

/-! ### The end of a region -/

def Escapes (q c : Char) : Prop := c = '\\' ∧ q ≠ '\x60'

lemma closing?_stop (h : cs.head? ≠ some q) : closing? q (q :: cs) = some 1 := by
  cases cs with
  | nil => simp [closing?]
  | cons d cs =>
    have hd : d ≠ q := by simpa using h
    simp [closing?, hd]

lemma closing?_double (cs : List Char) :
    closing? q (q :: q :: cs) = some ((closing? q cs).elim 1 (· + 2)) := by
  simp [closing?]

lemma closing?_escape {d : Char} (hq : c ≠ q) (he : Escapes q c) (cs : List Char) :
    closing? q (c :: d :: cs) = if d = '\n' then none else (closing? q cs).map (· + 2) := by
  have he : c = '\\' ∧ q ≠ '\x60' := he
  rw [closing?, if_neg hq, if_pos he]

lemma closing?_escape_nil (hq : c ≠ q) (he : Escapes q c) : closing? q [c] = none := by
  have he : c = '\\' ∧ q ≠ '\x60' := he
  rw [closing?, if_neg hq, if_pos he]

lemma closing?_step (hq : c ≠ q) (he : ¬ Escapes q c) (cs : List Char) :
    closing? q (c :: cs) = (closing? q cs).map (· + 1) := by
  have he : ¬ (c = '\\' ∧ q ≠ '\x60') := he
  rw [closing?.eq_def]
  simp [hq, he]

/-! ### Regions -/

/-- The quote after a doubled text closes its region. -/
lemma closing?_doubled (hb : '\\' ∉ v) (hr : rest.head? ≠ some '\'') :
    closing? '\'' (doubled v ++ '\'' :: rest) = some ((doubled v).length + 1) := by
  induction v with
  | nil => exact closing?_stop hr
  | cons c v ih =>
    have hc : c ≠ '\\' := fun e => hb (e ▸ List.mem_cons_self)
    have ih := ih fun h => hb (List.mem_cons_of_mem _ h)
    by_cases h : c = '\''
    · subst h
      simp [doubled_cons, closing?, ih]
    · have hd : doubled (c :: v) = c :: doubled v := by simp [doubled_cons, h]
      rw [hd, List.cons_append, closing?_step h fun he => hc he.1, ih]
      rfl

lemma segmentsFrom_region (done cs : List Char) (c : Char) (rest : List Char) :
    segmentsFrom done (cs.length + 1) (cs ++ c :: rest) =
      .quoted (done.reverse ++ cs ++ [c]) :: segments rest := by
  induction cs generalizing done with
  | nil => simp [segmentsFrom, segments]
  | cons d cs ih =>
    have hstep : segmentsFrom done (cs.length + 2) (d :: (cs ++ c :: rest)) =
        segmentsFrom (d :: done) (cs.length + 1) (cs ++ c :: rest) := rfl
    rw [List.length_cons, List.cons_append, hstep, ih]
    simp

lemma segments_literal (hb : '\\' ∉ v) (hr : rest.head? ≠ some '\'') :
    segments (literal v ++ rest) = .quoted (literal v) :: segments rest := by
  have happend : literal v ++ rest = '\'' :: (doubled v ++ '\'' :: rest) := by simp [literal]
  have hopen : segments (literal v ++ rest) =
      segmentsFrom ['\''] ((doubled v).length + 1) (doubled v ++ '\'' :: rest) := by
    rw [happend, segments, segmentsFrom, if_pos (by rfl), closing?_doubled hb hr]
  rw [hopen, segmentsFrom_region]
  rfl

lemma segments_plain (hp : p.any Text.isQuote = false) :
    segments (p ++ rest) = p.foldr consPlain (segments rest) := by
  induction p with
  | nil => rfl
  | cons c p ih =>
    rw [List.any_cons, Bool.or_eq_false_iff] at hp
    rw [List.foldr_cons, ← ih hp.2]
    simp [segments, segmentsFrom, hp.1]

/-! ### Rewriting -/

lemma foldr_consPlain {ss : List Segment} (hs : ∀ cs ss', ss ≠ .plain cs :: ss') (hp : p ≠ []) :
    p.foldr consPlain ss = .plain p :: ss := by
  induction p with
  | nil => exact absurd rfl hp
  | cons c p ih =>
    rcases p with _ | ⟨d, p⟩
    · rcases ss with _ | ⟨cs | cs, ss⟩
      · rfl
      · exact absurd rfl (hs cs ss)
      · rfl
    · rw [List.foldr_cons, ih (by simp)]
      rfl

lemma flatMap_foldr_consPlain {ss : List Segment} (hs : ∀ cs ss', ss ≠ .plain cs :: ss') :
    (p.foldr consPlain ss).flatMap Segment.rewrite =
      rewritePlain p ++ ss.flatMap Segment.rewrite := by
  by_cases hp : p = []
  · subst hp
    rfl
  · rw [foldr_consPlain hs hp]
    rfl

lemma rewrite_plain (hp : p.any Text.isQuote = false) : rewrite p = rewritePlain p := by
  have h : segments (p ++ []) = p.foldr consPlain [] := segments_plain hp
  rw [List.append_nil] at h
  rw [rewrite, h, flatMap_foldr_consPlain (by simp)]
  simp

/-- A string parts what is before it from what is after it. -/
lemma rewrite_append_literal (hp : p.any Text.isQuote = false) (hb : '\\' ∉ v)
    (hr : rest.head? ≠ some '\'') :
    rewrite (p ++ literal v ++ rest) = rewritePlain p ++ literal v ++ rewrite rest := by
  rw [List.append_assoc, rewrite, segments_plain hp, segments_literal hb hr,
    flatMap_foldr_consPlain (by simp), List.append_assoc]
  rfl

end TableSchema.Source
