import TableSchema.Proofs.Source.Literal
import Mathlib.Data.List.Basic

/-!
Regions of a text and what follows it.

Where a text leaves no region open, the regions of what follows do not depend on it: its segments
and those of the text after it stand side by side. A text that leaves a region open turns the next
quote of its kind into the end of that region. See `partsSegments_or`.
-/

namespace TableSchema.Source

open Text

variable {q c : Char} {cs ds body rest : List Char} {xs ys ss : List Segment} {n : Nat}

/-! ### Segments side by side -/

/-- Segments one after the other, where two plain ones that meet become one. -/
def glue : List Segment → List Segment → List Segment
  | [], ys => ys
  | [.plain p], .plain p' :: ys => .plain (p ++ p') :: ys
  | s :: xs, ys => s :: glue xs ys

lemma glue_quoted (cs : List Char) (xs ys : List Segment) :
    glue (.quoted cs :: xs) ys = .quoted cs :: glue xs ys := by
  cases xs <;> rfl

lemma glue_cons_cons (s t : Segment) (xs ys : List Segment) :
    glue (s :: t :: xs) ys = s :: glue (t :: xs) ys := by
  cases s <;> rfl

lemma glue_consPlain (c : Char) (xs ys : List Segment) :
    glue (consPlain c xs) ys = consPlain c (glue xs ys) := by
  rcases xs with _ | ⟨p | p, _ | ⟨s, xs⟩⟩ <;> rcases ys with _ | ⟨p' | p', ys⟩ <;> rfl

lemma glue_concat (xs ys : List Segment) (p p' : List Char) :
    glue (xs ++ [.plain p]) (.plain p' :: ys) = xs ++ .plain (p ++ p') :: ys := by
  induction xs with
  | nil => rfl
  | cons s xs ih =>
    obtain ⟨t, rest, hrest⟩ : ∃ t rest, xs ++ [Segment.plain p] = t :: rest :=
      List.exists_cons_of_ne_nil (by simp)
    rw [hrest] at ih
    rw [List.cons_append, hrest, glue_cons_cons, ih, List.cons_append]

/-- A segment holds no quote that stands by itself. -/
def Segment.Closed : Segment → Prop
  | plain cs => cs.any isQuote = false
  | quoted _ => True

instance : (s : Segment) → Decidable s.Closed
  | .plain cs => inferInstanceAs (Decidable (cs.any isQuote = false))
  | .quoted _ => inferInstanceAs (Decidable True)

/-- All quotes of a text stand in regions. -/
def Closed (cs : List Char) : Prop := ∀ s ∈ segments cs, s.Closed

instance (cs : List Char) : Decidable (Closed cs) :=
  inferInstanceAs (Decidable (∀ s ∈ segments cs, s.Closed))

/-! ### The segments of a text -/

lemma segments_cons (hc : isQuote c = false) (cs : List Char) :
    segments (c :: cs) = consPlain c (segments cs) := by
  simp [segments, segmentsFrom, hc]

lemma segments_cons_of_none (h : closing? c cs = none) :
    segments (c :: cs) = consPlain c (segments cs) := by
  by_cases hc : isQuote c = true
  · simp [segments, segmentsFrom, hc, h]
  · simp [segments, segmentsFrom, hc]

/-! ### The end of a region -/

/-- A region ends in its quote. -/
lemma closing?_eq_some (h : closing? q cs = some n) :
    ∃ body rest, cs = body ++ q :: rest ∧ n = body.length + 1 := by
  have hadd : ∀ {ds : List Char} {m : Nat} (front : List Char),
      (∃ body rest, ds = body ++ q :: rest ∧ m = body.length + 1) →
      ∃ body rest, front ++ ds = body ++ q :: rest ∧ m + front.length = body.length + 1 := by
    rintro _ _ front ⟨body, rest, rfl, rfl⟩
    exact ⟨front ++ body, rest, by simp, by simp; omega⟩
  induction cs using closing?.induct q generalizing n with
  | case1 => cases h
  | case2 =>
    rw [closing?_stop (by simp)] at h
    exact ⟨[], [], rfl, (Option.some.inj h).symm⟩
  | case3 ds ih =>
    rw [closing?_double] at h
    obtain rfl := Option.some.inj h
    rcases hds : closing? q ds with _ | m
    · exact ⟨[], q :: ds, rfl, rfl⟩
    · exact hadd [q, q] (ih hds)
  | case4 d ds hd =>
    rw [closing?_stop (by simpa using hd)] at h
    exact ⟨[], d :: ds, rfl, (Option.some.inj h).symm⟩
  | case5 c hq he =>
    rw [closing?_escape_nil hq he] at h
    cases h
  | case6 c hq he ds =>
    rw [closing?_escape hq he, if_pos rfl] at h
    cases h
  | case7 c hq he d ds hd ih =>
    rw [closing?_escape hq he, if_neg hd] at h
    obtain ⟨m, hm, rfl⟩ := Option.map_eq_some_iff.mp h
    exact hadd [c, d] (ih hm)
  | case8 c ds hq he ih =>
    rw [closing?_step hq he] at h
    obtain ⟨m, hm, rfl⟩ := Option.map_eq_some_iff.mp h
    exact hadd [c] (ih hm)

lemma segments_region (hq : isQuote q = true)
    (h : closing? q (body ++ q :: rest) = some (body.length + 1)) :
    segments (q :: (body ++ q :: rest)) = .quoted (q :: (body ++ [q])) :: segments rest := by
  have hopen : segments (q :: (body ++ q :: rest)) =
      segmentsFrom [q] (body.length + 1) (body ++ q :: rest) := by
    rw [segments, segmentsFrom, if_pos hq, h]
  rw [hopen, segmentsFrom_region]
  rfl

/-- Induction along the segments of a text: at a plain character, at a quote that nothing closes and
at a region. -/
@[elab_as_elim]
lemma segments_induction {motive : List Char → Prop} (nil : motive [])
    (plain : ∀ c cs, isQuote c = false → motive cs → motive (c :: cs))
    (stray : ∀ q cs, isQuote q = true → closing? q cs = none → motive cs → motive (q :: cs))
    (region : ∀ q body rest, isQuote q = true →
      closing? q (body ++ q :: rest) = some (body.length + 1) → motive rest →
        motive (q :: (body ++ q :: rest)))
    (cs : List Char) : motive cs := by
  induction hn : cs.length using Nat.strongRecOn generalizing cs with
  | ind n ih =>
    subst hn
    cases cs with
    | nil => exact nil
    | cons c cs =>
      have ihcs := ih cs.length (by simp) cs rfl
      by_cases hc : isQuote c = true
      · rcases hclosing : closing? c cs with _ | n
        · exact stray c cs hc hclosing ihcs
        · obtain ⟨body, rest, rfl, rfl⟩ := closing?_eq_some hclosing
          exact region c body rest hc hclosing (ih rest.length (by simp; omega) rest rfl)
      · exact plain c cs (by simpa using hc) ihcs

/-! ### After a closed text -/

lemma of_consPlain (h : ∀ s ∈ consPlain c xs, s.Closed) :
    isQuote c = false ∧ ∀ s ∈ xs, s.Closed := by
  rcases xs with _ | ⟨p | p, xs⟩
  · have hc : [c].any isQuote = false := h (.plain [c]) (by simp [consPlain])
    exact ⟨by simpa using hc, by simp⟩
  · have hc : (c :: p).any isQuote = false := h (.plain (c :: p)) (by simp [consPlain])
    rw [List.any_cons, Bool.or_eq_false_iff] at hc
    refine ⟨hc.1, fun s hs => ?_⟩
    rcases List.mem_cons.mp hs with rfl | hs
    · exact hc.2
    · exact h s (List.mem_cons_of_mem _ hs)
  · have hc : [c].any isQuote = false := h (.plain [c]) (by simp [consPlain])
    exact ⟨by simpa using hc, fun s hs => h s (List.mem_cons_of_mem _ hs)⟩

lemma not_closed_quote (hq : isQuote q = true) (h : closing? q cs = none) : ¬ Closed (q :: cs) := by
  intro hclosed
  unfold Closed at hclosed
  rw [segments_cons_of_none h] at hclosed
  rw [(of_consPlain hclosed).1] at hq
  cases hq

lemma Closed.of_cons (h : Closed (c :: cs)) (hc : isQuote c = false) : Closed cs := by
  unfold Closed at h
  rw [segments_cons hc] at h
  exact (of_consPlain h).2

lemma Closed.of_region (hq : isQuote q = true)
    (hclosing : closing? q (body ++ q :: rest) = some (body.length + 1))
    (h : Closed (q :: (body ++ q :: rest))) : Closed rest := by
  unfold Closed at h
  rw [segments_region hq hclosing] at h
  exact fun s hs => h s (List.mem_cons_of_mem _ hs)

/-- A region keeps its end where it is closed for good. -/
lemma closing?_append (hq : isQuote q = true) (hds : ds.head?.any isQuote = false)
    (h : closing? q cs = some n) (hclosed : Closed (cs.drop n)) :
    closing? q (cs ++ ds) = some n := by
  have hhead : ds.head? ≠ some q := fun heq => by simp [heq, hq] at hds
  induction cs using closing?.induct q generalizing n with
  | case1 => cases h
  | case2 =>
    rw [closing?_stop (by simp)] at h
    rw [← h]
    exact closing?_stop hhead
  | case3 cs ih =>
    rw [closing?_double] at h
    obtain rfl := Option.some.inj h
    rw [List.cons_append, List.cons_append, closing?_double]
    rcases hcs : closing? q cs with _ | m
    · rw [hcs] at hclosed
      exact absurd hclosed (not_closed_quote hq hcs)
    · rw [hcs] at hclosed
      rw [ih hcs hclosed]
  | case4 d cs hd =>
    rw [closing?_stop (by simpa using hd)] at h
    rw [← h]
    exact closing?_stop (by simpa using hd)
  | case5 c hc he =>
    rw [closing?_escape_nil hc he] at h
    cases h
  | case6 c hc he cs =>
    rw [closing?_escape hc he, if_pos rfl] at h
    cases h
  | case7 c hc he d cs hd ih =>
    rw [closing?_escape hc he, if_neg hd] at h
    obtain ⟨m, hm, rfl⟩ := Option.map_eq_some_iff.mp h
    rw [List.cons_append, List.cons_append, closing?_escape hc he, if_neg hd, ih hm hclosed]
    rfl
  | case8 c cs hc he ih =>
    rw [closing?_step hc he] at h
    obtain ⟨m, hm, rfl⟩ := Option.map_eq_some_iff.mp h
    rw [List.cons_append, closing?_step hc he, ih hm hclosed]
    rfl

/-- **After a closed text**: what begins with no quote has the regions that it has alone. -/
lemma segments_append_of_closed (hcs : Closed cs) (hds : ds.head?.any isQuote = false) :
    segments (cs ++ ds) = glue (segments cs) (segments ds) := by
  induction cs using segments_induction with
  | nil => rfl
  | plain c cs hc ih =>
    rw [segments_cons hc, List.cons_append, segments_cons hc, glue_consPlain, ih (hcs.of_cons hc)]
  | stray q cs hq hnone => exact absurd hcs (not_closed_quote hq hnone)
  | region q body rest hq hclosing ih =>
    have hrest := hcs.of_region hq hclosing
    have happend := closing?_append hq hds hclosing (by simpa using hrest)
    rw [List.append_assoc, List.cons_append] at happend
    rw [segments_region hq hclosing, List.cons_append, List.append_assoc, List.cons_append,
      segments_region hq happend, glue_quoted, ih hrest]

/-! ### After a text that leaves no region open -/

/-- A text leaves no region open: a quote put after it ends none. -/
def AtRest (cs : List Char) : Prop :=
  ∀ q, isQuote q = true → ∃ p, (segments (cs ++ [q])).getLast? = some (.plain p)

/-- A region that a text leaves open ends in the next quote of its kind; another one goes by the
text alone. -/
lemma closing?_append_or (hq : cs.getLast? ≠ some q) (hb : cs.getLast? ≠ some '\\') :
    (∀ ds, ds.head? ≠ some q → closing? q (cs ++ q :: ds) = some (cs.length + 1)) ∨
      ∀ ds, closing? q (cs ++ ds) = closing? q cs := by
  have htail : ∀ (front : List Char) {x : Char} {cs : List Char},
      (front ++ cs).getLast? ≠ some x → cs.getLast? ≠ some x := by
    intro front x cs h hcs
    rw [List.getLast?_append, hcs] at h
    exact h rfl
  induction cs using closing?.induct q with
  | case1 => exact .inl fun ds hds => closing?_stop hds
  | case2 => exact absurd rfl hq
  | case3 cs ih =>
    rcases ih (htail [q, q] hq) (htail [q, q] hb) with h | h
    · refine .inl fun ds hds => ?_
      rw [List.cons_append, List.cons_append, closing?_double, h ds hds]
      rfl
    · refine .inr fun ds => ?_
      rw [List.cons_append, List.cons_append, closing?_double, closing?_double, h ds]
  | case4 d cs hd =>
    refine .inr fun ds => ?_
    rw [closing?_stop (by simpa using hd)]
    exact closing?_stop (by simpa using hd)
  | case5 c hc he => exact absurd (congrArg some he.1) hb
  | case6 c hc he cs =>
    refine .inr fun ds => ?_
    rw [List.cons_append, List.cons_append, closing?_escape hc he, closing?_escape hc he,
      if_pos rfl, if_pos rfl]
  | case7 c hc he d cs hd ih =>
    rcases ih (htail [c, d] hq) (htail [c, d] hb) with h | h
    · refine .inl fun ds hds => ?_
      rw [List.cons_append, List.cons_append, closing?_escape hc he, if_neg hd, h ds hds]
      rfl
    · refine .inr fun ds => ?_
      rw [List.cons_append, List.cons_append, closing?_escape hc he, closing?_escape hc he,
        if_neg hd, if_neg hd, h ds]
  | case8 c cs hc he ih =>
    rcases ih (htail [c] hq) (htail [c] hb) with h | h
    · refine .inl fun ds hds => ?_
      rw [List.cons_append, closing?_step hc he, h ds hds]
      rfl
    · refine .inr fun ds => ?_
      rw [List.cons_append, closing?_step hc he, closing?_step hc he, h ds]

lemma consPlain_append_quoted (c : Char) (ss ys : List Segment) (region : List Char) :
    ∃ ss', consPlain c (ss ++ .quoted region :: ys) = ss' ++ .quoted region :: ys := by
  rcases ss with _ | ⟨p | p, ss⟩
  · exact ⟨[.plain [c]], rfl⟩
  · exact ⟨.plain (c :: p) :: ss, rfl⟩
  · exact ⟨.plain [c] :: .quoted p :: ss, rfl⟩

/-- A text is followed by what has the regions that it has alone. -/
def PartsSegments (cs : List Char) : Prop :=
  ∀ ds, segments (cs ++ ds) = glue (segments cs) (segments ds)

/-- A text leaves a region open, which a quote that follows ends. -/
def Waits (cs : List Char) : Prop :=
  ∃ q, isQuote q = true ∧ ∀ ds, ds.head? ≠ some q →
    ∃ ss region, segments (cs ++ q :: ds) = ss ++ .quoted region :: segments ds

lemma partsSegments_or_cons
    (hc : ∀ ds, segments (c :: (cs ++ ds)) = consPlain c (segments (cs ++ ds)))
    (h : PartsSegments cs ∨ Waits cs) : PartsSegments (c :: cs) ∨ Waits (c :: cs) := by
  rcases h with h | ⟨q, hq, h⟩
  · refine .inl fun ds => ?_
    have hnil := hc []
    rw [List.append_nil] at hnil
    rw [List.cons_append, hc, h, hnil, glue_consPlain]
  · refine .inr ⟨q, hq, fun ds hds => ?_⟩
    obtain ⟨ss, region, hss⟩ := h ds hds
    obtain ⟨ss', hss'⟩ := consPlain_append_quoted c ss (segments ds) region
    exact ⟨ss', region, by rw [List.cons_append, hc, hss, hss']⟩

/-- **After any text** that ends neither in a quote nor in a backslash: either what follows has the
regions that it has alone, or a quote that follows ends a region that was left open. -/
lemma partsSegments_or (hq : cs.getLast?.any isQuote = false) (hb : cs.getLast? ≠ some '\\') :
    PartsSegments cs ∨ Waits cs := by
  have htail : ∀ (front : List Char) {rest : List Char},
      (front ++ rest).getLast?.any isQuote = false → (front ++ rest).getLast? ≠ some '\\' →
        rest.getLast?.any isQuote = false ∧ rest.getLast? ≠ some '\\' := by
    intro front rest hq hb
    rw [List.getLast?_append] at hq hb
    rcases hrest : rest.getLast? with _ | d
    · simp
    · rw [hrest] at hq hb
      exact ⟨hq, hb⟩
  induction cs using segments_induction with
  | nil => exact .inl fun _ => rfl
  | plain c cs hc ih =>
    obtain ⟨hq, hb⟩ := htail [c] hq hb
    exact partsSegments_or_cons (fun ds => segments_cons hc _) (ih hq hb)
  | stray c cs hc hnone ih =>
    obtain ⟨hq, hb⟩ := htail [c] hq hb
    have hne : cs.getLast? ≠ some c := fun h => by simp [h, hc] at hq
    rcases closing?_append_or hne hb with h | h
    · exact .inr ⟨c, hc, fun ds hds => ⟨[], c :: (cs ++ [c]), segments_region hc (h ds hds)⟩⟩
    · exact partsSegments_or_cons (fun ds => segments_cons_of_none ((h ds).trans hnone)) (ih hq hb)
  | region c body rest hc hclosing ih =>
    obtain ⟨hq', hb'⟩ := htail [c] hq hb
    have hne : (body ++ c :: rest).getLast? ≠ some c := fun h => by simp [h, hc] at hq'
    rcases closing?_append_or hne hb' with h | h
    · exact .inr ⟨c, hc, fun ds hds => ⟨[], _, segments_region hc (h ds hds)⟩⟩
    · -- the region ends within the text, and what is left of the text decides
      have hregion : ∀ ds, segments (c :: (body ++ c :: rest) ++ ds) =
          .quoted (c :: (body ++ [c])) :: segments (rest ++ ds) := by
        intro ds
        have happend := h ds
        rw [hclosing, List.append_assoc, List.cons_append] at happend
        rw [List.cons_append, List.append_assoc, List.cons_append, segments_region hc happend]
      obtain ⟨hq, hb⟩ := htail (c :: (body ++ [c])) (by simpa using hq) (by simpa using hb)
      rcases ih hq hb with h | ⟨q, hq, h⟩
      · refine .inl fun ds => ?_
        rw [hregion, segments_region hc hclosing, glue_quoted, h]
      · refine .inr ⟨q, hq, fun ds hds => ?_⟩
        obtain ⟨ss, region, hss⟩ := h ds hds
        exact ⟨.quoted (c :: (body ++ [c])) :: ss, region, by rw [hregion, hss]; rfl⟩

lemma getLast?_glue (xs : List Segment) (p : List Char) :
    ∃ p', (glue xs [.plain p]).getLast? = some (.plain p') := by
  induction xs with
  | nil => exact ⟨p, rfl⟩
  | cons s xs ih =>
    cases xs with
    | nil =>
      cases s with
      | plain p' => exact ⟨p' ++ p, rfl⟩
      | quoted cs => exact ⟨p, rfl⟩
    | cons t xs =>
      obtain ⟨p', hp'⟩ := ih
      refine ⟨p', ?_⟩
      rw [glue_cons_cons, ← List.singleton_append, List.getLast?_append, hp']
      rfl

lemma PartsSegments.atRest (h : PartsSegments cs) : AtRest cs := by
  intro q _
  have hquote : segments [q] = [.plain [q]] := segments_cons_of_none rfl
  rw [h, hquote]
  exact getLast?_glue _ _

lemma Waits.not_atRest (h : Waits cs) : ¬ AtRest cs := by
  intro hrest
  obtain ⟨q, hq, hwaits⟩ := h
  obtain ⟨ss, region, hss⟩ := hwaits [] (by simp)
  obtain ⟨p, hp⟩ := hrest q hq
  rw [hss, List.getLast?_append] at hp
  cases hp

/-! ### The last segment -/

/-- A text ends in a plain segment, before which stands nothing or a region. -/
def EndsPlain (cs : List Char) : Prop :=
  ∃ ss p, segments cs = ss ++ [.plain p] ∧ p ≠ [] ∧ cs = ss.flatMap Segment.text ++ p ∧
    (ss = [] ∨ (ss.flatMap Segment.text).getLast?.any isQuote = true)

lemma EndsPlain.cons (hc : segments (c :: cs) = consPlain c (segments cs))
    (h : cs ≠ [] → EndsPlain cs) : EndsPlain (c :: cs) := by
  rcases cs with _ | ⟨d, cs⟩
  · exact ⟨[], [c], hc, by simp, rfl, .inl rfl⟩
  · obtain ⟨ss, p, hss, hp, htext, hlast⟩ := h (by simp)
    have hfront : ∀ ds : List Char, ds.getLast?.any isQuote = true →
        (c :: ds).getLast?.any isQuote = true := by
      intro ds h
      cases ds with
      | nil => cases h
      | cons x ds => rwa [List.getLast?_cons_cons]
    rw [hss] at hc
    rw [htext] at hc ⊢
    rcases ss with _ | ⟨s | s, ss⟩
    · exact ⟨[], c :: p, hc, by simp, rfl, .inl rfl⟩
    · exact ⟨.plain (c :: s) :: ss, p, hc, hp, rfl,
        .inr (hfront _ (hlast.resolve_left (by simp)))⟩
    · exact ⟨.plain [c] :: .quoted s :: ss, p, hc, hp, rfl,
        .inr (hfront _ (hlast.resolve_left (by simp)))⟩

lemma EndsPlain.region (hq : isQuote q = true)
    (hclosing : closing? q (body ++ q :: rest) = some (body.length + 1)) (h : EndsPlain rest) :
    EndsPlain (q :: (body ++ q :: rest)) := by
  obtain ⟨ss, p, hss, hp, htext, hend⟩ := h
  refine ⟨.quoted (q :: (body ++ [q])) :: ss, p, ?_, hp, ?_, .inr ?_⟩
  · rw [segments_region hq hclosing, hss]
    rfl
  · simp [Segment.text, ← htext]
  · rw [List.flatMap_cons, List.getLast?_append]
    rcases hend with rfl | hend
    · rw [Segment.text, ← List.cons_append, List.getLast?_concat]
      exact hq
    · obtain ⟨x, hx, hquote⟩ := (Option.any_eq_true _ _).mp hend
      rw [hx]
      exact hquote

lemma endsPlain (hne : cs ≠ []) (hq : cs.getLast?.any isQuote = false) : EndsPlain cs := by
  have htail : ∀ {c : Char} {cs : List Char}, (c :: cs).getLast?.any isQuote = false →
      cs ≠ [] → cs.getLast?.any isQuote = false := by
    intro c cs h hne
    rwa [← List.singleton_append, List.getLast?_append_of_ne_nil _ hne] at h
  induction cs using segments_induction with
  | nil => exact absurd rfl hne
  | plain c cs hc ih => exact .cons (segments_cons hc cs) fun hcs => ih hcs (htail hq hcs)
  | stray c cs _ hnone ih =>
    exact .cons (segments_cons_of_none hnone) fun hcs => ih hcs (htail hq hcs)
  | region c body rest hc hclosing ih =>
    have hq' := htail hq (by simp)
    have hrest : rest ≠ [] := by
      rintro rfl
      rw [List.getLast?_concat, Option.any_some, hc] at hq'
      cases hq'
    refine .region hc hclosing (ih hrest ?_)
    rw [List.getLast?_append_of_ne_nil _ (by simp)] at hq'
    exact htail hq' hrest

/-! ### Rewriting -/

/-- Segments side by side are rewritten as each stands, if that holds of the plain text where they
meet. -/
lemma rewrite_glue (h : ∀ p p', xs.getLast? = some (.plain p) → ys.head? = some (.plain p') →
      rewritePlain (p ++ p') = rewritePlain p ++ rewritePlain p') :
    (glue xs ys).flatMap Segment.rewrite =
      xs.flatMap Segment.rewrite ++ ys.flatMap Segment.rewrite := by
  induction xs with
  | nil => rfl
  | cons s xs ih =>
    cases xs with
    | nil =>
      rcases s with p | p
      · rcases ys with _ | ⟨p' | p', ys⟩
        · simp [glue]
        · have hp : rewritePlain (p ++ p') = rewritePlain p ++ rewritePlain p' := h p p' rfl rfl
          simp [glue, Segment.rewrite, hp]
        · simp [glue]
      · rw [glue_quoted]
        simp [glue]
    | cons t xs =>
      have hrest := ih fun p p' hp hp' => h p p' (by rwa [List.getLast?_cons_cons]) hp'
      rw [glue_cons_cons, List.flatMap_cons, List.flatMap_cons, hrest, List.append_assoc]

end TableSchema.Source
