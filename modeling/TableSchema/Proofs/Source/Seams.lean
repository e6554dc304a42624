import TableSchema.Proofs.Source.OnePass

/-!
Plain text in two halves.

A form may stand across the place where two texts meet. Its words then begin in the first text and
run out there, and the second text goes on with it. Where no form runs out, or where the second text
goes on with none, the two texts are rewritten as if each stood by itself: see `sweep_seam`.
-/

namespace TableSchema.Source

open Text

variable {forms : List Rewrite} {r : Rewrite} {ps qs ss rest : List Piece} {cs ds : List Char}

/-- Pieces that do not go on with a form, not even with the blanks after it. -/
def Fresh (r : Rewrite) (ss : List Piece) : Prop :=
  Foreign r ss ∧ ∀ p ∈ ss.head?, p.isGap = false

/-- The words with which a form may run out: those before its last one, and all of them if it
matters what follows. -/
def Rewrite.Beginning (r : Rewrite) (words : List (List (List Char))) : Prop :=
  words ≠ [] ∧ words <+: r.phrase ∧ (words ≠ r.phrase ∨ r.beforeParenthesis = false)

/-- Whatever form runs out at the end of pieces, what comes next does not go on with it. -/
def Meets (r : Rewrite) (qs ss : List Piece) : Prop :=
  ∀ words rest, r.Beginning words → dropForm? words qs = some rest →
    (∀ p ∈ rest, p.isGap = true) → Fresh r ss

/-! ### Blanks at the seam -/

lemma Fresh.dropWhile (h : Fresh r ss) : ss.dropWhile Piece.isGap = ss := by
  cases ss with
  | nil => rfl
  | cons p ss =>
    rw [List.dropWhile_cons, if_neg]
    simp [h.2 p rfl]

lemma Fresh.afterGap (h : Fresh r ss) (hps : ∀ p ∈ ps, p.isGap = true) :
    Foreign r (afterGap (ps ++ ss)) := by
  unfold Source.afterGap
  rw [List.dropWhile_append_of_pos hps, h.dropWhile]
  split_ifs
  · exact h.1
  · simp [Foreign]

lemma afterGap_of_gaps (h : ∀ p ∈ ps, p.isGap = true) : afterGap ps = [] := by
  unfold afterGap
  split_ifs
  · rwa [List.dropWhile_eq_nil_iff]
  · rfl

lemma dropWhile_append_of_gap (h : ∃ p ∈ ps, ¬ p.isGap = true) (ss : List Piece) :
    (ps ++ ss).dropWhile Piece.isGap = ps.dropWhile Piece.isGap ++ ss ∧
      ps.dropWhile Piece.isGap ≠ [] := by
  have hne : ps.dropWhile Piece.isGap ≠ [] := fun hnil => by
    obtain ⟨p, hp, hgap⟩ := h
    exact hgap (List.dropWhile_eq_nil_iff.mp hnil p hp)
  rw [List.dropWhile_append, if_neg (by simpa using hne)]
  exact ⟨rfl, hne⟩

lemma afterGap_append (h : ∃ p ∈ ps, ¬ p.isGap = true) (ss : List Piece) :
    afterGap ps = [] ∧ afterGap (ps ++ ss) = [] ∨
      afterGap ps ≠ [] ∧ afterGap (ps ++ ss) = afterGap ps ++ ss := by
  obtain ⟨hdrop, hne⟩ := dropWhile_append_of_gap h ss
  cases ps with
  | nil => simp at hne
  | cons p ps =>
    have hhead : (p :: ps ++ ss).head? = (p :: ps).head? := rfl
    unfold afterGap
    rw [hhead, hdrop]
    split_ifs
    · exact .inr ⟨hne, rfl⟩
    · exact .inl ⟨rfl, rfl⟩

/-! ### Occurrences at the seam -/

/-- Words are met up to the seam as they are met before a text that does not go on with them. -/
lemma dropForm?_append {words : List (List (List Char))} (hw : ∀ word ∈ words.tail, word ∈ r.later)
    (hqs : qs ≠ [])
    (hout : ∀ ws rest, ws ≠ [] → ws <+: words → ws ≠ words → dropForm? ws qs = some rest →
      (∀ p ∈ rest, p.isGap = true) → Fresh r ss) :
    dropForm? words (qs ++ ss) = (dropForm? words qs).map (· ++ ss) := by
  induction words generalizing qs with
  | nil => simp [dropForm?]
  | cons word words ih =>
    obtain ⟨p, ps, rfl⟩ := List.exists_cons_of_ne_nil hqs
    have hwords : ∀ x ∈ words, x ∈ r.later := hw
    rw [List.cons_append, dropForm?_cons, dropForm?_cons]
    split_ifs with hp hempty
    · rfl
    · have hne : words ≠ [] := by simpa using hempty
      by_cases hgap : ∀ q ∈ ps, q.isGap = true
      · -- the form has run out at the seam
        have hfresh : Fresh r ss := by
          refine hout [word] ps (by simp) (by simp) (by simpa using hne.symm) ?_ hgap
          rw [dropForm?_cons, if_pos hp]
          rfl
        rw [(hfresh.afterGap hgap).dropForm? hwords, afterGap_of_gaps hgap, dropForm?_nil]
        rfl
      · rcases afterGap_append (by simpa using hgap) ss with ⟨hnil, hnil'⟩ | ⟨hafter, happend⟩
        · rw [hnil, hnil', dropForm?_nil]
          rfl
        · rw [happend]
          refine ih (fun x hx => hwords x (List.mem_of_mem_tail hx)) hafter ?_
          intro ws rest hws hpre hproper hdrop hrest
          refine hout (word :: ws) rest (by simp) (by simpa using hpre) (by simpa using hproper) ?_
            hrest
          rw [dropForm?_cons, if_pos hp, if_neg (by simpa using hws), hdrop]
    · rfl

lemma mayStandBefore_append (h : (∀ p ∈ ps, p.isGap = true) → r.beforeParenthesis = false →
    Fresh r ss) : r.mayStandBefore (ps ++ ss) = r.mayStandBefore ps := by
  unfold Rewrite.mayStandBefore
  rcases hr : r.beforeParenthesis with _ | _
  · congr 1
    by_cases hgap : ∀ p ∈ ps, p.isGap = true
    · have hfresh := h hgap hr
      have hnil : ps.dropWhile Piece.isGap = [] := List.dropWhile_eq_nil_iff.mpr hgap
      rw [List.dropWhile_append_of_pos hgap, hfresh.dropWhile, hfresh.1.head, hnil]
      rfl
    · obtain ⟨happend, hne⟩ := dropWhile_append_of_gap (by simpa using hgap) ss
      rw [happend, List.head?_append_of_ne_nil _ hne]
  · rfl

lemma afterKept?_append (h : (∀ p ∈ ps, p.isGap = true) → r.kept ≠ none → Fresh r ss) :
    r.afterKept? (ps ++ ss) = (r.afterKept? ps).map (· ++ ss) := by
  unfold Rewrite.afterKept?
  rcases hk : r.kept with _ | w
  · rfl
  · show dropForm? [[w]] (afterGap (ps ++ ss)) = (dropForm? [[w]] (afterGap ps)).map (· ++ ss)
    by_cases hgap : ∀ p ∈ ps, p.isGap = true
    · have hfresh := h hgap (by simp [hk])
      rw [(hfresh.afterGap hgap).dropForm? (by simpa using Rewrite.mem_later_of_kept hk),
        afterGap_of_gaps hgap, dropForm?_nil]
      rfl
    · rcases afterGap_append (by simpa using hgap) ss with ⟨hnil, hnil'⟩ | ⟨hafter, happend⟩
      · rw [hnil, hnil', dropForm?_nil]
        rfl
      · obtain ⟨p, qs, hqs⟩ := List.exists_cons_of_ne_nil hafter
        rw [happend, hqs, List.cons_append, dropForm?_cons, dropForm?_cons]
        split_ifs <;> rfl

lemma at?_append (hqs : qs ≠ []) (h : Meets r qs ss) :
    r.at? (qs ++ ss) = (r.at? qs).map (Prod.map id (· ++ ss)) := by
  have hdrop : dropForm? r.words (qs ++ ss) = (dropForm? r.words qs).map (· ++ ss) := by
    refine dropForm?_append (fun _ hx => List.mem_append_left _ hx) hqs ?_
    intro ws rest hws hpre hproper hdrop hrest
    refine h ws rest ⟨hws, hpre.trans (List.prefix_append _ _), .inl ?_⟩ hdrop hrest
    rintro rfl
    exact hproper (hpre.eq_of_length_le (by simp [Rewrite.phrase]))
  unfold Rewrite.at?
  rw [hdrop]
  rcases hafter : dropForm? r.words qs with _ | after
  · rfl
  · have hne : r.words ≠ [] := by
      intro hnil
      rw [hnil] at hafter
      cases qs <;> cases hafter
    have hpre : r.words <+: r.phrase := List.prefix_append _ _
    have hmay : r.mayStandBefore (after ++ ss) = r.mayStandBefore after :=
      mayStandBefore_append fun hgap hr => h r.words after ⟨hne, hpre, .inr hr⟩ hafter hgap
    have hkept : r.afterKept? (after ++ ss) = (r.afterKept? after).map (· ++ ss) := by
      refine afterKept?_append fun hgap hr => h r.words after ⟨hne, hpre, .inl ?_⟩ hafter hgap
      simpa [Rewrite.phrase, Option.eq_none_iff_forall_ne_some] using hr
    rw [Option.map_some, Option.filter_some, Option.filter_some, hmay]
    split_ifs
    · refine congrArg some ?_
      unfold Rewrite.replace
      rw [hkept]
      rcases hk : r.afterKept? after with _ | rest
      · rfl
      · obtain ⟨kept, rfl, -⟩ := Rewrite.afterKept?_eq_some hk
        simp
    · rfl

lemma firstAt?_append (hqs : qs ≠ []) (h : ∀ r ∈ forms, Meets r qs ss) :
    firstAt? forms (qs ++ ss) = (firstAt? forms qs).map (Prod.map id (· ++ ss)) := by
  unfold firstAt?
  induction forms with
  | nil => rfl
  | cons r forms ih =>
    rw [List.findSome?_cons, List.findSome?_cons, at?_append hqs (h r List.mem_cons_self),
      ih fun r hr => h r (List.mem_cons_of_mem _ hr)]
    rcases r.at? qs with _ | _ <;> rfl

/-- **Seams**: two texts that do not meet within a form are rewritten each on its own. -/
theorem sweep_seam (h : ∀ r ∈ forms, ∀ qs, qs <:+ ps → Meets r qs ss) :
    sweep forms (ps ++ ss) = sweep forms ps ++ sweep forms ss := by
  induction ps using sweep.induct forms with
  | case1 => simp
  | case2 p ps rep rest hfirst ih =>
    have happend := firstAt?_append (by simp) fun r hr => h r hr (p :: ps) (List.suffix_refl _)
    rw [hfirst] at happend
    have hrest : rest <:+ p :: ps := by
      obtain ⟨r, -, hr⟩ := firstAt?_mem hfirst
      obtain ⟨form, kept, heq, -⟩ := Rewrite.at?_eq_some hr
      rw [heq]
      exact List.suffix_append _ _
    rw [sweep_of_some happend, sweep_of_some hfirst, List.append_assoc]
    exact congrArg _ (ih fun r hr qs hqs => h r hr qs (hqs.trans hrest))
  | case3 p ps hfirst ih =>
    have happend := firstAt?_append (by simp) fun r hr => h r hr (p :: ps) (List.suffix_refl _)
    rw [hfirst] at happend
    have hnone : firstAt? forms (p :: (ps ++ ss)) = none := happend
    rw [List.cons_append, sweep_of_none hnone, sweep_of_none hfirst,
      ih fun r hr qs hqs => h r hr qs (hqs.trans (List.suffix_cons _ _))]
    rfl

/-! ### Texts -/

/-- A text ends in the beginning of a form, with at most blanks after it. -/
def Rewrite.Unfinished (r : Rewrite) (cs : List Char) : Prop :=
  ∃ words, r.Beginning words ∧ ∃ before form rest, cs = before ++ form ∧
    before.getLast?.any isWord = false ∧ Rewrite.dropWords? words form = some rest ∧
      ∀ c ∈ rest, isBlank c = true

lemma dropForm?_head {words : List (List (List Char))} (hw : ∀ word ∈ words, Lettered word)
    (h : dropForm? words qs = some rest) : ∃ w qs', qs = .word w :: qs' := by
  cases words with
  | nil => cases qs <;> cases h
  | cons word words =>
    cases qs with
    | nil => cases h
    | cons p qs =>
      rw [dropForm?_cons] at h
      split_ifs at h with hp
      all_goals
        cases p with
        | word w => exact ⟨w, qs, rfl⟩
        | mark c => exact absurd rfl (hw word List.mem_cons_self _ hp).1

lemma getLast?_spell_of_word {w : List Char} (h : Proper (ps ++ .word w :: qs)) :
    (spell ps).getLast?.any isWord = false := by
  rcases List.eq_nil_or_concat ps with rfl | ⟨ps, p, rfl⟩
  · rfl
  · rw [List.concat_eq_append] at h ⊢
    rw [List.append_assoc] at h
    have hp : Proper ([p] ++ .word w :: qs) := h.of_append
    cases p with
    | mark c =>
      have hc : isWord c = false := hp.1
      simp [Piece.text, hc]
    | word ds =>
      -- two words would be neighbours
      obtain ⟨-, hstart, ⟨hne, hw⟩, -⟩ := hp
      obtain ⟨c, w, rfl⟩ := List.exists_cons_of_ne_nil hne
      have hc : isWord c = false := hstart
      rw [hw c List.mem_cons_self] at hc
      cases hc

lemma isGap_iff_of_proper (h : Proper ps) :
    (∀ p ∈ ps, p.isGap = true) ↔ ∀ c ∈ spell ps, isBlank c = true := by
  induction ps with
  | nil => simp
  | cons p ps ih =>
    obtain ⟨c, cs, htext, hgap⟩ := h.head
    rw [spell_cons, List.forall_mem_cons, List.forall_mem_append, ih h.tail]
    refine and_congr_left fun _ => ?_
    cases p with
    | mark d => simp [Piece.isGap, Piece.text]
    | word ds =>
      rw [htext] at *
      refine ⟨fun h => ?_, fun h => ?_⟩
      · cases h
      · rw [← hgap]
        exact h c List.mem_cons_self

lemma unfinished_iff (hr : r.Regular) :
    r.Unfinished cs ↔ ∃ words, r.Beginning words ∧ ∃ qs rest, qs <:+ pieces cs ∧
      dropForm? words qs = some rest ∧ ∀ p ∈ rest, p.isGap = true := by
  constructor
  · rintro ⟨words, hwords, before, form, rest, rfl, hend, hdrop, hrest⟩
    have hlettered : ∀ word ∈ words, Lettered word := fun word hw =>
      hr.lettered word (hwords.2.1.subset hw)
    have hparts : pieces (before ++ form) = pieces before ++ pieces form := by
      refine pieces_append fun c hc hword => ?_
      rw [Option.mem_def.mp hc, Option.any_some, hword] at hend
      cases hend
    rw [← spell_pieces form, dropWords?_spell hlettered (proper_pieces form)] at hdrop
    obtain ⟨rest', hform, rfl⟩ := Option.map_eq_some_iff.mp hdrop
    refine ⟨words, hwords, pieces form, rest', ?_, hform, ?_⟩
    · rw [hparts]
      exact List.suffix_append _ _
    · obtain ⟨covered, hcovered, -⟩ := dropForm?_eq_some hform
      have hproper : Proper (covered ++ rest') := hcovered ▸ proper_pieces form
      exact (isGap_iff_of_proper hproper.of_append).mpr hrest
  · rintro ⟨words, hwords, qs, rest, ⟨ps, hps⟩, hdrop, hrest⟩
    have hlettered : ∀ word ∈ words, Lettered word := fun word hw =>
      hr.lettered word (hwords.2.1.subset hw)
    have hproper : Proper (ps ++ qs) := hps ▸ proper_pieces cs
    refine ⟨words, hwords, spell ps, spell qs, spell rest, ?_, ?_, ?_, ?_⟩
    · rw [← spell_append, hps, spell_pieces]
    · obtain ⟨w, qs, rfl⟩ := dropForm?_head hlettered hdrop
      exact getLast?_spell_of_word hproper
    · rw [dropWords?_spell hlettered hproper.of_append, hdrop]
      rfl
    · obtain ⟨covered, rfl, -⟩ := dropForm?_eq_some hdrop
      exact (isGap_iff_of_proper hproper.of_append.of_append).mp hrest

/-- A text after which no form goes on, and which does not end within a word, can be parted from any
text that follows. -/
lemma rewritePlain_append_of_finished (hend : cs.getLast?.any isWord = false)
    (h : ∀ r ∈ rewrites, ¬ r.Unfinished cs) (ds : List Char) :
    rewritePlain (cs ++ ds) = rewritePlain cs ++ rewritePlain ds := by
  have hparts : pieces (cs ++ ds) = pieces cs ++ pieces ds := by
    refine pieces_append fun c hc hword => ?_
    rw [Option.mem_def.mp hc, Option.any_some, hword] at hend
    cases hend
  rw [rewritePlain_eq_sweep, rewritePlain_eq_sweep, rewritePlain_eq_sweep, hparts, sweep_seam,
    spell_append]
  intro r hr qs hqs words rest hwords hdrop hrest
  exact absurd ((unfinished_iff (rewrites_regular r hr)).mpr
    ⟨words, hwords, qs, rest, hqs, hdrop, hrest⟩) (h r hr)

/-- So can any text from one that begins with a character that goes on with nothing. -/
lemma rewritePlain_append_of_mark {d : Char} (hword : isWord d = false) (hblank : isBlank d = false)
    (hparen : d ≠ '(') (cs ds : List Char) :
    rewritePlain (cs ++ d :: ds) = rewritePlain cs ++ rewritePlain (d :: ds) := by
  have hparts : pieces (cs ++ d :: ds) = pieces cs ++ pieces (d :: ds) :=
    pieces_append fun _ _ _ => hword
  have hmark : pieces (d :: ds) = .mark d :: pieces ds := if_neg (by simp [hword])
  rw [rewritePlain_eq_sweep, rewritePlain_eq_sweep, rewritePlain_eq_sweep, hparts, sweep_seam,
    spell_append]
  intro r hr qs _ words rest _ _ _
  rw [hmark]
  refine ⟨?_, ?_⟩
  · rintro p ⟨⟩
    refine ⟨fun hmem => ?_, by simpa using hparen⟩
    obtain ⟨word, hlater, hkey⟩ := List.mem_flatten.mp hmem
    exact ((rewrites_regular r hr).lettered word (Rewrite.later_subset hlater) _ hkey).1 rfl
  · rintro p ⟨⟩
    exact hblank

end TableSchema.Source
