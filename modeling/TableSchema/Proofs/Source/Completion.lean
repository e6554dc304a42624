import TableSchema.Proofs.Source.Seams

/-!
Forms that are completed.

Where a form runs out at the end of a text, there is another text that completes it, or that it may
not stand before. The two texts together are then rewritten in another way than each on its own: see
`exists_of_unfinished`.
-/

namespace TableSchema.Source

open Text

variable {r : Rewrite} {ps qs ss rest : List Piece} {cs : List Char}
  {words more : List (List (List Char))}

/-! ### Words in two parts -/

lemma dropForm?_split (hw : words ≠ []) (hm : more ≠ []) (ps : List Piece) :
    dropForm? (words ++ more) ps =
      (dropForm? words ps).bind fun rest => dropForm? more (afterGap rest) := by
  induction words generalizing ps with
  | nil => exact absurd rfl hw
  | cons word words ih =>
    cases ps with
    | nil => rfl
    | cons p ps =>
      rw [List.cons_append, dropForm?_cons, dropForm?_cons]
      by_cases hp : p.key ∈ word
      · rw [if_pos hp, if_pos hp, if_neg (by simp [hm])]
        cases words with
        | nil => rfl
        | cons next words =>
          rw [if_neg (by simp)]
          exact ih (by simp) _
      · rw [if_neg hp, if_neg hp]
        rfl

lemma dropForm?_mono (h : dropForm? words ps = some rest) (ss : List Piece) :
    dropForm? words (ps ++ ss) = some (rest ++ ss) := by
  induction words generalizing ps with
  | nil => cases ps <;> cases h
  | cons word words ih =>
    cases ps with
    | nil => cases h
    | cons p ps =>
      rw [dropForm?_cons] at h
      rw [List.cons_append, dropForm?_cons]
      split_ifs at h ⊢ with hp hnil
      · rw [Option.some.inj h]
      · have hgap : ¬ ∀ p ∈ ps, p.isGap = true := fun hgap => by
          rw [afterGap_of_gaps hgap, dropForm?_nil] at h
          cases h
        rcases afterGap_append (by simpa using hgap) ss with ⟨hafter, -⟩ | ⟨-, happend⟩
        · rw [hafter, dropForm?_nil] at h
          cases h
        · rw [happend]
          exact ih h

/-! ### What is missing -/

/-- Words of a form in their first spelling, with a space between them. -/
def missing : List (List (List Char)) → List Piece
  | [] => []
  | [word] => [.word (word.headD [])]
  | word :: words => .word (word.headD []) :: .mark ' ' :: missing words

def Writable (words : List (List (List Char))) : Prop :=
  ∀ word ∈ words, word ≠ [] ∧ Lettered word

lemma Writable.head {word : List (List Char)} (h : Writable (word :: words)) :
    word.headD [] ∈ word ∧ (word.headD []).map fold = word.headD [] ∧ word.headD [] ≠ [] ∧
      ∀ c ∈ word.headD [], IsSmallLetter c := by
  obtain ⟨hne, hlettered⟩ := h word List.mem_cons_self
  obtain ⟨w, ws, rfl⟩ := List.exists_cons_of_ne_nil hne
  obtain ⟨hw, hsmall⟩ := hlettered w List.mem_cons_self
  refine ⟨List.mem_cons_self, ?_, hw, hsmall⟩
  exact (List.map_congr_left fun c hc => (hsmall c hc).fold_eq.1).trans (List.map_id' w)

lemma Writable.tail {word : List (List Char)} (h : Writable (word :: words)) : Writable words :=
  fun x hx => h x (List.mem_cons_of_mem _ hx)

lemma missing_cons (word next : List (List Char)) (words : List (List (List Char))) :
    missing (word :: next :: words) =
      .word (word.headD []) :: .mark ' ' :: missing (next :: words) := rfl

lemma missing_head (word : List (List Char)) (words : List (List (List Char))) :
    ∃ ps, missing (word :: words) = .word (word.headD []) :: ps := by
  cases words with
  | nil => exact ⟨[], rfl⟩
  | cons next words => exact ⟨_, rfl⟩

lemma proper_missing (h : Writable words) : Proper (missing words) := by
  induction words with
  | nil => trivial
  | cons word words ih =>
    obtain ⟨-, -, hne, hsmall⟩ := h.head
    have hword : word.headD [] ≠ [] ∧ ∀ c ∈ word.headD [], isWord c = true :=
      ⟨hne, fun c hc => (hsmall c hc).fold_eq.2⟩
    cases words with
    | nil => exact ⟨hword, rfl, trivial⟩
    | cons next words => exact ⟨hword, rfl, rfl, ih h.tail⟩

lemma dropForm?_missing (h : Writable words) (hne : words ≠ []) :
    dropForm? words (missing words) = some [] := by
  induction words with
  | nil => exact absurd rfl hne
  | cons word words ih =>
    obtain ⟨hmem, hfold, -⟩ := h.head
    have hkey : (Piece.word (word.headD [])).key ∈ word := by rwa [Piece.key, hfold]
    cases words with
    | nil =>
      rw [missing, dropForm?_cons, if_pos hkey]
      rfl
    | cons next words =>
      have hgap : afterGap (.mark ' ' :: missing (next :: words)) = missing (next :: words) := by
        obtain ⟨ps, hps⟩ := missing_head next words
        rw [hps]
        rfl
      rw [missing_cons, dropForm?_cons, if_pos hkey, if_neg (by simp), hgap, ih h.tail (by simp)]

lemma key_of_mem_missing (h : Writable words) {p : Piece} (hp : p ∈ missing words) :
    p.key = [] ∨ p.key ∈ words.flatten := by
  induction words with
  | nil => cases hp
  | cons word words ih =>
    obtain ⟨hmem, hfold, -⟩ := h.head
    have hkey : (Piece.word (word.headD [])).key ∈ (word :: words).flatten := by
      rw [Piece.key, hfold]
      exact List.mem_flatten.mpr ⟨word, List.mem_cons_self, hmem⟩
    cases words with
    | nil =>
      obtain rfl := List.mem_singleton.mp hp
      exact .inr hkey
    | cons next words =>
      rw [missing_cons, List.mem_cons, List.mem_cons] at hp
      rcases hp with rfl | rfl | hp
      · exact .inr hkey
      · exact .inl rfl
      · exact (ih h.tail hp).imp_right fun hp => List.mem_append_right word hp

lemma mem_spell_missing (h : Writable words) {c : Char} (hc : c ∈ spell (missing words)) :
    c = ' ' ∨ IsSmallLetter c := by
  induction words with
  | nil => cases hc
  | cons word words ih =>
    obtain ⟨-, -, -, hsmall⟩ := h.head
    cases words with
    | nil =>
      rw [missing, spell_cons, spell_nil, List.append_nil] at hc
      exact .inr (hsmall c hc)
    | cons next words =>
      rw [missing_cons, spell_cons, spell_cons, List.mem_append, List.mem_append] at hc
      rcases hc with hc | hc | hc
      · exact .inr (hsmall c hc)
      · exact .inl (List.mem_singleton.mp hc)
      · exact ih h.tail hc

lemma getLast?_missing (h : Writable words) (hne : words ≠ []) :
    ∃ c, (spell (missing words)).getLast? = some c ∧ IsSmallLetter c := by
  induction words with
  | nil => exact absurd rfl hne
  | cons word words ih =>
    obtain ⟨-, -, hword, hsmall⟩ := h.head
    cases words with
    | nil =>
      rw [missing, spell_cons, spell_nil, List.append_nil]
      refine ⟨_, List.getLast?_eq_some_getLast hword, hsmall _ (List.getLast_mem hword)⟩
    | cons next words =>
      obtain ⟨c, hlast, hc⟩ := ih h.tail (by simp)
      refine ⟨c, ?_, hc⟩
      rw [missing_cons, spell_cons, spell_cons, ← List.append_assoc, List.getLast?_append, hlast]
      rfl

/-! ### The forms of a statement -/

lemma rewrites_writable : ∀ r ∈ rewrites, Writable r.phrase := by
  have h : ∀ r ∈ rewrites, ∀ word ∈ r.phrase, word ≠ [] := by decide
  exact fun r hr word hword => ⟨h r hr word hword, (rewrites_regular r hr).lettered word hword⟩

lemma rewrites_first : ∀ r ∈ rewrites, ∀ r' ∈ rewrites, ∀ w ∈ r.first, w ∉ r'.later.flatten := by
  decide

/-- No replacement ends in a small letter. -/
lemma rewrites_last : ∀ r ∈ rewrites,
    r.replacement.getLast?.any (fun c => ¬ IsSmallLetter c) = true := by
  decide

lemma rewrites_kept : ∀ r ∈ rewrites, r.beforeParenthesis = false → r.kept = none := by
  decide

lemma rewrites_phrase : ∀ r ∈ rewrites, r.phrase = r.first :: r.later ∧ r.words ≠ [] := by
  decide

/-- Words that are no first words are left alone. -/
lemma sweep_later {r : Rewrite} (hr : r ∈ rewrites)
    (h : ∀ p ∈ ps, p.key = [] ∨ p.key ∈ r.later.flatten) (ss : List Piece) :
    sweep rewrites (ps ++ ss) = ps ++ sweep rewrites ss := by
  refine sweep_append (fun p hp r' hr' hfirst => ?_) ss
  rcases h p hp with hkey | hkey
  · exact (rewrites_regular r' hr').not_first hkey hfirst
  · exact rewrites_first r' hr' r hr _ hfirst hkey

/-- What begins with the first word of a form goes on with none. -/
lemma sweep_first {r : Rewrite} (hr : r ∈ rewrites) {p : Piece} (hp : p.key ∈ r.first)
    (ps qs : List Piece) :
    sweep rewrites (ps ++ p :: qs) = sweep rewrites ps ++ sweep rewrites (p :: qs) := by
  have hne : p.key ≠ [] := fun hnil => (rewrites_regular r hr).not_first hnil hp
  refine sweep_seam fun r' hr' qs' _ words rest _ _ _ => ⟨?_, ?_⟩
  · rintro q ⟨⟩
    refine ⟨rewrites_first r hr r' hr' _ hp, ?_⟩
    rintro rfl
    exact hne rfl
  · rintro q ⟨⟩
    by_contra hgap
    exact hne (Piece.key_of_isGap (by simpa using hgap))

lemma first_of_dropForm? {r : Rewrite} (hr : r ∈ rewrites) (hphrase : r.phrase = words ++ more)
    (h : dropForm? words qs = some rest) :
    ∃ p ps, qs = p :: ps ∧ p.key ∈ r.first ∧ ∃ ws, r.later = ws ++ more := by
  cases words with
  | nil => cases qs <;> cases h
  | cons word words =>
    rw [(rewrites_phrase r hr).1, List.cons_append] at hphrase
    obtain ⟨rfl, hlater⟩ := List.cons.inj hphrase
    cases qs with
    | nil => cases h
    | cons p ps =>
      rw [dropForm?_cons] at h
      split_ifs at h with hp
      all_goals exact ⟨p, ps, rfl, hp, words, hlater⟩

lemma at?_of_phrase {r : Rewrite} (hr : r ∈ rewrites) (h : dropForm? r.phrase ps = some []) :
    ∃ rep, r.at? ps = some (rep, []) := by
  have hnone : ∀ after, r.mayStandBefore after = true → dropForm? r.words ps = some after →
      r.at? ps = some (r.replace after) := by
    intro after hmay hdrop
    rw [Rewrite.at?, hdrop, Option.filter_some, if_pos hmay]
    rfl
  rcases hk : r.kept with _ | w
  · have hwords : r.phrase = r.words := by simp [Rewrite.phrase, hk]
    refine ⟨pieces r.replacement, ?_⟩
    rw [hnone [] (by simp [Rewrite.mayStandBefore]) (hwords ▸ h), Rewrite.replace,
      Rewrite.afterKept?, hk]
    rfl
  · have hphrase : r.phrase = r.words ++ [[w]] := by simp [Rewrite.phrase, hk]
    have hmay : ∀ after, r.mayStandBefore after = true := by
      intro after
      have hparen : r.beforeParenthesis = true := by
        by_contra hno
        rw [rewrites_kept r hr (by simpa using hno)] at hk
        cases hk
      simp [Rewrite.mayStandBefore, hparen]
    rw [hphrase, dropForm?_split (rewrites_phrase r hr).2 (by simp)] at h
    obtain ⟨after, hafter, hkept⟩ := Option.bind_eq_some_iff.mp h
    have hrest : (r.replace after).2 = [] := by
      rw [Rewrite.replace, Rewrite.afterKept?, hk, Option.bind_some, hkept]
    exact ⟨(r.replace after).1, by rw [hnone after (hmay after) hafter, ← hrest]⟩

/-- **A form that is completed** makes two texts one: what they are rewritten to together ends
otherwise than the second one does. -/
lemma rewritePlain_completed {r : Rewrite} (hr : r ∈ rewrites) (hphrase : r.phrase = words ++ more)
    (hmore : more ≠ []) (hqs : qs <:+ pieces cs) (hdrop : dropForm? words qs = some rest)
    (hgap : ∀ p ∈ rest, p.isGap = true) :
    rewritePlain (cs ++ spell (.mark ' ' :: missing more)) ≠
      rewritePlain cs ++ rewritePlain (spell (.mark ' ' :: missing more)) := by
  obtain ⟨front, hfront⟩ := hqs
  obtain ⟨p, ps, rfl, hfirst, ws, hlater⟩ := first_of_dropForm? hr hphrase hdrop
  have hwritable : Writable more := fun word hword =>
    rewrites_writable r hr word (hphrase ▸ List.mem_append_right words hword)
  have hproper : Proper (.mark ' ' :: missing more) := ⟨rfl, proper_missing hwritable⟩
  have hparts : pieces (cs ++ spell (.mark ' ' :: missing more)) =
      front ++ p :: (ps ++ .mark ' ' :: missing more) := by
    rw [pieces_append fun _ _ _ => rfl, hproper.pieces_spell, ← hfront]
    simp
  -- together the form stands, and what replaces it comes last
  have htogether : ∃ rep r', r' ∈ rewrites ∧
      sweep rewrites (p :: (ps ++ .mark ' ' :: missing more)) = rep ++ pieces r'.replacement := by
    have hne : words ≠ [] := by
      rintro rfl
      cases hdrop
    have hafter : afterGap (rest ++ .mark ' ' :: missing more) = missing more := by
      obtain ⟨word, more, rfl⟩ := List.exists_cons_of_ne_nil hmore
      obtain ⟨ms, hms⟩ := missing_head word more
      have hhead : (rest ++ .mark ' ' :: missing (word :: more)).head?.any Piece.isGap = true := by
        cases rest with
        | nil => rfl
        | cons g rest => exact hgap g List.mem_cons_self
      rw [afterGap, if_pos hhead, List.dropWhile_append_of_pos hgap, hms]
      rfl
    have hform : dropForm? r.phrase (p :: ps ++ .mark ' ' :: missing more) = some [] := by
      rw [hphrase, dropForm?_split hne hmore, dropForm?_mono hdrop, Option.bind_some, hafter,
        dropForm?_missing hwritable hmore]
    obtain ⟨rep, hat⟩ := at?_of_phrase hr hform
    obtain ⟨rep', rest', hfirst, hlength⟩ := firstAt?_longest rewrites_outreach hr hat
    obtain rfl : rest' = [] := by simpa using hlength
    obtain ⟨r', hr', hat'⟩ := firstAt?_mem hfirst
    obtain ⟨-, kept, -, -, rfl, -⟩ := Rewrite.at?_eq_some hat'
    refine ⟨kept, r', hr', ?_⟩
    rw [← List.cons_append, sweep_of_some hfirst, sweep_nil, List.append_nil]
  -- apart nothing of the second text is replaced
  have hapart : sweep rewrites (.mark ' ' :: missing more) = .mark ' ' :: missing more := by
    have hkeys : ∀ q ∈ .mark ' ' :: missing more, q.key = [] ∨ q.key ∈ r.later.flatten := by
      intro q hq
      rcases List.mem_cons.mp hq with rfl | hq
      · exact .inl rfl
      · refine (key_of_mem_missing hwritable hq).imp_right fun hkey => ?_
        rw [hlater, List.flatten_append]
        exact List.mem_append_right _ hkey
    simpa using sweep_later hr hkeys []
  obtain ⟨rep, r', hr', hsweep⟩ := htogether
  obtain ⟨c, hc, hsmall⟩ := getLast?_missing hwritable hmore
  obtain ⟨d, hd, hother⟩ := (Option.any_eq_true _ _).mp (rewrites_last r' hr')
  rw [rewritePlain_eq_sweep, rewritePlain_eq_sweep, rewritePlain_eq_sweep, hparts,
    sweep_first hr hfirst, hsweep, hproper.pieces_spell, hapart]
  intro heq
  have hlast := congrArg List.getLast? heq
  simp only [spell_append, spell_pieces, spell_cons, List.getLast?_append, hc, hd,
    Option.some_or] at hlast
  obtain rfl := Option.some.inj hlast
  simp [hsmall] at hother

/-! ### A parenthesis after a form -/

lemma eq_getLast? {r : Rewrite} (hr : r ∈ rewrites) (h : r.beforeParenthesis = false) :
    rewrites.getLast? = some r := by
  simp only [rewrites, List.mem_cons, List.not_mem_nil, or_false] at hr
  rcases hr with rfl | rfl | rfl | rfl | rfl | rfl | rfl
  all_goals first | rfl | cases h

lemma rewrites_parenthesis : ∀ r ∈ rewrites, r.beforeParenthesis = false → ∀ w ∈ r.first,
    (r.replacement.map fold).head? ≠ w.head? ∧
      ∀ r' ∈ rewrites, r'.beforeParenthesis = true → w ∉ r'.first := by
  decide

/-- Where a form may stand that minds a parenthesis, no other one may. -/
lemma firstAt?_of_first {r : Rewrite} (hr : r ∈ rewrites) (hr' : r.beforeParenthesis = false)
    {p : Piece} (hp : p.key ∈ r.first) : firstAt? rewrites (p :: ps) = r.at? (p :: ps) := by
  have honly : ∀ r' ∈ rewrites, ∀ x, r'.at? (p :: ps) = some x → r.at? (p :: ps) = some x := by
    intro r' hmem x hat
    rcases hparen : r'.beforeParenthesis with _ | _
    · have hsame : some r' = some r :=
        (eq_getLast? hmem hparen).symm.trans (eq_getLast? hr hr')
      rwa [Option.some.inj hsame] at hat
    · have hfirst := (rewrites_parenthesis r hr hr' _ hp).2 r' hmem hparen
      rw [Rewrite.at?_of_first hfirst] at hat
      cases hat
  rcases hat : firstAt? rewrites (p :: ps) with _ | x
  · exact (List.findSome?_eq_none_iff.mp hat r hr).symm
  · obtain ⟨r', hmem, hat'⟩ := firstAt?_mem hat
    exact (honly r' hmem x hat').symm

/-- **A parenthesis** that a form may not stand before keeps it as it is. -/
lemma rewritePlain_parenthesis {r : Rewrite} (hr : r ∈ rewrites) (hr' : r.beforeParenthesis = false)
    (hqs : qs <:+ pieces cs) (hdrop : dropForm? r.phrase qs = some rest)
    (hgap : ∀ p ∈ rest, p.isGap = true) :
    rewritePlain (cs ++ ['(']) ≠ rewritePlain cs ++ rewritePlain ['('] := by
  obtain ⟨front, hfront⟩ := hqs
  obtain ⟨p, ps, rfl, hfirst, -⟩ := first_of_dropForm? hr (List.append_nil _).symm hdrop
  have hkept := rewrites_kept r hr hr'
  have hwords : r.phrase = r.words := by simp [Rewrite.phrase, hkept]
  rw [hwords] at hdrop
  have hparts : pieces (cs ++ ['(']) = front ++ p :: (ps ++ [.mark '(']) := by
    rw [pieces_append fun _ _ _ => rfl, ← hfront, List.append_assoc]
    rfl
  have hbefore : firstAt? rewrites (p :: (ps ++ [.mark '('])) = none := by
    have hmay : ¬ r.mayStandBefore (rest ++ [.mark '(']) = true := by
      rw [Rewrite.mayStandBefore, hr', List.dropWhile_append_of_pos hgap]
      decide
    rw [firstAt?_of_first hr hr' hfirst, ← List.cons_append, Rewrite.at?, dropForm?_mono hdrop,
      Option.filter_some, if_neg hmay]
    rfl
  have hstands : firstAt? rewrites (p :: ps) = some (pieces r.replacement, rest) := by
    have hmay : r.mayStandBefore rest = true := by
      rw [Rewrite.mayStandBefore, List.dropWhile_eq_nil_iff.mpr hgap]
      simp
    rw [firstAt?_of_first hr hr' hfirst, Rewrite.at?, hdrop, Option.filter_some, if_pos hmay,
      Option.map_some, Rewrite.replace, Rewrite.afterKept?, hkept]
    rfl
  rw [rewritePlain_eq_sweep, rewritePlain_eq_sweep, hparts, ← hfront, sweep_first hr hfirst,
    sweep_first hr hfirst, sweep_of_none hbefore, sweep_of_some hstands]
  intro heq
  simp only [spell_append, spell_cons, spell_pieces, List.append_assoc] at heq
  -- one text goes on with the form, the other with what replaces it
  have hheads := congrArg (fun cs => (cs.map fold).head?) (List.append_cancel_left heq)
  cases p with
  | mark c => exact (rewrites_regular r hr).not_first rfl hfirst
  | word w =>
    have hne : w.map fold ≠ [] :=
      (rewrites_regular r hr).key_ne_nil (Rewrite.first_subset hfirst)
    have hne' : r.replacement.map fold ≠ [] := fun hnil => by
      have hlast := rewrites_last r hr
      rw [List.map_eq_nil_iff.mp hnil] at hlast
      cases hlast
    simp only [Piece.text, List.map_append, List.head?_append_of_ne_nil _ hne,
      List.head?_append_of_ne_nil _ hne'] at hheads
    exact (rewrites_parenthesis r hr hr' _ hfirst).1 hheads.symm

/-- Where a form runs out, some text without quotes is not rewritten on its own. -/
lemma exists_of_unfinished {r : Rewrite} (hr : r ∈ rewrites) (h : r.Unfinished cs) :
    ∃ ds, ds.any isQuote = false ∧
      rewritePlain (cs ++ ds) ≠ rewritePlain cs ++ rewritePlain ds := by
  obtain ⟨words, ⟨-, ⟨more, hphrase⟩, hend⟩, qs, rest, hqs, hdrop, hgap⟩ :=
    (unfinished_iff (rewrites_regular r hr)).mp h
  by_cases hmore : more = []
  · have hwords : r.phrase = words := by rw [← hphrase, hmore, List.append_nil]
    have hr' : r.beforeParenthesis = false := hend.resolve_left (fun h => h hwords.symm)
    exact ⟨['('], rfl, rewritePlain_parenthesis hr hr' hqs (hwords ▸ hdrop) hgap⟩
  · refine ⟨_, ?_, rewritePlain_completed hr hphrase.symm hmore hqs hdrop hgap⟩
    have hwritable : Writable more := fun word hword =>
      rewrites_writable r hr word (hphrase ▸ List.mem_append_right words hword)
    rw [List.any_eq_false]
    intro c hc
    have hquote : ∀ c, IsSmallLetter c → ¬ isQuote c = true := by
      intro c hc hq
      simp only [isQuote, Bool.or_eq_true, beq_iff_eq] at hq
      rcases hq with (rfl | rfl) | rfl <;> exact absurd hc (by decide)
    rcases List.mem_cons.mp hc with rfl | hc
    · decide
    · rcases mem_spell_missing hwritable hc with rfl | hc
      · decide
      · exact hquote c hc

end TableSchema.Source
