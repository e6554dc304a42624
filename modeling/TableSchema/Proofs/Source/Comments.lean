import TableSchema.Proofs.Source.Completion
import TableSchema.Proofs.Source.Regions

/-!
Comments inside a statement.

A comment is not told from the text around it. Its quotes open and close regions like any others,
and its last words may begin a form that goes on after it. These are the only two ways in which a
comment can change how the text around it is rewritten.
-/

namespace TableSchema.Source

open Text

/-- A comment: up to the end of the line, or up to an asterisk before a slash. Nothing is asked of
what stands between. -/
inductive Comment where
  | dashes (body : String)
  | hash (body : String)
  | block (body : String)
  deriving DecidableEq, Repr

namespace Comment

def text : Comment → String
  | dashes body => "-- " ++ body ++ "\n"
  | hash body => "#" ++ body ++ "\n"
  | block body => "/*" ++ body ++ "*/"

/-- A comment begins with a character that goes on with nothing before it. -/
lemma text_head (c : Comment) : ∃ d ds, c.text.toList = d :: ds ∧ isQuote d = false ∧
    isWord d = false ∧ isBlank d = false ∧ d ≠ '(' := by
  cases c with
  | dashes body => exact ⟨'-', ['-', ' '] ++ body.toList ++ ['\n'], by simp [text], by decide⟩
  | hash body => exact ⟨'#', body.toList ++ ['\n'], by simp [text], by decide⟩
  | block body => exact ⟨'/', ['*'] ++ body.toList ++ ['*', '/'], by simp [text], by decide⟩

lemma text_getLast? (c : Comment) : ∃ d, c.text.toList.getLast? = some d ∧ isQuote d = false ∧
    isWord d = false ∧ d ≠ '\\' := by
  cases c with
  | dashes | hash => exact ⟨'\n', by rw [text, String.toList_append, List.getLast?_append]; rfl,
      by decide⟩
  | block => exact ⟨'/', by rw [text, String.toList_append, List.getLast?_append]; rfl, by decide⟩

end Comment

variable {r : Rewrite} {cs ds before : List Char} {p : List Char}

/-! ### Forms that run out -/

lemma isWord_of_isQuote {c : Char} (h : isQuote c = true) :
    isWord c = false ∧ isBlank c = false := by
  simp only [isQuote, Bool.or_eq_true, beq_iff_eq] at h
  rcases h with (rfl | rfl) | rfl <;> decide

lemma isWord_or_isBlank_of_pieces {ps : List Piece} (h : Proper ps)
    (hps : ∀ p ∈ ps, p.isGap = true ∨ p.key ≠ []) :
    ∀ c ∈ spell ps, isWord c = true ∨ isBlank c = true := by
  intro c hc
  induction ps with
  | nil => cases hc
  | cons p ps ih =>
    rw [spell_cons, List.mem_append] at hc
    rcases hc with hc | hc
    · cases p with
      | mark d =>
        obtain rfl := List.mem_singleton.mp hc
        exact (hps _ List.mem_cons_self).imp_right (absurd rfl ·) |>.symm
      | word w => exact .inl (h.1.2 c hc)
    · exact ih h.tail (fun p hp => hps p (List.mem_cons_of_mem _ hp)) hc

lemma isWord_or_isBlank_of_dropWords? {words : List (List (List Char))} {rest : List Char}
    (hw : ∀ word ∈ words, Lettered word) (h : Rewrite.dropWords? words cs = some rest)
    (hrest : ∀ c ∈ rest, isBlank c = true) : ∀ c ∈ cs, isWord c = true ∨ isBlank c = true := by
  have hproper := proper_pieces cs
  rw [← spell_pieces cs] at h ⊢
  rw [dropWords?_spell hw hproper] at h
  obtain ⟨after, hdrop, rfl⟩ := Option.map_eq_some_iff.mp h
  obtain ⟨form, hform, -, hmem⟩ := dropForm?_eq_some hdrop
  refine isWord_or_isBlank_of_pieces hproper fun p hp => ?_
  rw [hform] at hp hproper
  rcases List.mem_append.mp hp with hp | hp
  · refine (hmem p hp).imp_right fun hkey => ?_
    obtain ⟨word, hword, hkey⟩ := List.mem_flatten.mp hkey
    exact (hw word hword _ hkey).1
  · exact .inl ((isGap_iff_of_proper hproper.of_append).mpr hrest p hp)

lemma unfinished_append (hr : r.Regular)
    (hbefore : before = [] ∨ before.getLast?.any isQuote = true) :
    r.Unfinished (before ++ p) ↔ r.Unfinished p := by
  constructor
  · rintro ⟨words, hwords, front, form, rest, heq, hend, hdrop, hrest⟩
    have hform := isWord_or_isBlank_of_dropWords?
      (fun word hw => hr.lettered word (hwords.2.1.subset hw)) hdrop hrest
    rcases List.append_eq_append_iff.mp heq with ⟨middle, rfl, rfl⟩ | ⟨middle, rfl, rfl⟩
    · refine ⟨words, hwords, middle, form, rest, rfl, ?_, hdrop, hrest⟩
      rw [List.getLast?_append] at hend
      rcases hlast : middle.getLast? with _ | d
      · rfl
      · rwa [hlast] at hend
    · rcases hlast : middle.getLast? with _ | d
      · obtain rfl := List.getLast?_eq_none_iff.mp hlast
        exact ⟨words, hwords, [], _, rest, rfl, rfl, hdrop, hrest⟩
      · -- the form would hold the quote in which the text before ends
        have hmem : d ∈ middle := List.mem_of_getLast? hlast
        rw [List.getLast?_append, hlast] at hbefore
        rcases hbefore with hnil | hquote
        · rw [(List.append_eq_nil_iff.mp hnil).2] at hmem
          cases hmem
        · rcases hform d (List.mem_append_left _ hmem) with hd | hd
          · rw [(isWord_of_isQuote hquote).1] at hd
            cases hd
          · rw [(isWord_of_isQuote hquote).2] at hd
            cases hd
  · rintro ⟨words, hwords, front, form, rest, rfl, hend, hdrop, hrest⟩
    refine ⟨words, hwords, before ++ front, form, rest, by simp, ?_, hdrop, hrest⟩
    rw [List.getLast?_append]
    rcases hfront : front.getLast? with _ | d
    · rcases hbefore with rfl | hbefore
      · rfl
      · obtain ⟨d, hd, hquote⟩ := (Option.any_eq_true _ _).mp hbefore
        rw [hd]
        exact (isWord_of_isQuote hquote).1
    · rwa [hfront] at hend

/-- A comment that ends in a slash ends all forms. -/
lemma Comment.not_unfinished_block (body : String) (hr : r.Regular) :
    ¬ r.Unfinished (block body).text.toList := by
  rintro ⟨words, hwords, front, form, rest, heq, -, hdrop, hrest⟩
  have hlettered : ∀ word ∈ words, Lettered word := fun word hw =>
    hr.lettered word (hwords.2.1.subset hw)
  have htext : (block body).text.toList = ("/*".toList ++ body.toList ++ ['*']) ++ ['/'] := by
    simp [text]
  rcases List.eq_nil_or_concat form with rfl | ⟨form, d, rfl⟩
  · have hnil : Rewrite.dropWords? words [] = (dropForm? words []).map spell :=
      dropWords?_spell hlettered (proper_pieces [])
    rw [hnil, dropForm?_nil] at hdrop
    cases hdrop
  · rw [htext, List.concat_eq_append, ← List.append_assoc] at heq
    obtain rfl : d = '/' := by simpa using (List.append_inj_right' heq rfl).symm
    have hslash := isWord_or_isBlank_of_dropWords? hlettered hdrop hrest '/' (by simp)
    exact absurd hslash (by decide)

/-! ### Comments that part a statement -/

/-- A text that parts what is before it from what is after it: each of the three is rewritten as if
it stood by itself. -/
def Parts (cs : List Char) : Prop :=
  ∀ as bs, Closed as → Closed bs → rewrite (as ++ cs ++ bs) = rewrite as ++ rewrite cs ++ rewrite bs

lemma head?_consPlain (c : Char) (xs : List Segment) :
    ∃ p, (consPlain c xs).head? = some (.plain (c :: p)) := by
  rcases xs with _ | ⟨p | p, xs⟩
  · exact ⟨[], rfl⟩
  · exact ⟨p, rfl⟩
  · exact ⟨[], rfl⟩

variable (c : Comment)

/-- What follows a comment has the regions that it has alone, or ends one that the comment opens. -/
lemma Comment.partsSegments_or : PartsSegments c.text.toList ∨ Waits c.text.toList := by
  obtain ⟨e, hlast, hquote, -, hslash⟩ := c.text_getLast?
  exact Source.partsSegments_or (by rw [hlast, Option.any_some, hquote])
    (by simpa [hlast] using hslash)

/-- The plain text in which a comment ends: a form runs out in the comment if it does there. -/
lemma Comment.segments_last : ∃ ss p, segments c.text.toList = ss ++ [.plain p] ∧
    p.getLast?.any isWord = false ∧
      ∀ r ∈ rewrites, r.Unfinished c.text.toList ↔ r.Unfinished p := by
  obtain ⟨d, ds, htext, -⟩ := c.text_head
  obtain ⟨e, hlast, hquote, hword, -⟩ := c.text_getLast?
  have hend : c.text.toList.getLast?.any isQuote = false := by rw [hlast, Option.any_some, hquote]
  obtain ⟨ss, p, hss, hp, hsplit, hbefore⟩ := endsPlain (by simp [htext]) hend
  refine ⟨ss, p, hss, ?_, fun r hr => ?_⟩
  · rw [hsplit, List.getLast?_append_of_ne_nil _ hp] at hlast
    rw [hlast, Option.any_some, hword]
  · rw [hsplit]
    exact unfinished_append (rewrites_regular r hr) (hbefore.imp_left (by rintro rfl; rfl))

/-- What keeps a comment from changing the text around it. -/
lemma parts_of_atRest (hrest : AtRest c.text.toList)
    (hforms : ∀ r ∈ rewrites, ¬ r.Unfinished c.text.toList) : Parts c.text.toList := by
  obtain ⟨d, ds, htext, hquote, hword, hblank, hparen⟩ := c.text_head
  obtain ⟨ss, p, hss, hend, hunfinished⟩ := c.segments_last
  have hparts : PartsSegments c.text.toList :=
    c.partsSegments_or.resolve_right fun h => h.not_atRest hrest
  intro as bs has hbs
  have hhead : (c.text.toList ++ bs).head?.any isQuote = false := by
    rw [htext]
    simp [hquote]
  -- the text before meets the first character of the comment, the text after its last segment
  have hfront : ∀ x y, (segments as).getLast? = some (.plain x) →
      (segments (c.text.toList ++ bs)).head? = some (.plain y) →
        rewritePlain (x ++ y) = rewritePlain x ++ rewritePlain y := by
    intro x y _ hy
    obtain ⟨z, hz⟩ := head?_consPlain d (segments (ds ++ bs))
    rw [htext, List.cons_append, segments_cons hquote, hz] at hy
    cases hy
    exact rewritePlain_append_of_mark hword hblank hparen x z
  have hback : ∀ x y, (segments c.text.toList).getLast? = some (.plain x) →
      (segments bs).head? = some (.plain y) →
        rewritePlain (x ++ y) = rewritePlain x ++ rewritePlain y := by
    intro x y hx _
    rw [hss, List.getLast?_concat] at hx
    cases hx
    exact rewritePlain_append_of_finished hend
      (fun r hr hr' => hforms r hr ((hunfinished r hr).mpr hr')) y
  rw [List.append_assoc, List.append_assoc, rewrite, segments_append_of_closed has hhead,
    rewrite_glue hfront, hparts bs, rewrite_glue hback]
  rfl

/-- A region that a comment leaves open swallows what follows. -/
lemma atRest_of_parts (h : Parts c.text.toList) : AtRest c.text.toList := by
  by_contra hrest
  obtain ⟨q, hq, hregion⟩ := c.partsSegments_or.resolve_left fun hparts => hrest hparts.atRest
  -- a literal of which the comment takes the first quote, so that its text is rewritten
  have hq' : q = '\'' ∨ q = '"' ∨ q = '\x60' := by
    simpa only [isQuote, Bool.or_eq_true, beq_iff_eq, or_assoc] using hq
  have hliteral : Closed (q :: ("LONG VARCHAR".toList ++ [q])) ∧
      ∃ front back, rewrite (q :: ("LONG VARCHAR".toList ++ [q])) = front ++ ['R', q] ∧
        rewrite ("LONG VARCHAR".toList ++ [q]) = back ++ [')', q] := by
    refine ⟨?_, q :: "LONG VARCHA".toList, "MEDIUMTEXT CHECK (cdc_ddl_long_varchar".toList, ?_, ?_⟩
    all_goals rcases hq' with rfl | rfl | rfl <;> decide +kernel
  obtain ⟨hclosed, front, back, hkept, hchanged⟩ := hliteral
  have hhead : ("LONG VARCHAR".toList ++ [q]).head? = some 'L' := rfl
  obtain ⟨ss, region, hss⟩ := hregion ("LONG VARCHAR".toList ++ [q]) (by
    rw [hhead]
    rintro ⟨⟩
    exact absurd hq (by decide))
  have heq := h [] (q :: ("LONG VARCHAR".toList ++ [q])) (by decide) hclosed
  have hswallowed : rewrite (c.text.toList ++ q :: ("LONG VARCHAR".toList ++ [q])) =
      ss.flatMap Segment.rewrite ++ region ++ back ++ [')', q] := by
    rw [rewrite, hss, List.flatMap_append, List.flatMap_cons, ← rewrite, hchanged]
    simp [Segment.rewrite]
  rw [List.nil_append, hswallowed, hkept, ← List.append_assoc] at heq
  have hends : [')', q] = ['R', q] := List.append_inj_right' heq rfl
  cases hends

/-- A form that runs out in a comment goes on after it. -/
lemma not_unfinished_of_parts (h : Parts c.text.toList) :
    ∀ r ∈ rewrites, ¬ r.Unfinished c.text.toList := by
  obtain ⟨ss, p, hss, -, hunfinished⟩ := c.segments_last
  have hparts : PartsSegments c.text.toList :=
    c.partsSegments_or.resolve_right fun hwaits => hwaits.not_atRest (atRest_of_parts c h)
  intro r hr hr'
  obtain ⟨bs, hbs, hne⟩ := exists_of_unfinished hr ((hunfinished r hr).mp hr')
  refine hne ?_
  rcases bs with _ | ⟨b, bs⟩
  · rw [show rewritePlain [] = [] by decide, List.append_nil, List.append_nil]
  have hsegments : segments (b :: bs) = [.plain (b :: bs)] := by
    have hplain : segments ((b :: bs) ++ []) = (b :: bs).foldr consPlain (segments []) :=
      segments_plain hbs
    rwa [List.append_nil, foldr_consPlain (by simp [segments, segmentsFrom]) (by simp)] at hplain
  have hclosed : Closed (b :: bs) := by
    intro s hs
    rw [hsegments, List.mem_singleton] at hs
    subst hs
    exact hbs
  have heq := h [] (b :: bs) (by decide) hclosed
  have hnil : rewrite [] = [] := rfl
  rw [List.nil_append, hnil, rewrite, rewrite, rewrite, hparts, hss, hsegments, glue_concat] at heq
  simpa [Segment.rewrite] using heq

/-- The law for texts is the one for their characters. -/
lemma Comment.exists_normalize_iff :
    (∃ c', ∀ a b : String, Closed a.toList → Closed b.toList →
        normalize (a ++ c.text ++ b) = normalize a ++ c' ++ normalize b) ↔
      Parts c.text.toList := by
  have hnormalize : ∀ s, (normalize s).toList = rewrite s.toList := fun s => String.toList_ofList
  constructor
  · rintro ⟨c', h⟩ as bs has hbs
    have hself : normalize c.text = c' := by
      have hempty := h "" "" (by decide) (by decide)
      rwa [show normalize "" = "" by decide, String.empty_append, String.append_empty,
        String.empty_append, String.append_empty] at hempty
    have hsplit := h (.ofList as) (.ofList bs) (by rwa [String.toList_ofList])
      (by rwa [String.toList_ofList])
    simpa [hnormalize, ← hself] using congrArg String.toList hsplit
  · intro h
    refine ⟨normalize c.text, fun a b ha hb => String.toList_inj.mp ?_⟩
    simpa [hnormalize] using h a.toList b.toList ha hb

/-- **Comments**: a comment leaves the text around it alone just if it leaves no region open and no
form runs out in it. In a comment that ends in a slash no form ever does. -/
theorem Comment.parts_iff :
    ((∃ c', ∀ a b : String, Closed a.toList → Closed b.toList →
        normalize (a ++ c.text ++ b) = normalize a ++ c' ++ normalize b) ↔
      AtRest c.text.toList ∧ ∀ r ∈ rewrites, ¬ r.Unfinished c.text.toList) ∧
      ∀ body, c = block body → ∀ r ∈ rewrites, ¬ r.Unfinished c.text.toList := by
  refine ⟨?_, ?_⟩
  · rw [c.exists_normalize_iff]
    exact ⟨fun h => ⟨atRest_of_parts c h, not_unfinished_of_parts c h⟩,
      fun h => parts_of_atRest c h.1 h.2⟩
  · rintro body rfl r hr
    exact not_unfinished_block body (rewrites_regular r hr)

/-- The apostrophe of a comment opens a region, which the first quote of a string after it closes.
The text of the string is rewritten. -/
theorem Comment.apostrophe_opens :
    Closed "CREATE TABLE t (a INT ".toList ∧ Closed " COMMENT 'LONG VARCHAR')".toList ∧
      ¬ ∃ c', normalize ("CREATE TABLE t (a INT " ++ (dashes "it's").text ++
          " COMMENT 'LONG VARCHAR')") =
        normalize "CREATE TABLE t (a INT " ++ c' ++ normalize " COMMENT 'LONG VARCHAR')" := by
  refine ⟨by decide, by decide +kernel, ?_⟩
  rintro ⟨c', h⟩
  have hrewritten : (normalize ("CREATE TABLE t (a INT " ++ (dashes "it's").text ++
        " COMMENT 'LONG VARCHAR')")).toList =
      "CREATE TABLE t (a INT -- it's\n COMMENT 'MEDIUMTEXT CHECK (cdc_ddl_long_varchar".toList ++
        ")')".toList := by
    decide +kernel
  have hkept : (normalize " COMMENT 'LONG VARCHAR')").toList =
      " COMMENT 'LONG VARCHA".toList ++ "R')".toList := by
    decide +kernel
  have hlists := congrArg String.toList h
  rw [hrewritten, String.toList_append, hkept, ← List.append_assoc] at hlists
  exact absurd (List.append_inj_right' hlists (by decide)) (by decide)

end TableSchema.Source
