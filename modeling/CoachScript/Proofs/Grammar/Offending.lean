import CoachScript.Proofs.Grammar.Boundary
import CoachScript.Proofs.Grammar.Segments
import CoachScript.Proofs.Grammar.Tiling
import CoachScript.Proofs.Text.Blank

/-!
# The line that a syntax fault names

* `Lexeme.plainEnds_word`: no word begins or ends with a blank.
* `exists_front`: a text that is cut where a token begins is scanned as the tokens before it, and on as the
  others, unless that token is a line feed.
* `Stands`, `exists_stands`: where a word stands in a text. What is in front of it is scanned as the words
  before it.
* `Covered`, `exists_covered`: the part of a text that words cover which follow one another.
* `Segment.Offends`: the segment is no line. `readSegments_error`: the first of these is refused.
* `segmentsOfWords_cuts`: terminated cuts are cut as they are.
* **`readListing_offending`**: a text that is scanned, but not read, is refused with the source of the first
  segment that is no line; what is in front of it is read.
-/

namespace CoachScript

/-! ### Words have no blanks at their ends -/

namespace Lexeme

theorem isBlank_of_isNameRest {c : Char} (h : isNameRest c) : isBlank c = false := by
  rw [Bool.eq_false_iff]
  intro hblank
  have hname : isNameRest c = false :=
    blank_induction (p := fun d => isNameRest d = false) (by decide +kernel) hblank
  rw [hname] at h
  cases h

theorem isBlank_digits {digits : List Char} (h : isDigits digits) : ∀ c ∈ digits, isBlank c = false :=
  fun c hc => isBlank_of_isNameRest (isNameRest_of_digit ((isDigits_iff.mp h).2 c hc))

theorem isBlank_sign {sign : List Char} (h : sign = [] ∨ sign = ['-']) : ∀ c ∈ sign, isBlank c = false := by
  rcases h with rfl | rfl
  · exact nofun
  · exact List.forall_mem_singleton.mpr (by decide)

/-- **No word begins or ends with a blank.** -/
theorem plainEnds_word {l : Lexeme} (h : IsFirst l) (hword : l.token.isTrivia = false) :
    PlainEnds l.text := by
  cases h with
  | blanks | newline | comment => cases hword
  | string =>
    -- what is inside may be blank, but the quotes are not
    refine ⟨by rintro c ⟨⟩; decide, fun c hc => ?_⟩
    rw [← List.cons_append, List.getLast?_concat] at hc
    cases hc
    decide
  | integer hsign hdigits =>
    exact .of_forall (List.forall_mem_append.mpr ⟨isBlank_sign hsign, isBlank_digits hdigits⟩)
  | float hsign hwhole hfraction =>
    refine .of_forall (List.forall_mem_append.mpr ⟨List.forall_mem_append.mpr
      ⟨isBlank_sign hsign, isBlank_digits hwhole⟩, List.forall_mem_cons.mpr ⟨by decide, ?_⟩⟩)
    exact isBlank_digits hfraction
  | word hc htext =>
    exact .of_forall (List.forall_mem_cons.mpr
      ⟨isBlank_of_isNameRest (isNameRest_of_start hc), fun d hd => isBlank_of_isNameRest (htext d hd)⟩)
  | dot => exact .of_forall (List.forall_mem_singleton.mpr (by decide))
  | delimiter d => exact .of_forall (List.forall_mem_singleton.mpr (by cases d <;> decide))

end Lexeme

/-! ### Where a word stands -/

section Scanning

variable {place : Position} {text : List Char}

theorem scan_nil (place : Position) : scan place [] = ⟨[], place, []⟩ := scan_of_none rfl

/-- The first token of a scan is the first lexeme of the text. -/
theorem exists_first {t : Located} {ts : List Located} (h : (scan place text).tokens = t :: ts) :
    ∃ l, Lexeme.first? text = some l ∧ t = ⟨l.token, place, (place.advance l.text).offset⟩ ∧
      (scan (place.advance l.text) l.rest).tokens = ts := by
  cases hfirst : Lexeme.first? text with
  | none =>
    rw [scan_of_none hfirst] at h
    cases h
  | some l =>
    rw [scan_of_some hfirst] at h
    obtain ⟨rfl, hmore⟩ := List.cons.inj h
    exact ⟨l, rfl, rfl, hmore⟩

/-- **A text is cut where a token begins.** The scan goes on there with this token. What is in front of it is
scanned as the tokens before it, unless it is a line feed. -/
theorem exists_front {us vs : List Located} (h : (scan place text).tokens = us ++ vs) :
    ∃ front back, text = front ++ back ∧ (scan (place.advance front) back).tokens = vs ∧
      ((∀ c ∈ back.head?, c ≠ '\n') → scan place front = ⟨us, place.advance front, []⟩) := by
  induction us generalizing place text with
  | nil => exact ⟨[], text, rfl, h, fun _ => scan_nil place⟩
  | cons u us ih =>
    obtain ⟨l, hfirst, rfl, hmore⟩ := exists_first h
    obtain ⟨front, back, hrest, hback, hfront⟩ := ih hmore
    refine ⟨l.text ++ front, back, ?_, ?_, fun hfeed => ?_⟩
    · rw [List.append_assoc, ← hrest, Lexeme.text_append_rest hfirst]
    · rwa [Position.advance_append]
    · obtain ⟨hends, hsame⟩ := Lexeme.settled_first hfirst
      rw [hrest] at hends
      rw [scan_of_some (hsame front (hends.of_append hfeed))]
      dsimp only
      rw [hfront hfeed, Position.advance_append]

/-- The word `w` is the lexeme `l`, which stands in the text behind `front`, and behind the words `ws`. -/
structure Stands (place : Position) (text front : List Char) (l : Lexeme) (ws : List Located) (w : Located) :
    Prop where
  split : text = front ++ (l.text ++ l.rest)
  first : Lexeme.first? (l.text ++ l.rest) = some l
  word : l.token.isTrivia = false
  eq : w = ⟨l.token, place.advance front, (place.advance (front ++ l.text)).offset⟩
  rest : (scan place front).rest = []
  words : words (scan place front).tokens = ws

theorem Stands.plain {front : List Char} {l : Lexeme} {ws : List Located} {w : Located}
    (h : Stands place text front l ws w) : PlainEnds l.text :=
  Lexeme.plainEnds_word (Lexeme.isFirst_of_first h.first) h.word

/-- **Every word stands somewhere**, and the words behind it are found from there on. -/
theorem exists_stands {ws more : List Located} {w : Located}
    (h : words (scan place text).tokens = ws ++ w :: more) :
    ∃ front l, Stands place text front l ws w ∧
      words (scan (place.advance front) (l.text ++ l.rest)).tokens = w :: more := by
  obtain ⟨us, vs, hsplit, hus, hvs⟩ := List.filter_eq_append_iff.mp h
  obtain ⟨gap, later, rfl, hgap, hw, hlater⟩ := List.filter_eq_cons_iff.mp hvs
  rw [← List.append_assoc] at hsplit
  obtain ⟨front, back, rfl, hback, hfront⟩ := exists_front hsplit
  obtain ⟨l, hfirst, rfl, -⟩ := exists_first hback
  have hword : l.token.isTrivia = false := by simpa using hw
  have hends := (Lexeme.plainEnds_word (Lexeme.isFirst_of_first hfirst) hword).head
  have hfeed : ∀ c ∈ back.head?, c ≠ '\n' := by
    rintro c hc rfl
    obtain ⟨d, tail, htext⟩ := List.exists_cons_of_ne_nil (Lexeme.text_ne_nil hfirst)
    rw [← Lexeme.text_append_rest hfirst, htext] at hc
    cases hc
    exact absurd (hends '\n' (by rw [htext]; rfl)) (by decide)
  have hscan := hfront hfeed
  rw [← Lexeme.text_append_rest hfirst] at hback ⊢
  refine ⟨front, l, ⟨rfl, ?_, hword, ?_, ?_, ?_⟩, ?_⟩
  · rwa [Lexeme.text_append_rest hfirst]
  · rw [Position.advance_append]
  · rw [hscan]
  · have hnone : words gap = [] := List.filter_eq_nil_iff.mpr hgap
    rw [hscan]
    show words (us ++ gap) = ws
    rw [words, List.filter_append, hus]
    exact (congrArg (ws ++ ·) hnone).trans (List.append_nil ws)
  · rw [hback, ← hlater]
    exact List.filter_cons_of_pos hw

/-- The words `run` are in the text between `before` and `after`, from the first character of the first of
them to the last character of the last. -/
structure Covered (text before part after : List Char) (run : List Located) : Prop where
  split : text = before ++ part ++ after
  ne_nil : part ≠ []
  first : ∀ t ∈ run.head?, t.first = .behind before
  last : ∀ t ∈ run.getLast?, t.stop = (Position.behind (before ++ part)).offset

/-- **Words that follow one another cover a part of the text**, which no blanks begin or end. What is in
front of it is scanned as the words before them. -/
theorem exists_covered {earlier run later : List Located} (hrun : run ≠ [])
    (h : words (scan .start text).tokens = earlier ++ (run ++ later)) :
    ∃ before part after, Covered text before part after run ∧ trim part = part ∧
      (scan .start before).rest = [] ∧ words (scan .start before).tokens = earlier := by
  obtain ⟨w, more, rfl⟩ := List.exists_cons_of_ne_nil hrun
  rw [List.cons_append] at h
  obtain ⟨before, l, hfirst, hback⟩ := exists_stands h
  obtain ⟨init, v, hinit⟩ := (List.eq_nil_or_concat' (w :: more)).resolve_left hrun
  have hsplit : w :: (more ++ later) = init ++ v :: later := by
    rw [← List.cons_append, hinit, List.append_assoc, List.singleton_append]
  rw [hsplit] at hback
  obtain ⟨mid, l', hlast, -⟩ := exists_stands hback
  have hplace (front : List Char) : Position.start.advance front = .behind front := by
    rw [← Position.behind_nil, Position.advance_behind, List.nil_append]
  have hne : l'.text ≠ [] := Lexeme.text_ne_nil hlast.first
  have hpart : mid ++ l'.text ≠ [] := fun hnil => hne (List.append_eq_nil_iff.mp hnil).2
  have hrest : l.text ++ l.rest = mid ++ l'.text ++ l'.rest := by rw [List.append_assoc, ← hlast.split]
  refine ⟨before, mid ++ l'.text, l'.rest, ⟨?_, hpart, ?_, ?_⟩, PlainEnds.trim_eq ⟨?_, ?_⟩,
    hfirst.rest, hfirst.words⟩
  · rw [hfirst.split, hrest, List.append_assoc before]
  · rintro t ⟨⟩
    rw [hfirst.eq, hplace]
  · rw [hinit, List.getLast?_concat]
    rintro t ⟨⟩
    rw [hlast.eq, hplace]
    exact congrArg Position.offset (Position.advance_behind before _)
  · have hhead : (mid ++ l'.text).head? = l.text.head? := by
      have hfront : l.text ≠ [] := Lexeme.text_ne_nil hfirst.first
      have hboth := congrArg List.head? hrest
      rw [List.head?_append_of_ne_nil _ hfront, List.head?_append_of_ne_nil _ hpart] at hboth
      exact hboth.symm
    rw [hhead]
    exact hfirst.plain.head
  · rw [List.getLast?_append_of_ne_nil _ hne]
    exact hlast.plain.last

end Scanning

/-! ### The first segment that is no line -/

/-- The segment has tokens, but is not terminated, or they derive no line. -/
def Segment.Offends (s : Segment) : Prop :=
  s.tokens ≠ [] ∧ (s.terminated = false ∨ ∀ t : LineTree, t.tokens ≠ s.tokens)

theorem Segment.offends_iff {s : Segment} :
    s.Offends ↔ s.tokens ≠ [] ∧ ∃ cause, readLine s = .error cause := by
  refine and_congr_right fun _ => ?_
  cases hread : readLine s with
  | error cause =>
    refine iff_of_true ?_ ⟨cause, rfl⟩
    by_contra hline
    obtain ⟨hterminated, t, ht⟩ : s.terminated = true ∧ ∃ t : LineTree, t.tokens = s.tokens := by
      simpa using hline
    have hok := (readLine_iff s t.line).mpr ⟨hterminated, t, ht, rfl⟩
    rw [hread] at hok
    cases hok
  | ok l =>
    obtain ⟨hterminated, t, ht, -⟩ := (readLine_iff s l).mp hread
    exact iff_of_false (by rintro (h | h); exacts [by simp [h] at hterminated, h t ht]) nofun

/-- Segments that do not offend are read, whatever text they are from: each that has tokens as a line. -/
theorem exists_readSegments {ss : List Segment} (h : ∀ s ∈ ss, ¬ s.Offends) (source : String) :
    ∃ ls, readSegments source ss = .ok ls ∧
      (ss.filter (!·.tokens.isEmpty)).map readLine = ls.map .ok := by
  induction ss with
  | nil => exact ⟨[], rfl, rfl⟩
  | cons s ss ih =>
    obtain ⟨hs, hss⟩ := List.forall_mem_cons.mp h
    obtain ⟨ls, hread, hlines⟩ := ih hss
    by_cases hempty : s.tokens = []
    · refine ⟨ls, (readSegments_cons_empty hempty ss).trans hread, ?_⟩
      rwa [List.filter_cons_of_neg (by simp [hempty])]
    · cases hline : readLine s with
      | error cause => exact absurd (Segment.offends_iff.mpr ⟨hempty, cause, hline⟩) hs
      | ok l =>
        refine ⟨l :: ls, (readSegments_cons_iff hempty ss _).mpr ⟨l, ls, hline, hread, rfl⟩, ?_⟩
        rw [List.filter_cons_of_pos (by simpa using hempty), List.map_cons, hline, hlines, List.map_cons]

/-- **The first segment that offends is refused.** -/
theorem readSegments_error {source : String} {ss : List Segment} {e : SyntaxFault}
    (h : readSegments source ss = .error e) :
    ∃ earlier s later, ss = earlier ++ s :: later ∧ (∀ u ∈ earlier, ¬ u.Offends) ∧ s.Offends ∧
      e.snippet = s.snippet source ∧ e.line = s.line := by
  induction ss with
  | nil => cases h
  | cons s ss ih =>
    have hmore (hs : ¬ s.Offends) (h : readSegments source ss = .error e) :
        ∃ earlier u later, s :: ss = earlier ++ u :: later ∧ (∀ u ∈ earlier, ¬ u.Offends) ∧ u.Offends ∧
          e.snippet = u.snippet source ∧ e.line = u.line := by
      obtain ⟨earlier, u, later, rfl, hearlier, hrest⟩ := ih h
      exact ⟨s :: earlier, u, later, rfl, List.forall_mem_cons.mpr ⟨hs, hearlier⟩, hrest⟩
    by_cases hempty : s.tokens = []
    · rw [readSegments_cons_empty hempty] at h
      exact hmore (fun hs => hs.1 hempty) h
    · rw [readSegments, if_neg (by simpa using hempty)] at h
      cases hline : readLine s with
      | error cause =>
        rw [hline] at h
        cases h
        have hoffends : s.Offends := Segment.offends_iff.mpr ⟨hempty, cause, hline⟩
        exact ⟨[], s, ss, rfl, List.forall_mem_nil _, hoffends, rfl, rfl⟩
      | ok l =>
        rw [hline] at h
        have hs : ¬ s.Offends := by
          intro hs
          obtain ⟨-, cause, herror⟩ := Segment.offends_iff.mp hs
          rw [hline] at herror
          cases herror
        rcases hrest : readSegments source ss with e' | ls
        · rw [hrest] at h
          cases h
          exact hmore hs hrest
        · rw [hrest] at h
          cases h

/-! ### Cuts are cut as they are -/

theorem Cut.Proper.lineTokens {c : Cut} (h : c.Proper) (hterminated : c.terminator.isSome)
    (more : List Located) : CoachScript.lineTokens 0 (c.all ++ more) = (c.line, c.terminator, more) := by
  obtain ⟨line, terminator⟩ := c
  obtain ⟨d, rfl⟩ := Option.isSome_iff_exists.mp hterminated
  have hends := h.ends d rfl
  unfold all
  rw [List.append_assoc]
  exact lineTokens_append h.staysOpen (by rwa [Int.zero_add])

/-- **Terminated cuts are cut as they are.** -/
theorem segmentsOfWords_cuts {cuts : List Cut} (h : ∀ c ∈ cuts, c.Proper ∧ c.terminator.isSome) :
    segmentsOfWords (cuts.flatMap Cut.all) = cuts.map Cut.segment := by
  induction cuts with
  | nil => exact segmentsOfWords.eq_1
  | cons c cuts ih =>
    obtain ⟨⟨hproper, hterminated⟩, hmore⟩ := List.forall_mem_cons.mp h
    have hcut := hproper.lineTokens hterminated (cuts.flatMap Cut.all)
    obtain ⟨t, more, hall, -⟩ := Cut.exists_start hproper.ne_nil
    rw [List.flatMap_cons, hall, List.cons_append]
    rw [hall, List.cons_append] at hcut
    have hfront : Cut.front (t :: (more ++ cuts.flatMap Cut.all)) = c := by
      unfold Cut.front
      rw [hcut]
    rw [segmentsOfWords, Cut.segment_front, hfront, hcut, ih hmore, List.map_cons]

/-! ### The fault -/

/-- A segment is where its cut is. -/
theorem Covered.segment {text before part after : List Char} {c : Cut}
    (h : Covered text before part after c.all) (hne : c.all ≠ []) :
    c.segment.start = (Position.behind before).offset ∧
      c.segment.stop = (Position.behind (before ++ part)).offset ∧
      c.segment.line = (Position.behind before).line := by
  obtain ⟨t, ht⟩ := Option.ne_none_iff_exists'.mp (mt List.head?_eq_none_iff.mp hne)
  obtain ⟨u, hu⟩ := Option.ne_none_iff_exists'.mp (mt List.getLast?_eq_none_iff.mp hne)
  unfold Cut.segment
  dsimp only
  rw [ht, hu]
  exact ⟨congrArg Position.offset (h.first t ht), h.last u hu, congrArg Position.line (h.first t ht)⟩

/-- The fault names the cut `c` behind `earlier`: the first whose segment is no line. The snippet is the
source of `c`, and what is in front of it is read as the lines of the segments before it. -/
structure SyntaxFault.Names (e : SyntaxFault) (source : String) (earlier : List Cut) (c : Cut)
    (before snippet after : List Char) : Prop where
  none_before : ∀ d ∈ earlier, ¬ d.segment.Offends
  offends : c.segment.Offends
  covered : Covered source.toList before snippet after c.all
  line : e.line = (Position.behind before).line
  snippet : e.snippet = String.ofList snippet
  accepted : ∃ ls, readListing (String.ofList before) = .ok ls ∧
    ((earlier.map Cut.segment).filter (!·.tokens.isEmpty)).map readLine = ls.map .ok

/-- **A syntax fault names the first line that is none.** -/
theorem readListing_offending {source : String} {ts : List Located} {e : SyntaxFault}
    (hts : tokens? source = .ok ts) (h : readListing source = .error e) :
    ∃ earlier c later before snippet after,
      segments ts = (earlier ++ c :: later).map Cut.segment ∧
      (earlier ++ c :: later).flatMap Cut.all = words ts ∧ (∀ d ∈ earlier ++ c :: later, d.Proper) ∧
      e.Names source earlier c before snippet after := by
  rw [readListing, hts] at h
  obtain ⟨cuts, hsegments, hall, hproper, hterminated⟩ := exists_cuts (words ts)
  obtain ⟨ss, s, us, hss, hearlier, hoffends, hsnippet, hline⟩ := readSegments_error h
  obtain ⟨earlier, rest, rfl, rfl, hrest⟩ := List.map_eq_append_iff.mp (hsegments.symm.trans hss)
  obtain ⟨c, later, rfl, rfl, rfl⟩ := List.map_eq_cons_iff.mp hrest
  have hnone : ∀ d ∈ earlier, ¬ d.segment.Offends := fun d hd => hearlier _ (List.mem_map_of_mem hd)
  have hne : c.all ≠ [] := (hproper c (by simp)).ne_nil
  have hclosed : ∀ d ∈ earlier, d.Proper ∧ d.terminator.isSome := by
    intro d hd
    refine ⟨hproper d (List.mem_append_left _ hd), hterminated d ?_⟩
    rw [List.dropLast_append_of_ne_nil (List.cons_ne_nil c later)]
    exact List.mem_append_left _ hd
  obtain ⟨-, rfl⟩ := tokens?_eq_ok_iff.mp hts
  have hwords : words (scan .start source.toList).tokens =
      earlier.flatMap Cut.all ++ (c.all ++ later.flatMap Cut.all) := by
    rw [← hall, List.flatMap_append, List.flatMap_cons]
  obtain ⟨before, snippet, after, hcovered, htrim, hend, hbefore⟩ := exists_covered hne hwords
  obtain ⟨hstart, hstop, hplace⟩ := hcovered.segment hne
  refine ⟨earlier, c, later, before, snippet, after, hsegments, hall, hproper,
    ⟨hnone, hoffends, hcovered, hline.trans hplace, ?_, ?_⟩⟩
  · rw [hsnippet, Segment.snippet, hstart, hstop, hcovered.split, byteSlice_behind]
    exact congrArg String.ofList htrim
  · obtain ⟨ls, hread, hlines⟩ := exists_readSegments hearlier (String.ofList before)
    have htokens : tokens? (String.ofList before) = .ok (scan .start before).tokens :=
      tokens?_eq_ok_iff.mpr (by rw [String.toList_ofList]; exact ⟨hend, rfl⟩)
    refine ⟨ls, ?_, hlines⟩
    rw [readListing, htokens]
    show readSegments _ (segmentsOfWords (words (scan .start before).tokens)) = _
    rw [hbefore, segmentsOfWords_cuts hclosed]
    exact hread

/-- A line with a semicolon inside a literal, behind a line, an empty one and a remark. -/
theorem readListing_offending_literal :
    let source := "TRUE : é : ;; // ; x\n\ta() : \"é;\" b ;\nc"
    ∃ ts e, tokens? source = .ok ts ∧ readListing source = .error e ∧ e.line = 2 ∧
      e.snippet = "a() : \"é;\" b ;" ∧ ∃ earlier c later before snippet after,
        segments ts = (earlier ++ c :: later).map Cut.segment ∧
        (earlier ++ c :: later).flatMap Cut.all = words ts ∧ (∀ d ∈ earlier ++ c :: later, d.Proper) ∧
        e.Names source earlier c before snippet after := by
  intro source
  have hts : (tokens? source).toOption.isSome := by decide +kernel
  have hread : (readListing source).toOption = none := by decide +kernel
  cases htokens : tokens? source with
  | error e => rw [htokens] at hts; cases hts
  | ok ts =>
    cases h : readListing source with
    | ok ls => rw [h] at hread; cases hread
    | error e =>
      have hplace : (match readListing source with
        | .ok _ => none
        | .error e => some (e.line, e.snippet)) = some (2, "a() : \"é;\" b ;") := by decide +kernel
      rw [h] at hplace
      obtain ⟨hline, hsnippet⟩ := Prod.mk.inj (Option.some.inj hplace)
      exact ⟨ts, e, rfl, rfl, hline, hsnippet, readListing_offending htokens h⟩

end CoachScript
