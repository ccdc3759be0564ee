import CoachScript.Proofs.Grammar.Script
import Mathlib.Data.List.Basic
import Mathlib.Tactic.SplitIfs

/-!
# Segments of any sequence of tokens

The tokens need not make up a script: brackets may be missing, stray or closed twice.

* `Cut`, `Cut.segment`: the tokens of one line with the semicolon that ends it, and their segment.
* `Cut.Proper`: the semicolons of a cut are where they belong. Proper cuts make up the words of every
  sequence (`exists_cuts`).
* `Cutting`: a pass over the tokens that counts open brackets and skips layout on the way. What it has cut
  and what is still to come stay the same from token to token (`Cutting.coming_next`), so it cuts the
  same segments (`cutInOnePass_eq`).
* `Segmentation`: what the segments of a sequence are.
* **`segmentation_segments`**: the segments of a sequence are a segmentation of its words, and one pass
  cuts them, with layout or without.
-/

namespace CoachScript

/-! ### Brackets -/

/-- The number of opening brackets among the tokens. -/
def opened (ts : List Token) : Nat :=
  ts.countP (· ∈ [.delimiter .openParen, .delimiter .openBrace])

/-- The number of closing brackets among the tokens. -/
def closed (ts : List Token) : Nat :=
  ts.countP (· ∈ [.delimiter .closeParen, .delimiter .closeBrace])

theorem nestingOf_eq (ts : List Token) : nestingOf ts = opened ts - closed ts := by
  induction ts with
  | nil => rfl
  | cons t ts ih =>
    have hone : t.nesting = opened [t] - closed [t] := by
      rcases t with _ | _ | _ | d | _
      case delimiter => cases d <;> rfl
      all_goals rfl
    have hopened : opened ([t] ++ ts) = opened [t] + opened ts := List.countP_append
    have hclosed : closed ([t] ++ ts) = closed [t] + closed ts := List.countP_append
    rw [List.singleton_append] at hopened hclosed
    rw [nestingOf_cons, ih, hone, hopened, hclosed]
    push_cast
    omega

/-! ### Cuts -/

/-- The tokens of one line, and the semicolon that ends it. -/
structure Cut where
  line : List Located
  terminator : Option Located

namespace Cut

/-- All tokens of a cut. -/
def all (c : Cut) : List Located := c.line ++ c.terminator.toList

/-- The segment of a cut: it begins where its first token does and stops where its last token does. -/
def segment (c : Cut) : Segment where
  tokens := c.line.map (·.token)
  start := c.all.head?.elim 0 (·.first.offset)
  stop := c.all.getLast?.elim 0 (·.stop)
  line := c.all.head?.elim 0 (·.first.line)
  terminated := c.terminator.isSome

/-- The cut has a token, no token before its terminator ends the line, and the terminator does. -/
structure Proper (c : Cut) : Prop where
  ne_nil : c.all ≠ []
  staysOpen : StaysOpen 0 (c.line.map (·.token))
  ends : ∀ d ∈ c.terminator, d.token.endsLine (nestingOf (c.line.map (·.token)))

/-- The first cut of a sequence of tokens. -/
def front (ws : List Located) : Cut := ⟨(lineTokens 0 ws).1, (lineTokens 0 ws).2.1⟩

end Cut

theorem staysOpen_lineTokens (depth : Int) (ws : List Located) :
    StaysOpen depth ((lineTokens depth ws).1.map (·.token)) ∧
      ∀ d ∈ (lineTokens depth ws).2.1,
        d.token.endsLine (depth + nestingOf ((lineTokens depth ws).1.map (·.token))) := by
  induction ws generalizing depth with
  | nil => exact ⟨trivial, nofun⟩
  | cons w ws ih =>
    rw [lineTokens]
    split
    next hends =>
      refine ⟨trivial, ?_⟩
      rintro d ⟨⟩
      rwa [List.map_nil, nestingOf_nil, Int.add_zero]
    next hends =>
      obtain ⟨hopen, hterminator⟩ := ih (depth + w.token.nesting)
      refine ⟨staysOpen_cons.mpr ⟨by simpa using hends, hopen⟩, fun d hd => ?_⟩
      rw [List.map_cons, nestingOf_cons, ← Int.add_assoc]
      exact hterminator d hd

/-- Only the end of the sequence leaves a line without its semicolon. -/
theorem lineTokens_rest_of_none {depth : Int} {ws : List Located}
    (h : (lineTokens depth ws).2.1 = none) : (lineTokens depth ws).2.2 = [] := by
  induction ws generalizing depth with
  | nil => rfl
  | cons w ws ih =>
    rw [lineTokens] at h ⊢
    split at h
    next => cases h
    next hends =>
      rw [if_neg hends]
      exact ih h

namespace Cut

theorem front_append (ws : List Located) : (front ws).all ++ (lineTokens 0 ws).2.2 = ws :=
  lineTokens_join 0 ws

theorem exists_front_all (t : Located) (ts : List Located) :
    ∃ more, (front (t :: ts)).all = t :: more := by
  have hjoin := front_append (t :: ts)
  have hshorter := lineTokens_rest_length_lt 0 t ts
  cases hall : (front (t :: ts)).all with
  | nil =>
    rw [hall, List.nil_append] at hjoin
    rw [hjoin] at hshorter
    exact absurd hshorter (Nat.lt_irrefl _)
  | cons u more =>
    rw [hall] at hjoin
    rw [(List.cons.inj hjoin).1]
    exact ⟨more, rfl⟩

theorem proper_front (t : Located) (ts : List Located) : (front (t :: ts)).Proper := by
  obtain ⟨hopen, hends⟩ := staysOpen_lineTokens 0 (t :: ts)
  obtain ⟨more, hall⟩ := exists_front_all t ts
  refine ⟨by rw [hall]; nofun, hopen, fun d hd => ?_⟩
  have hd' := hends d hd
  rwa [Int.zero_add] at hd'

theorem segment_front (t : Located) (ts : List Located) :
    segmentOf t (lineTokens 0 (t :: ts)).1 (lineTokens 0 (t :: ts)).2.1 = (front (t :: ts)).segment := by
  obtain ⟨more, hall⟩ := exists_front_all t ts
  have hlast : (front (t :: ts)).all.getLast? =
      ((front (t :: ts)).terminator <|> (front (t :: ts)).line.getLast?) := by
    unfold all
    rw [List.getLast?_append]
    cases (front (t :: ts)).terminator <;> rfl
  have hstop : ((front (t :: ts)).all.getLast?).elim t.stop (·.stop) =
      ((front (t :: ts)).all.getLast?).elim 0 (·.stop) := by
    rw [hall, List.getLast?_cons]
    rfl
  unfold segmentOf segment
  rw [← hstop, hlast, hall]
  rfl

end Cut

/-- **The segments of a sequence are those of proper cuts that make it up**; only the last can lack its
terminator. -/
theorem exists_cuts (ws : List Located) :
    ∃ cuts : List Cut, segmentsOfWords ws = cuts.map Cut.segment ∧ cuts.flatMap Cut.all = ws ∧
      (∀ c ∈ cuts, c.Proper) ∧ ∀ c ∈ cuts.dropLast, c.terminator.isSome := by
  induction ws using segmentsOfWords.induct with
  | case1 => exact ⟨[], by rw [segmentsOfWords]; rfl, rfl, nofun, nofun⟩
  | case2 t ts cut ih =>
    obtain ⟨cuts, hsegments, hall, hproper, hterminated⟩ := ih
    refine ⟨.front (t :: ts) :: cuts, ?_, ?_, ?_, ?_⟩
    · rw [segmentsOfWords, Cut.segment_front, hsegments]
      rfl
    · rw [List.flatMap_cons, hall]
      exact Cut.front_append (t :: ts)
    · exact List.forall_mem_cons.mpr ⟨Cut.proper_front t ts, hproper⟩
    · intro c hc
      cases cuts with
      | nil => cases hc
      | cons c' cuts =>
        rcases List.mem_cons.mp hc with rfl | hc
        · rw [Option.isSome_iff_ne_none]
          intro hnone
          have hrest : cut.2.2 = [] := lineTokens_rest_of_none hnone
          rw [hrest, List.flatMap_cons] at hall
          exact (hproper c' List.mem_cons_self).ne_nil (List.append_eq_nil_iff.mp hall).1
        · exact hterminated c hc

/-! ### One pass -/

/-- How far a pass over the tokens has come: the segments that are done, the one that is being filled,
and how many more brackets were opened than closed in it. -/
structure Cutting where
  done : List Segment
  current : Option Segment
  depth : Int

namespace Cutting

/-- Nothing is cut. -/
def start : Cutting := ⟨[], none, 0⟩

/-- The segment that begins with the token, without any token so far. -/
def begun (t : Located) : Segment := ⟨[], t.first.offset, t.stop, t.first.line, false⟩

/-- The segment that the token belongs to, up to the token's end. -/
def reached (s : Cutting) (t : Located) : Segment := { s.current.getD (begun t) with stop := t.stop }

/-- One more token: layout is skipped, and a semicolon at depth zero or below ends the segment. -/
def next (s : Cutting) (t : Located) : Cutting :=
  if t.token.isTrivia then s
  else if t.token.endsLine s.depth then ⟨s.done ++ [{ s.reached t with terminated := true }], none, 0⟩
  else
    ⟨s.done, some { s.reached t with tokens := (s.reached t).tokens ++ [t.token] },
      s.depth + t.token.nesting⟩

/-- The segments, with the one that was not ended. -/
def finish (s : Cutting) : List Segment := s.done ++ s.current.toList

/-- The segment that is being filled has no terminator; where there is none, no bracket is open. -/
structure Good (s : Cutting) : Prop where
  current : ∀ g ∈ s.current, g.terminated = false
  depth : s.current = none → s.depth = 0

/-- The segment filled with what its line still has. -/
def filled (g : Segment) (line : List Located) (terminator : Option Located) : Segment :=
  { g with
    tokens := g.tokens ++ line.map (·.token)
    stop := (terminator <|> line.getLast?).elim g.stop (·.stop)
    terminated := terminator.isSome }

/-- The segments that are still to come from words. -/
def coming (s : Cutting) (ws : List Located) : List Segment :=
  match s.current with
  | none => segmentsOfWords ws
  | some g =>
    let cut := lineTokens s.depth ws
    filled g cut.1 cut.2.1 :: segmentsOfWords cut.2.2

variable {s : Cutting}

theorem good_start : start.Good := ⟨nofun, fun _ => rfl⟩

theorem good_next (h : s.Good) (t : Located) : (s.next t).Good := by
  have hreached : (s.reached t).terminated = false := by
    unfold reached
    cases hcurrent : s.current with
    | none => rfl
    | some g => exact h.current g hcurrent
  unfold next
  split_ifs
  · exact h
  · exact ⟨nofun, fun _ => rfl⟩
  · refine ⟨?_, nofun⟩
    rintro g ⟨⟩
    exact hreached

theorem coming_cons (h : s.Good) (w : Located) (ws : List Located) :
    s.coming (w :: ws) =
      filled (s.current.getD (begun w)) (lineTokens s.depth (w :: ws)).1
          (lineTokens s.depth (w :: ws)).2.1 ::
        segmentsOfWords (lineTokens s.depth (w :: ws)).2.2 := by
  unfold coming
  cases hcurrent : s.current with
  | none =>
    rw [h.depth hcurrent, segmentsOfWords]
    rfl
  | some g => rfl

theorem filled_cons (g : Segment) (w : Located) (line : List Located) (terminator : Option Located) :
    filled g (w :: line) terminator =
      filled { g with stop := w.stop, tokens := g.tokens ++ [w.token] } line terminator := by
  unfold filled
  rw [List.map_cons, List.getLast?_cons, List.append_assoc, List.singleton_append]
  cases terminator with
  | some d => rfl
  | none => cases line.getLast? <;> rfl

/-- What is cut and what is still to come are together the same before and after a word. -/
theorem coming_next (h : s.Good) {w : Located} (hw : w.token.isTrivia = false) (ws : List Located) :
    (s.next w).done ++ (s.next w).coming ws = s.done ++ s.coming (w :: ws) := by
  rw [coming_cons h, lineTokens, next, hw, if_neg Bool.false_ne_true]
  split_ifs with hends
  · have hended : filled (s.current.getD (begun w)) [] (some w) =
        { s.reached w with terminated := true } := by
      unfold filled reached
      rw [List.map_nil, List.append_nil]
      rfl
    rw [hended, List.append_assoc]
    rfl
  · rw [filled_cons]
    rfl

theorem filled_nil {g : Segment} (h : g.terminated = false) : filled g [] none = g := by
  unfold filled
  rw [List.map_nil, List.append_nil, Option.isSome_none, ← h]
  rfl

theorem next_trivia {t : Located} (h : t.token.isTrivia) : s.next t = s := by
  rw [next, if_pos h]

/-- **A pass over the tokens cuts what is still to come.** -/
theorem finish_foldl (h : s.Good) (ts : List Located) :
    (ts.foldl next s).finish = s.done ++ s.coming (words ts) := by
  induction ts generalizing s with
  | nil =>
    rw [List.foldl_nil, words, List.filter_nil, finish, coming]
    cases hcurrent : s.current with
    | none =>
      rw [segmentsOfWords]
      rfl
    | some g =>
      dsimp only [lineTokens]
      rw [filled_nil (h.current g hcurrent), segmentsOfWords]
      rfl
  | cons t ts ih =>
    rw [List.foldl_cons, ih (good_next h t), words, words, List.filter_cons]
    cases ht : t.token.isTrivia with
    | true =>
      rw [next_trivia ht]
      rfl
    | false => exact coming_next h ht _

/-- A token opens or closes one bracket at most. -/
theorem natAbs_depth_next (s : Cutting) (t : Located) :
    (s.next t).depth.natAbs ≤ s.depth.natAbs + 1 := by
  have hnesting : t.token.nesting.natAbs ≤ 1 := by
    rcases t.token with _ | _ | _ | d | _
    case delimiter => cases d <;> decide
    all_goals exact Nat.zero_le 1
  unfold next
  split_ifs
  · exact Nat.le_succ _
  · exact Nat.zero_le _
  · exact Nat.le_trans (Int.natAbs_add_le _ _) (Nat.add_le_add_left hnesting _)

theorem natAbs_depth_foldl (s : Cutting) (ts : List Located) :
    (ts.foldl next s).depth.natAbs ≤ s.depth.natAbs + ts.length := by
  induction ts generalizing s with
  | nil => exact Nat.le_refl _
  | cons t ts ih =>
    have hfirst := natAbs_depth_next s t
    have hmore := ih (s.next t)
    rw [List.foldl_cons, List.length_cons]
    omega

end Cutting

/-- The segments of a sequence of tokens, in one pass over it. -/
def cutInOnePass (ts : List Located) : List Segment := (ts.foldl Cutting.next .start).finish

theorem words_words (ts : List Located) : words (words ts) = words ts := by simp [words]

/-- **One pass cuts the same segments, whether layout is removed first or not.** -/
theorem cutInOnePass_eq (ts : List Located) : cutInOnePass ts = segments ts :=
  Cutting.finish_foldl Cutting.good_start ts

/-! ### What the segments are -/

/-- The segments of a sequence of words. -/
structure Segmentation (ws : List Located) (ss : List Segment) : Prop where
  lossless : ss.flatMap (fun s => s.tokens ++ if s.terminated then [.delimiter .semicolon] else []) =
    ws.map (·.token)
  terminated : ∀ s ∈ ss.dropLast, s.terminated
  unterminated : ∀ s ∈ ss, s.terminated = false → s.tokens ≠ []
  covers : ∃ cuts : List Cut, ss = cuts.map Cut.segment ∧ cuts.flatMap Cut.all = ws ∧
    ∀ c ∈ cuts, c.all ≠ []
  start_le_stop : ∀ s ∈ ss, s.start ≤ s.stop
  start_lt_stop : (∀ w ∈ ws, w.first.offset < w.stop) → ∀ s ∈ ss, s.start < s.stop
  disjoint : ss.Pairwise fun s u => s.stop ≤ u.start
  kept : ∀ s ∈ ss, ∀ before after, s.tokens = before ++ .delimiter .semicolon :: after →
    closed before < opened before
  ended : ∀ s ∈ ss, s.terminated → opened s.tokens ≤ closed s.tokens

namespace Cut

variable {c : Cut}

theorem Proper.terminator_eq (h : c.Proper) {d : Located} (hd : c.terminator = some d) :
    d.token = .delimiter .semicolon ∧ opened c.segment.tokens ≤ closed c.segment.tokens := by
  have hends := h.ends d hd
  simp only [Token.endsLine, Bool.and_eq_true, beq_iff_eq, decide_eq_true_eq, nestingOf_eq] at hends
  obtain ⟨hsemicolon, hdepth⟩ := hends
  have hle : opened (c.line.map (·.token)) ≤ closed (c.line.map (·.token)) := by omega
  exact ⟨hsemicolon, hle⟩

/-- The tokens of a segment and its semicolon are those of its cut. -/
theorem Proper.tokens_segment (h : c.Proper) :
    (c.segment.tokens ++ if c.segment.terminated then [.delimiter .semicolon] else []) =
      c.all.map (·.token) := by
  unfold segment all
  cases hterminator : c.terminator with
  | none => simp
  | some d => simp [(h.terminator_eq hterminator).1]

theorem Proper.kept (h : c.Proper) {before after : List Token}
    (hsplit : c.segment.tokens = before ++ .delimiter .semicolon :: after) :
    closed before < opened before := by
  have hopen := h.staysOpen
  have htokens : c.line.map (·.token) = before ++ .delimiter .semicolon :: after := hsplit
  rw [htokens, staysOpen_append, staysOpen_cons, Int.zero_add, nestingOf_eq] at hopen
  have hsemicolon := hopen.2.1
  simp only [Token.endsLine, beq_self_eq_true, Bool.true_and, decide_eq_false_iff_not] at hsemicolon
  omega

theorem exists_start (h : c.all ≠ []) :
    ∃ t more, c.all = t :: more ∧ c.segment.start = t.first.offset := by
  obtain ⟨t, more, hall⟩ := List.exists_cons_of_ne_nil h
  refine ⟨t, more, hall, ?_⟩
  unfold segment
  rw [hall]
  rfl

theorem exists_stop (h : c.all ≠ []) : ∃ t ∈ c.all, c.segment.stop = t.stop := by
  refine ⟨c.all.getLast h, List.getLast_mem h, ?_⟩
  unfold segment
  rw [List.getLast?_eq_some_getLast h]
  rfl

/-- The range of a segment begins with that of its first token. -/
theorem exists_covered (h : c.all ≠ []) (hspan : ∀ t ∈ c.all, t.first.offset ≤ t.stop)
    (hdisjoint : c.all.Pairwise fun t u => t.stop ≤ u.first.offset) :
    ∃ t ∈ c.all, c.segment.start = t.first.offset ∧ t.stop ≤ c.segment.stop := by
  obtain ⟨t, more, hall, hstart⟩ := exists_start h
  obtain ⟨u, hu, hstop⟩ := exists_stop h
  have hlast := hspan u hu
  refine ⟨t, by rw [hall]; exact List.mem_cons_self, hstart, ?_⟩
  rw [hall] at hu hdisjoint
  rw [hstop]
  rcases List.mem_cons.mp hu with rfl | hu
  · exact Nat.le_refl _
  · exact Nat.le_trans ((List.pairwise_cons.mp hdisjoint).1 u hu) hlast

theorem stop_le_start {c' : Cut} (h : c.all ≠ []) (h' : c'.all ≠ [])
    (hbetween : ∀ t ∈ c.all, ∀ u ∈ c'.all, t.stop ≤ u.first.offset) :
    c.segment.stop ≤ c'.segment.start := by
  obtain ⟨t, ht, hstop⟩ := exists_stop h
  obtain ⟨u, more, hall, hstart⟩ := exists_start h'
  rw [hstop, hstart]
  exact hbetween t ht u (by rw [hall]; exact List.mem_cons_self)

end Cut

/-- **The segments of words with disjoint places are a segmentation of them.** -/
theorem segmentation_segmentsOfWords {ws : List Located} (hspan : ∀ t ∈ ws, t.first.offset ≤ t.stop)
    (hdisjoint : ws.Pairwise fun t u => t.stop ≤ u.first.offset) :
    Segmentation ws (segmentsOfWords ws) := by
  obtain ⟨cuts, hsegments, rfl, hproper, hterminated⟩ := exists_cuts ws
  obtain ⟨hinside, hbetween⟩ := List.pairwise_flatMap.mp hdisjoint
  have hmem {c : Cut} {t : Located} (hc : c ∈ cuts) (ht : t ∈ c.all) : t ∈ cuts.flatMap Cut.all :=
    List.mem_flatMap.mpr ⟨c, hc, ht⟩
  have hcovered (c : Cut) (hc : c ∈ cuts) :=
    Cut.exists_covered (hproper c hc).ne_nil (fun t ht => hspan t (hmem hc ht)) (hinside c hc)
  rw [hsegments]
  constructor
  · rw [List.flatMap_map, List.map_flatMap]
    exact List.flatMap_congr fun c hc => (hproper c hc).tokens_segment
  · rw [← List.map_dropLast, List.forall_mem_map]
    exact hterminated
  · rw [List.forall_mem_map]
    intro c hc hnone hempty
    have htokens := (hproper c hc).tokens_segment
    rw [hempty, hnone] at htokens
    exact (hproper c hc).ne_nil (List.map_eq_nil_iff.mp htokens.symm)
  · exact ⟨cuts, rfl, rfl, fun c hc => (hproper c hc).ne_nil⟩
  · rw [List.forall_mem_map]
    intro c hc
    obtain ⟨t, ht, hstart, hstop⟩ := hcovered c hc
    have hle := hspan t (hmem hc ht)
    omega
  · intro hlong
    rw [List.forall_mem_map]
    intro c hc
    obtain ⟨t, ht, hstart, hstop⟩ := hcovered c hc
    have hlt := hlong t (hmem hc ht)
    omega
  · rw [List.pairwise_map]
    exact hbetween.imp_of_mem fun hc hc' =>
      Cut.stop_le_start (hproper _ hc).ne_nil (hproper _ hc').ne_nil
  · rw [List.forall_mem_map]
    exact fun c hc before after => (hproper c hc).kept
  · rw [List.forall_mem_map]
    intro c hc hsome
    obtain ⟨d, hd⟩ := Option.isSome_iff_exists.mp hsome
    exact ((hproper c hc).terminator_eq hd).2

/-- **The segments of every sequence of tokens with disjoint places are a segmentation of its words.** One
pass over the tokens cuts them, whether layout is removed first or not, and its count of brackets is never
further from zero than the number of tokens. -/
theorem segmentation_segments (ts : List Located) (hspan : ∀ t ∈ ts, t.first.offset ≤ t.stop)
    (hdisjoint : ts.Pairwise fun t u => t.stop ≤ u.first.offset) :
    Segmentation (words ts) (segments ts) ∧ cutInOnePass ts = segments ts ∧
      cutInOnePass (words ts) = segments ts ∧
      ∀ read more, ts = read ++ more →
        (read.foldl Cutting.next .start).depth.natAbs ≤ read.length := by
  refine ⟨segmentation_segmentsOfWords (fun t ht => hspan t (List.mem_filter.mp ht).1)
    (hdisjoint.filter _), cutInOnePass_eq ts, ?_, fun read more _ => ?_⟩
  · rw [cutInOnePass_eq, segments, segments, words_words]
  · have hdepth := Cutting.natAbs_depth_foldl .start read
    rwa [Cutting.start, Int.natAbs_zero, Nat.zero_add] at hdepth

/-- A closing bracket and no opening one, a semicolon between brackets, and no semicolon at the end. -/
theorem segmentation_segments_stray :
    let ts := (scan .start "); // a\n(;) b; c".toList).tokens
    (∀ t ∈ ts, t.first.offset ≤ t.stop) ∧ (ts.Pairwise fun t u => t.stop ≤ u.first.offset) ∧
      Segmentation (words ts) (segments ts) ∧
      (segments ts).map (fun s => (s.start, s.stop, s.terminated)) =
        [(0, 2, true), (8, 14, true), (15, 16, false)] := by
  intro ts
  have hspan : ∀ t ∈ ts, t.first.offset ≤ t.stop := by decide +kernel
  have hdisjoint : ts.Pairwise fun t u => t.stop ≤ u.first.offset := by decide +kernel
  exact ⟨hspan, hdisjoint, (segmentation_segments ts hspan hdisjoint).1, by decide +kernel⟩

end CoachScript
