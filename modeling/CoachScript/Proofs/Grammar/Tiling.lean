import CoachScript.Proofs.Grammar.Kinds
import Mathlib.Data.List.Chain
import Mathlib.Data.List.DropRight

/-!
# Places of tokens

A scan counts bytes, lines and columns as it goes, apart from the text that it still has to read.

* `Position.behind`: the place behind a text, said at once; counting character by character leads there
  (`Position.advance_behind`).
* `Lexed read rest`: in front of `rest`, lexemes one after another make up `read`.
* `readPart`: the part of a text that is scanned, wherever the scan begins. **No longer part of the text
  can be lexed** (`Lexed.prefix_readPart`).
* `Located.Lies`: a token covers its lexeme, which is the text between its bounds (`Located.Lies.slice`).
* `Tiling`: the tokens cover what was read, each beginning where the one before it stops
  (`tiling_scan`).
* `scanAll_behind`: a scan that follows others begins behind all that they have read.
* **`tokens?_tiling`**: the tokens of a text tile it, an error is behind all that could be lexed, and a
  scan that follows others goes on behind what those have read.
-/

namespace CoachScript

/-! ### The place behind a text -/

namespace Position

/-- The place behind a text: the bytes of the text, one line more than it has line feeds, and one column
more than it has characters behind the last of them. -/
def behind (text : List Char) : Position where
  offset := (String.ofList text).utf8ByteSize
  line := 1 + text.count '\n'
  column := 1 + (text.rtakeWhile (· != '\n')).length

theorem behind_nil : behind [] = start := rfl

theorem next_behind (text : List Char) (c : Char) : (behind text).next c = behind (text ++ [c]) := by
  unfold next behind
  by_cases hc : c = '\n'
  · subst hc
    simp [Nat.add_assoc]
    rfl
  · have hplain : (c != '\n') = true := by simpa using hc
    simp [hc, hplain, List.count_append, Nat.add_assoc]

/-- **Counting character by character leads to the place behind the text.** -/
theorem advance_behind (before text : List Char) :
    (behind before).advance text = behind (before ++ text) := by
  induction text generalizing before with
  | nil => simp
  | cons c text ih => rw [advance_cons, next_behind, ih, List.append_assoc, List.singleton_append]

end Position

/-! ### What is read -/

/-- In front of `rest`, lexemes one after another make up `read`. -/
inductive Lexed : List Char → List Char → Prop
  | nil {rest : List Char} : Lexed [] rest
  | cons {token : Token} {piece read rest : List Char}
      (hpiece : Lexeme.IsFirst ⟨token, piece, read ++ rest⟩) (h : Lexed read rest) : Lexed (piece ++ read) rest

/-- The part of a text that a scan reads. -/
def readPart (text : List Char) : List Char :=
  text.take (text.length - (scan .start text).rest.length)

variable {text : List Char} {l : Lexeme}

theorem rest_scan_place (place other : Position) (text : List Char) :
    (scan place text).rest = (scan other text).rest := by
  induction text using Lexeme.induction generalizing place other with
  | stop text hfirst => rw [scan_of_none hfirst, scan_of_none hfirst]
  | step text l hfirst ih =>
    rw [rest_scan_of_first place hfirst, rest_scan_of_first other hfirst]
    exact ih _ _

/-- A scan stops behind the part that it has read, and leaves the rest. -/
theorem exists_read (place : Position) (text : List Char) :
    ∃ read, read ++ (scan place text).rest = text ∧ (scan place text).stop = place.advance read := by
  induction text using Lexeme.induction generalizing place with
  | stop text hfirst =>
    rw [scan_of_none hfirst]
    exact ⟨[], rfl, rfl⟩
  | step text l hfirst ih =>
    obtain ⟨read, hread, hstop⟩ := ih (place.advance l.text)
    rw [scan_of_some hfirst]
    refine ⟨l.text ++ read, ?_, ?_⟩
    · rw [List.append_assoc, hread, Lexeme.text_append_rest hfirst]
    · rw [Position.advance_append]
      exact hstop

theorem readPart_eq (place : Position) {read : List Char}
    (h : read ++ (scan place text).rest = text) : readPart text = read := by
  have hlength := congrArg List.length h
  rw [List.length_append, rest_scan_place place .start] at hlength
  unfold readPart
  rw [← hlength, Nat.add_sub_cancel]
  nth_rewrite 1 [← h]
  exact List.take_left

theorem readPart_append (place : Position) (text : List Char) :
    readPart text ++ (scan place text).rest = text := by
  obtain ⟨read, hread, -⟩ := exists_read place text
  rwa [readPart_eq place hread]

theorem stop_scan (place : Position) (text : List Char) :
    (scan place text).stop = place.advance (readPart text) := by
  obtain ⟨read, hread, hstop⟩ := exists_read place text
  rwa [readPart_eq place hread]

theorem readPart_of_none (h : Lexeme.first? text = none) : readPart text = [] :=
  readPart_eq .start (by rw [scan_of_none h]; rfl)

theorem readPart_of_first (h : Lexeme.first? text = some l) :
    readPart text = l.text ++ readPart l.rest := by
  refine readPart_eq .start ?_
  rw [rest_scan_of_first _ h, List.append_assoc, readPart_append, Lexeme.text_append_rest h]

theorem readPart_of_end {place : Position} (h : (scan place text).rest = []) : readPart text = text := by
  have hsplit := readPart_append place text
  rwa [h, List.append_nil] at hsplit

theorem lexed_readPart (place : Position) (text : List Char) :
    Lexed (readPart text) (scan place text).rest := by
  induction text using Lexeme.induction generalizing place with
  | stop text hfirst =>
    rw [readPart_of_none hfirst]
    exact .nil
  | step text l hfirst ih =>
    rw [readPart_of_first hfirst, rest_scan_of_first place hfirst]
    have hpiece : Lexeme.IsFirst ⟨l.token, l.text, l.rest⟩ := Lexeme.isFirst_of_first hfirst
    rw [← readPart_append (place.advance l.text) l.rest] at hpiece
    exact .cons hpiece (ih _)

/-- **No longer part of a text can be lexed.** -/
theorem Lexed.prefix_readPart {read rest : List Char} (h : Lexed read rest) :
    read <+: readPart (read ++ rest) := by
  induction h with
  | nil => exact List.nil_prefix
  | cons hpiece _ ih =>
    rw [List.append_assoc, readPart_of_first hpiece.first?]
    exact (List.prefix_append_right_inj _).mpr ih

/-! ### Where the tokens are -/

/-- The token begins behind `before` and is the lexeme `piece`, with `after` behind it. -/
structure Located.Lies (t : Located) (before piece after : List Char) : Prop where
  lexeme : Lexeme.IsFirst ⟨t.token, piece, after⟩
  ne_nil : piece ≠ []
  first_eq : t.first = .behind before
  stop_eq : t.stop = (Position.behind (before ++ piece)).offset

/-- Behind `before` and in front of `rest` the tokens cover `read`: the first begins where `before` ends,
each other one where the one before it stops, and the last stops where `read` ends. -/
structure Tiling (before read rest : List Char) (ts : List Located) : Prop where
  head : ∀ t ∈ ts.head?, t.first = .behind before
  chain : ts.IsChain fun t u => u.first.offset = t.stop
  last : ∀ t ∈ ts.getLast?, t.stop = (Position.behind (before ++ read)).offset
  covers : ts = [] → read = []
  lies : ∀ t ∈ ts, ∃ front piece back, read = front ++ piece ++ back ∧
    t.Lies (before ++ front) piece (back ++ rest)

theorem Tiling.nil (before rest : List Char) : Tiling before [] rest [] where
  head := nofun
  chain := .nil
  last := nofun
  covers _ := rfl
  lies := nofun

theorem Tiling.cons {before piece read rest : List Char} {t : Located} {ts : List Located}
    (ht : t.Lies before piece (read ++ rest)) (h : Tiling (before ++ piece) read rest ts) :
    Tiling before (piece ++ read) rest (t :: ts) where
  head := by
    rintro u ⟨⟩
    exact ht.first_eq
  chain := by
    refine List.isChain_cons.mpr ⟨fun u hu => ?_, h.chain⟩
    rw [h.head u hu, ht.stop_eq]
  last := by
    cases ts with
    | nil =>
      rintro u ⟨⟩
      rw [h.covers rfl, List.append_nil]
      exact ht.stop_eq
    | cons u ts =>
      rw [List.getLast?_cons_cons, ← List.append_assoc]
      exact h.last
  covers := nofun
  lies := by
    intro u hu
    rcases List.mem_cons.mp hu with rfl | hu
    · exact ⟨[], piece, read, rfl, by rwa [List.append_nil]⟩
    · obtain ⟨front, piece', back, rfl, hlies⟩ := h.lies u hu
      refine ⟨piece ++ front, piece', back, by simp only [List.append_assoc], ?_⟩
      rwa [← List.append_assoc]

/-- **The tokens of a scan tile what it reads.** -/
theorem tiling_scan (before text : List Char) :
    Tiling before (readPart text) (scan (.behind before) text).rest (scan (.behind before) text).tokens := by
  induction text using Lexeme.induction generalizing before with
  | stop text hfirst =>
    rw [readPart_of_none hfirst, scan_of_none hfirst]
    exact .nil before text
  | step text l hfirst ih =>
    rw [readPart_of_first hfirst, scan_of_some hfirst, Position.advance_behind]
    refine .cons ?_ (ih (before ++ l.text))
    rw [readPart_append]
    exact ⟨Lexeme.isFirst_of_first hfirst, Lexeme.text_ne_nil hfirst, rfl, rfl⟩

/-! ### The bounds are borders of characters -/

theorem offset_behind_cons (c : Char) (text : List Char) :
    (Position.behind (c :: text)).offset = c.utf8Size + (Position.behind text).offset := by
  show (String.ofList (c :: text)).utf8ByteSize = _
  rw [String.ofList_cons, String.utf8ByteSize_append, String.utf8ByteSize_singleton]
  rfl

theorem offset_behind_append (before text : List Char) :
    (Position.behind (before ++ text)).offset =
      (Position.behind before).offset + (Position.behind text).offset := by
  show (String.ofList (before ++ text)).utf8ByteSize = _
  rw [String.ofList_append, String.utf8ByteSize_append]
  rfl

/-- The bytes of a text begin with those of its first character. -/
theorem exists_offset_behind_cons (c : Char) (text : List Char) :
    ∃ n, (Position.behind (c :: text)).offset = n + 1 ∧ c.utf8Size ≤ n + 1 ∧
      n + 1 - c.utf8Size = (Position.behind text).offset := by
  have hcons := offset_behind_cons c text
  have hpos := c.utf8Size_pos
  exact ⟨(Position.behind (c :: text)).offset - 1, by omega, by omega, by omega⟩

theorem dropBytes_behind (before rest : List Char) :
    dropBytes (Position.behind before).offset (before ++ rest) = some rest := by
  induction before with
  | nil => cases rest <;> rfl
  | cons c before ih =>
    obtain ⟨n, hn, hle, hsub⟩ := exists_offset_behind_cons c before
    rw [hn, List.cons_append, dropBytes, if_pos hle, hsub, ih]

theorem takeBytes_behind (piece rest : List Char) :
    takeBytes (Position.behind piece).offset (piece ++ rest) = some piece := by
  induction piece with
  | nil => cases rest <;> rfl
  | cons c piece ih =>
    obtain ⟨n, hn, hle, hsub⟩ := exists_offset_behind_cons c piece
    rw [hn, List.cons_append, takeBytes, if_pos hle, hsub, ih]
    rfl

/-- The bytes between the places behind two front parts of a text are the part between them. -/
theorem byteSlice_behind (before piece after : List Char) :
    byteSlice (before ++ piece ++ after) (Position.behind before).offset
      (Position.behind (before ++ piece)).offset = some piece := by
  rw [byteSlice, offset_behind_append, if_pos (Nat.le_add_right _ _), Nat.add_sub_cancel_left,
    List.append_assoc, dropBytes_behind]
  exact takeBytes_behind piece after

/-- **The bytes between the bounds of a token are its lexeme.** -/
theorem Located.Lies.slice {t : Located} {before piece after : List Char}
    (h : t.Lies before piece after) :
    byteSlice (before ++ piece ++ after) t.first.offset t.stop = some piece := by
  rw [h.first_eq, h.stop_eq]
  exact byteSlice_behind before piece after

/-! ### A text by itself, and behind others -/

theorem tiling_of_ok {text : String} {ts : List Located} (h : tokens? text = .ok ts) :
    Tiling [] text.toList [] ts := by
  obtain ⟨hrest, rfl⟩ := tokens?_eq_ok_iff.mp h
  have htiling := tiling_scan [] text.toList
  rwa [Position.behind_nil, hrest, readPart_of_end hrest] at htiling

/-- An error is behind the part of the text that is read, and in front of the rest. -/
theorem error_behind_readPart {text : String} {e : LexError} (h : tokens? text = .error e) :
    text.toList = readPart text.toList ++ e.rest ∧ Lexed (readPart text.toList) e.rest ∧
      e.place = .behind (readPart text.toList) := by
  obtain ⟨-, hrest, hstop⟩ := tokens?_eq_error_iff.mp h
  have hsplit := readPart_append .start text.toList
  have hlexed := lexed_readPart .start text.toList
  rw [hrest] at hsplit hlexed
  refine ⟨hsplit.symm, hlexed, ?_⟩
  rw [← hstop, stop_scan, ← Position.behind_nil, Position.advance_behind, List.nil_append]

/-- What the texts have in front of the places where their scans stop. -/
def readParts (texts : List String) : List Char := texts.flatMap (readPart ·.toList)

theorem scanAll_append (place : Position) (earlier more : List String) :
    scanAll place (earlier ++ more) =
      scanAll place earlier ++ scanAll (place.advance (readParts earlier)) more := by
  induction earlier generalizing place with
  | nil => rfl
  | cons text earlier ih =>
    have hparts : readParts (text :: earlier) = readPart text.toList ++ readParts earlier :=
      List.flatMap_cons
    rw [hparts, Position.advance_append, List.cons_append, scanAll, scanAll, ih, stop_scan,
      List.cons_append]

/-- **A scan that follows others goes on behind all that they have read.** -/
theorem scanAll_behind (earlier : List String) (text : String) :
    scanAll .start (earlier ++ [text]) =
      scanAll .start earlier ++ [scan (.behind (readParts earlier)) text.toList] := by
  rw [scanAll_append, ← Position.behind_nil, Position.advance_behind]
  rfl

/-- **The tokens of a text tile it; an error is behind all that could be lexed, and shows the next twenty
characters; a scan that follows others tiles what it reads behind all that they have read.** -/
theorem tokens?_tiling (text : String) :
    (∀ ts, tokens? text = .ok ts → Tiling [] text.toList [] ts ∧
      ∀ t ∈ ts, (byteSlice text.toList t.first.offset t.stop).isSome) ∧
    (∀ e, tokens? text = .error e → ∃ read, text.toList = read ++ e.rest ∧ Lexed read e.rest ∧
      (∀ read' rest, text.toList = read' ++ rest → Lexed read' rest → read' <+: read) ∧
      e.place = .behind read ∧ e.found = String.ofList ((text.toList.drop read.length).take 20)) ∧
    ∀ earlier : List String, ∃ s : Scan,
      scanAll .start (earlier ++ [text]) = scanAll .start earlier ++ [s] ∧
      readPart text.toList ++ s.rest = text.toList ∧
      Tiling (readParts earlier) (readPart text.toList) s.rest s.tokens ∧
      s.stop = .behind (readParts (earlier ++ [text])) := by
  refine ⟨fun ts h => ?_, fun e h => ?_, fun earlier => ?_⟩
  · have htiling := tiling_of_ok h
    refine ⟨htiling, fun t ht => ?_⟩
    obtain ⟨front, piece, back, hsplit, hlies⟩ := htiling.lies t ht
    have hslice := hlies.slice
    rw [List.nil_append, List.append_nil, ← hsplit] at hslice
    rw [hslice]
    rfl
  · obtain ⟨hsplit, hlexed, hplace⟩ := error_behind_readPart h
    refine ⟨_, hsplit, hlexed, fun read' rest htext hlexed' => ?_, hplace, ?_⟩
    · rw [htext]
      exact hlexed'.prefix_readPart
    · have hdrop := congrArg (List.drop (readPart text.toList).length) hsplit
      rw [List.drop_left] at hdrop
      rw [hdrop]
      rfl
  · refine ⟨_, scanAll_behind earlier text, readPart_append _ _, tiling_scan _ _, ?_⟩
    rw [stop_scan, Position.advance_behind, readParts, readParts, List.flatMap_append,
      List.flatMap_singleton]

/-- A literal over two lines with a character of two bytes, and a text that is scanned up to its second
line. -/
theorem tokens?_tiling_lines :
    let text := "\"é\n\" ;"
    let broken := "a\n ?bcdefghijklmnopqrstuvwxyz"
    (∃ ts, tokens? text = .ok ts ∧ ts.map (·.first) = [⟨0, 1, 1⟩, ⟨5, 2, 2⟩, ⟨6, 2, 3⟩] ∧
      Tiling [] text.toList [] ts) ∧
    ∃ e, tokens? broken = .error e ∧ e.place = ⟨3, 2, 2⟩ ∧ e.found = "?bcdefghijklmnopqrst" ∧
      ∃ read, broken.toList = read ++ e.rest ∧ Lexed read e.rest ∧ e.place = .behind read := by
  intro text broken
  constructor
  · have hplaces : (tokens? text).toOption.map (·.map (·.first)) =
        some [⟨0, 1, 1⟩, ⟨5, 2, 2⟩, ⟨6, 2, 3⟩] := by decide +kernel
    cases h : tokens? text with
    | error e => rw [h] at hplaces; cases hplaces
    | ok ts =>
      rw [h] at hplaces
      exact ⟨ts, rfl, Option.some.inj hplaces, ((tokens?_tiling text).1 ts h).1⟩
  · have hread : (tokens? broken).toOption = none := by decide +kernel
    cases h : tokens? broken with
    | ok ts => rw [h] at hread; cases hread
    | error e =>
      obtain ⟨read, hsplit, hlexed, -, hplace, -⟩ := (tokens?_tiling broken).2.1 e h
      obtain ⟨-, hrest, hstop⟩ := tokens?_eq_error_iff.mp h
      refine ⟨e, rfl, ?_, ?_, read, hsplit, hlexed, hplace⟩
      · rw [← hstop]
        decide +kernel
      · rw [LexError.found, ← hrest]
        decide +kernel

end CoachScript
