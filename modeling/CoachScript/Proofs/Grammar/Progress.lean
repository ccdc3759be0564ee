import CoachScript.Proofs.Grammar.Pattern
import CoachScript.Text.Numeric
import Mathlib.Data.List.Forall2
import Mathlib.Data.List.OfFn

/-!
# Parsers come to an end within their input

* `Ends`: a walk and a parser end alike, and the place where they end, or that of their error, is not before the
  one where they began and not behind the end of the input.
* `Walk.Tracks`: they do so wherever they begin. One lemma for each combinator: **a loop needs no more turns than
  there are tokens**, since `many` stops where nothing was read and a separator that `Parser.Advances` reads
  something.
* `choiceAfter_error`: **a choice reports the error that got furthest**, the first of those that got equally far.
* **`Pattern.progress`**: all this of every pattern whose separators read something.
-/

namespace CoachScript

variable {τ α β : Type}

/-! ### Places -/

namespace Cursor

variable {input : List τ} {start : Nat}

theorem at_of_none (h : input[start]? = none) : Cursor.at input start = ⟨start, []⟩ := by
  rw [Cursor.at, List.drop_eq_nil_of_le (List.getElem?_eq_none_iff.mp h)]

theorem at_of_some {t : τ} (h : input[start]? = some t) :
    Cursor.at input start = ⟨start, t :: (Cursor.at input (start + 1)).rest⟩ := by
  obtain ⟨hlt, rfl⟩ := List.getElem?_eq_some_iff.mp h
  rw [Cursor.at, List.drop_eq_getElem_cons hlt, Cursor.at]

theorem length_at (input : List τ) (start : Nat) :
    (Cursor.at input start).rest.length = input.length - start := List.length_drop

end Cursor

namespace Parser

/-- What a parser makes of an input from the token of a number on, with the number of the token behind. -/
def readAt (p : Parser τ α) (input : List τ) (start : Nat) : Except ParseError (α × Nat) :=
  (p (.at input start)).map fun (a, after) => (a, after.position)

/-- Whenever the parser succeeds, it has read a token. -/
def Advances (p : Parser τ α) : Prop :=
  ∀ input start a stop, p.readAt input start = .ok (a, stop) → start < stop

end Parser

/-! ### Ends -/

/-- A walk and a parser that began at the same place end alike, and within the input. -/
inductive Ends (input : List τ) (start : Nat) :
    Attempt α → Except ParseError (α × Cursor τ) → Prop
  | ok (a : α) {stop : Nat} (hle : start ≤ stop) (hmax : stop ≤ max start input.length) :
    Ends input start (some (.ok (a, stop))) (.ok (a, .at input stop))
  | error {e : ParseError} (hle : start ≤ e.position) (hmax : e.position ≤ max start input.length) :
    Ends input start (some (.error e)) (.error e)

namespace Ends

variable {input : List τ} {start : Nat} {x : Attempt α} {y : Except ParseError (α × Cursor τ)}

/-- Nothing was read. -/
theorem here (a : α) : Ends input start (some (.ok (a, start))) (.ok (a, .at input start)) :=
  .ok a (Nat.le_refl start) (Nat.le_max_left ..)

/-- The parser failed where it began. -/
theorem fails {e : ParseError} (h : e.position = start) :
    @Ends τ α input start (some (.error e)) (.error e) :=
  .error (Nat.le_of_eq h.symm) (h.symm ▸ Nat.le_max_left _ _)

/-- What ends within the input from a later place on does so from an earlier place on. -/
theorem behind {middle : Nat} (hle : start ≤ middle) (hmax : middle ≤ max start input.length)
    (h : Ends input middle x y) : Ends input start x y := by
  cases h with
  | ok a hle' hmax' => exact .ok a (by omega) (by omega)
  | error hle' hmax' => exact .error (by omega) (by omega)

theorem bind {f : α → Nat → Attempt β} {g : α × Cursor τ → Except ParseError (β × Cursor τ)}
    (h : Ends input start x y)
    (hf : ∀ a middle, Ends input middle (f a middle) (g (a, .at input middle))) :
    Ends input start (x.andThen f) (y >>= g) := by
  cases h with
  | ok a hle hmax => exact (hf a _).behind hle hmax
  | error hle hmax => exact .error hle hmax

/-- One value more, in front of the others. -/
theorem cons {xs : Attempt (List α)} {ys : List α × Cursor τ} (a : α) (h : Ends input start xs (.ok ys)) :
    Ends input start (xs.andThen fun as stop => some (.ok (a :: as, stop))) (.ok (a :: ys.1, ys.2)) :=
  h.bind (g := fun ys => .ok (a :: ys.1, ys.2)) fun as _ => .here (a :: as)

theorem eq_ok {a : α} {stop : Nat} (h : Ends input start (some (.ok (a, stop))) y) :
    y = .ok (a, .at input stop) := by
  cases h
  rfl

theorem le_stop {a : α} {stop : Nat} (h : Ends input start (some (.ok (a, stop))) y) :
    start ≤ stop ∧ stop ≤ max start input.length := by
  cases h with
  | ok _ hle hmax => exact ⟨hle, hmax⟩

theorem le_position {e : ParseError} (h : Ends input start (some (.error e)) y) :
    start ≤ e.position ∧ e.position ≤ max start input.length := by
  cases h with
  | error hle hmax => exact ⟨hle, hmax⟩

theorem eq_readAt {p : Parser τ α} (h : Ends input start x (p (.at input start))) :
    x = some (p.readAt input start) := by
  unfold Parser.readAt
  generalize p (.at input start) = y at h
  cases h <;> rfl

end Ends

/-! ### Walks along parsers -/

/-- Wherever they begin, the walk and the parser end alike, and within the input. -/
def Walk.Tracks (input : List τ) (w : Walk α) (p : Parser τ α) : Prop :=
  ∀ start, Ends input start (w start) (p (.at input start))

namespace Walk.Tracks

variable {input : List τ} {w : Walk α} {w' : Walk β} {u v : Walk Unit} {p : Parser τ α} {p' : Parser τ β}
  {q r : Parser τ Unit}

theorem satisfy (shown : τ → String) (f : τ → Option α) (wanted : String) :
    Tracks input (.satisfy input shown f wanted) (.satisfy shown f wanted) := by
  intro start
  unfold Walk.satisfy
  cases ht : input[start]? with
  | none =>
    rw [Cursor.at_of_none ht]
    exact .fails rfl
  | some t =>
    have hlt : start < input.length := (List.getElem?_eq_some_iff.mp ht).1
    rw [Cursor.at_of_some ht]
    unfold Parser.satisfy
    dsimp only
    cases f t with
    | none => exact .fails rfl
    | some a => exact .ok a (Nat.le_succ start) (by omega)

theorem equal [DecidableEq τ] (shown : τ → String) (t : τ) :
    Tracks input (.equal input shown t) (.equal shown t) := by
  have hsatisfy : Walk.equal input shown t =
      .satisfy input shown (fun u => if u = t then some u else none) (shown t) := by
    funext start
    unfold Walk.equal Walk.satisfy
    cases input[start]? with
    | none => rfl
    | some u =>
      dsimp only
      split_ifs <;> rfl
  rw [hsatisfy]
  exact satisfy shown _ (shown t)

theorem finished (shown : τ → String) : Tracks input (.finished input shown) (.finished shown) := by
  intro start
  unfold Walk.finished
  cases ht : input[start]? with
  | none =>
    have hend : Parser.finished shown (.at input start) = .ok ((), .at input start) := by
      rw [Cursor.at_of_none ht]
      rfl
    rw [hend]
    exact .here ()
  | some t =>
    rw [Cursor.at_of_some ht]
    exact .fails rfl

theorem expected [DecidableEq α] (shown : α → String) (a : α) (hp : Tracks input w p) :
    Tracks input (.expected shown w a) (.expected shown p a) := by
  intro start
  have h := hp start
  unfold Walk.expected Parser.expected
  generalize w start = x, p (.at input start) = y at h
  cases h with
  | error hle hmax => exact .error hle hmax
  | @ok b stop hle hmax =>
    -- The error is at the first token of the refused value, not behind it.
    show Ends input start (if b = a then _ else _) (if b = a then _ else _)
    split_ifs
    · exact .ok b hle hmax
    · exact .fails rfl

theorem within (part : String) (hp : Tracks input w p) :
    Tracks input (.within part w) (.within part p) := by
  intro start
  have h := hp start
  unfold Walk.within Parser.within
  generalize w start = x, p (.at input start) = y at h
  cases h with
  | ok a hle hmax => exact .ok a hle hmax
  | error hle hmax => exact .error hle hmax

theorem optional (hp : Tracks input w p) : Tracks input (.optional w) (.optional p) := by
  intro start
  have h := hp start
  unfold Walk.optional Parser.optional
  generalize w start = x, p (.at input start) = y at h
  cases h with
  | ok a hle hmax => exact .ok (some a) hle hmax
  | error => exact .here none

theorem map (f : α → β) (hp : Tracks input w p) : Tracks input (.map f w) (.map f p) :=
  fun start => (hp start).bind fun a _ => .here (f a)

theorem both (hp : Tracks input w p) (hp' : Tracks input w' p') :
    Tracks input (.both w w') (.both p p') :=
  fun start => (hp start).bind fun a i => (hp' i).bind fun b _ => .here (a, b)

theorem delimited (hleft : Tracks input u q) (hp : Tracks input w p) (hright : Tracks input v r) :
    Tracks input (.delimited u w v) (.delimited q p r) :=
  fun start => (hleft start).bind fun _ i => (hp i).bind fun a j => (hright j).bind fun _ _ => .here a

theorem five {α₁ α₂ α₃ α₄ α₅ : Type} {w₁ : Walk α₁} {w₂ : Walk α₂} {w₃ : Walk α₃} {w₄ : Walk α₄}
    {w₅ : Walk α₅} {p₁ : Parser τ α₁} {p₂ : Parser τ α₂} {p₃ : Parser τ α₃} {p₄ : Parser τ α₄}
    {p₅ : Parser τ α₅} (h₁ : Tracks input w₁ p₁) (h₂ : Tracks input w₂ p₂) (h₃ : Tracks input w₃ p₃)
    (h₄ : Tracks input w₄ p₄) (h₅ : Tracks input w₅ p₅) :
    Tracks input (.five w₁ w₂ w₃ w₄ w₅) (.five p₁ p₂ p₃ p₄ p₅) := by
  intro start
  refine (h₁ start).bind fun a₁ i => (h₂ i).bind fun a₂ i => (h₃ i).bind fun a₃ i => ?_
  exact (h₄ i).bind fun a₄ i => (h₅ i).bind fun a₅ _ => .here (a₁, a₂, a₃, a₄, a₅)

theorem choiceAfter {ws : List (Walk α)} {ps : List (Parser τ α)}
    (h : List.Forall₂ (Tracks input) ws ps) (start : Nat) {best : Option ParseError}
    (hbest : ∀ e ∈ best, start ≤ e.position ∧ e.position ≤ max start input.length) :
    Ends input start (Walk.choiceAfter best ws start) (Parser.choiceAfter best ps (.at input start)) := by
  induction h generalizing best with
  | nil =>
    cases best with
    | none => exact .fails rfl
    | some e => exact .error (hbest e rfl).1 (hbest e rfl).2
  | @cons w p ws ps hp _ ih =>
    have h := hp start
    rw [Walk.choiceAfter, Parser.choiceAfter]
    generalize w start = x, p (.at input start) = y at h
    cases h with
    | ok a hle hmax => exact .ok a hle hmax
    | @error e hle hmax =>
      refine ih ?_
      rintro _ ⟨⟩
      cases best with
      | none => exact ⟨hle, hmax⟩
      | some best =>
        unfold ParseError.further
        dsimp only
        split_ifs
        · exact ⟨hle, hmax⟩
        · exact hbest best rfl

/-! ### Loops -/

/-- Every turn reads a token, so there are fewer left for the turns that are left. -/
theorem repeated (hp : Tracks input w p) (turns : Nat) {start : Nat}
    (hturns : input.length - start < turns) :
    Ends input start (Walk.many w turns start) (.ok (Parser.repeated p (.at input start))) := by
  induction turns generalizing start with
  | zero => omega
  | succ turns ih =>
    have h := hp start
    rw [Walk.many, Parser.repeated]
    generalize w start = x, p (.at input start) = y at h
    cases h with
    | error => exact .here []
    | @ok a stop hle hmax =>
      have hleft := Cursor.length_at input start
      have hleft' := Cursor.length_at input stop
      dsimp only
      by_cases hstop : stop = start
      · rw [if_pos hstop, if_neg (by omega)]
        exact .here []
      · rw [if_neg hstop, if_pos (by omega)]
        have hmore : input.length - stop < turns := by omega
        exact ((ih hmore).cons a).behind hle hmax

theorem many (hp : Tracks input w p) {turns : Nat} (hturns : input.length < turns) :
    Tracks input (.many w turns) (.many p) := fun start => hp.repeated turns (by omega)

/-- Nothing but the separator sees to it that a turn reads a token: the item may read none. -/
theorem separatedMore (hp : Tracks input w p) (hq : Tracks input v q) (hadvances : q.Advances)
    (turns : Nat) {start : Nat} (hturns : input.length - start < turns) :
    Ends input start (Walk.separatedMore w v turns start)
      (.ok (Parser.separatedMore p q (.at input start))) := by
  induction turns generalizing start with
  | zero => omega
  | succ turns ih =>
    have hmark := hq start
    have hlt := hadvances input start
    unfold Parser.readAt at hlt
    rw [Walk.separatedMore, Parser.separatedMore]
    generalize v start = x, q (.at input start) = y at hmark hlt
    cases hmark with
    | error => exact .here []
    | @ok _ middle hle hmax =>
      have hmiddle : start < middle := hlt () middle rfl
      have hitem := hp middle
      dsimp only
      generalize w middle = x, p (.at input middle) = y at hitem
      cases hitem with
      | error => exact .here []
      | @ok a stop hle' hmax' =>
        have hleft := Cursor.length_at input start
        have hleft' := Cursor.length_at input stop
        have hmore : input.length - stop < turns := by omega
        dsimp only
        rw [if_pos (by omega)]
        exact ((ih hmore).cons a).behind (by omega) (by omega)

theorem separatedList (hp : Tracks input w p) (hq : Tracks input v q) (hadvances : q.Advances)
    {turns : Nat} (hturns : input.length < turns) :
    Tracks input (.separatedList w v turns) (.separatedList p q) := by
  intro start
  have h := hp start
  unfold Walk.separatedList Parser.separatedList
  generalize w start = x, p (.at input start) = y at h
  cases h with
  | error => exact .here []
  | @ok a stop hle hmax =>
    have hmore : input.length - stop < turns := by omega
    exact ((hp.separatedMore hq hadvances turns hmore).cons a).behind hle hmax

end Walk.Tracks

/-! ### The furthest error -/

/-- The error got further than all before it, and none behind it got further. -/
def ParseError.Furthest (es : List ParseError) (e : ParseError) : Prop :=
  ∃ before after, es = before ++ e :: after ∧ (∀ b ∈ before, b.position < e.position) ∧
    ∀ b ∈ after, b.position ≤ e.position

namespace Parser

/-- What is furthest once the better of two errors is known is furthest among both and the others. -/
theorem furthest_further {best first e : ParseError} {es : List ParseError}
    (h : ParseError.Furthest (ParseError.further (some best) first :: es) e) :
    ParseError.Furthest (best :: first :: es) e := by
  obtain ⟨before, after, hes, hbefore, hafter⟩ := h
  unfold ParseError.further at hes
  cases before with
  | nil =>
    obtain ⟨rfl, rfl⟩ := List.cons.inj hes
    dsimp only at hafter ⊢
    split_ifs at hafter ⊢ with hlt
    · exact ⟨[best], es, rfl, by simpa using hlt, hafter⟩
    · exact ⟨[], first :: es, rfl, nofun, by simpa using ⟨Nat.le_of_not_lt hlt, hafter⟩⟩
  | cons b before =>
    obtain ⟨rfl, rfl⟩ := List.cons.inj hes
    rw [List.forall_mem_cons] at hbefore
    obtain ⟨hb, hbefore⟩ := hbefore
    refine ⟨best :: first :: before, after, rfl, ?_, hafter⟩
    rw [List.forall_mem_cons, List.forall_mem_cons]
    dsimp only at hb
    split_ifs at hb
    · exact ⟨by omega, hb, hbefore⟩
    · exact ⟨hb, by omega, hbefore⟩

/-- **Where a choice fails, all alternatives fail, and it reports the furthest of their errors.** -/
theorem choiceAfter_error {c : Cursor τ} {ps : List (Parser τ α)} {best : Option ParseError}
    {e : ParseError} (h : choiceAfter best ps c = .error e) (hsome : best.isSome ∨ ps ≠ []) :
    ∃ es, List.Forall₂ (fun p e' => p c = .error e') ps es ∧ ParseError.Furthest (best.toList ++ es) e := by
  induction ps generalizing best with
  | nil =>
    obtain ⟨b, rfl⟩ := Option.isSome_iff_exists.mp (hsome.resolve_right fun hnil => hnil rfl)
    cases h
    exact ⟨[], .nil, [], [], rfl, nofun, nofun⟩
  | cons p ps ih =>
    rw [choiceAfter] at h
    cases hp : p c with
    | ok result =>
      rw [hp] at h
      cases h
    | error first =>
      rw [hp] at h
      obtain ⟨es, hes, hfurthest⟩ := ih h (.inl rfl)
      refine ⟨first :: es, .cons hp hes, ?_⟩
      cases best with
      | none => exact hfurthest
      | some best => exact furthest_further hfurthest

end Parser

/-! ### Parsers that read something -/

namespace Parser

variable {p : Parser τ α} {input : List τ} {start : Nat}

theorem readAt_eq_error_iff {e : ParseError} :
    p.readAt input start = .error e ↔ p (.at input start) = .error e := by
  unfold readAt
  cases p (.at input start) with
  | error e' => constructor <;> (rintro ⟨⟩; rfl)
  | ok result => exact iff_of_false nofun nofun

theorem satisfy_advances (shown : τ → String) (f : τ → Option α) (wanted : String) :
    (satisfy shown f wanted).Advances := by
  intro input start a stop h
  have htracks : Walk.Tracks input _ _ := .satisfy shown f wanted
  have hwalk := (htracks start).eq_readAt
  rw [h] at hwalk
  unfold Walk.satisfy at hwalk
  split at hwalk
  · cases hwalk
  · split at hwalk
    · cases hwalk
      exact Nat.lt_succ_self start
    · cases hwalk

theorem map_advances {f : α → β} (hp : p.Advances) : (map f p).Advances := by
  intro input start b stop h
  have hlt := hp input start
  unfold readAt at h hlt
  unfold map at h
  generalize p (.at input start) = y at h hlt
  cases y with
  | error e => cases h
  | ok result =>
    cases h
    exact hlt result.1 _ rfl

theorem equal_advances [DecidableEq τ] (shown : τ → String) (t : τ) : (equal shown t).Advances :=
  satisfy_advances shown _ (shown t)

theorem asUnit_advances (hp : p.Advances) : (asUnit p).Advances := map_advances hp

end Parser

/-! ### Patterns -/

namespace Pattern

/-- Every separator reads a token whenever it succeeds. -/
def SeparatorsAdvance : {α : Type} → Pattern τ α → Prop
  | _, satisfy .. | _, equal .. | _, finished _ => True
  | _, expected _ p _ | _, map _ p | _, asUnit p | _, many p | _, optional p | _, within _ p =>
    p.SeparatorsAdvance
  | _, choice ps => ∀ k, (ps k).SeparatorsAdvance
  | _, separatedList item separator =>
    item.SeparatorsAdvance ∧ separator.SeparatorsAdvance ∧ separator.parser.Advances
  | _, delimited left p right =>
    left.SeparatorsAdvance ∧ p.SeparatorsAdvance ∧ right.SeparatorsAdvance
  | _, both p q => p.SeparatorsAdvance ∧ q.SeparatorsAdvance
  | _, five p₁ p₂ p₃ p₄ p₅ => p₁.SeparatorsAdvance ∧ p₂.SeparatorsAdvance ∧ p₃.SeparatorsAdvance ∧
    p₄.SeparatorsAdvance ∧ p₅.SeparatorsAdvance
  | _, deferred p => (p ()).SeparatorsAdvance

theorem tracks_choice {n : Nat} {ps : Fin n → Pattern τ α} {input : List τ} {turns : Nat}
    (h : ∀ k, Walk.Tracks input ((ps k).walk input turns) (ps k).parser) :
    Walk.Tracks input ((choice ps).walk input turns) (choice ps).parser := by
  intro start
  refine Walk.Tracks.choiceAfter ?_ start nofun
  rw [List.forall₂_iff_get]
  simpa using fun k hk => h ⟨k, hk⟩

/-- **The walk of a pattern tracks its parser**, with more turns for a loop than the input has tokens. -/
theorem walk_tracks (p : Pattern τ α) (h : p.SeparatorsAdvance) {input : List τ} {turns : Nat}
    (hturns : input.length < turns) : Walk.Tracks input (p.walk input turns) p.parser := by
  induction p with
  | satisfy shown f wanted => exact .satisfy shown f wanted
  | equal shown t => exact .equal shown t
  | expected shown p a ih => exact .expected shown a (ih h)
  | finished shown => exact .finished shown
  | choice ps ih => exact tracks_choice fun k => ih k (h k)
  | map f p ih => exact .map f (ih h)
  | asUnit p ih => exact .map _ (ih h)
  | many p ih => exact .many (ih h) hturns
  | separatedList item separator ihitem ihseparator =>
    exact .separatedList (ihitem h.1) (ihseparator h.2.1) h.2.2 hturns
  | optional p ih => exact .optional (ih h)
  | delimited left p right ihleft ih ihright =>
    exact .delimited (ihleft h.1) (ih h.2.1) (ihright h.2.2)
  | both p q ihp ihq => exact .both (ihp h.1) (ihq h.2)
  | five p₁ p₂ p₃ p₄ p₅ ih₁ ih₂ ih₃ ih₄ ih₅ =>
    obtain ⟨h₁, h₂, h₃, h₄, h₅⟩ := h
    exact .five (ih₁ h₁) (ih₂ h₂) (ih₃ h₃) (ih₄ h₄) (ih₅ h₅)
  | within part p ih => exact .within part (ih h)
  | deferred p ih => exact ih () h

theorem walk_eq_readAt (p : Pattern τ α) (h : p.SeparatorsAdvance) {input : List τ} {turns : Nat}
    (hturns : input.length < turns) (start : Nat) :
    p.walk input turns start = some (p.parser.readAt input start) :=
  (p.walk_tracks h hturns start).eq_readAt

theorem exists_of_isLenient {p : Pattern τ α} (h : p.IsLenient) (input : List τ) (start : Nat) :
    ∃ a stop, p.parser.readAt input start = .ok (a, stop) := by
  cases p with
  | many p => exact ⟨_, _, rfl⟩
  | separatedList item separator =>
    unfold parser Parser.readAt Parser.separatedList
    cases item.parser (.at input start) with
    | error e => exact ⟨_, _, rfl⟩
    | ok result => exact ⟨_, _, rfl⟩
  | optional p =>
    unfold parser Parser.readAt Parser.optional
    cases p.parser (.at input start) with
    | error e => exact ⟨_, _, rfl⟩
    | ok result => exact ⟨_, _, rfl⟩
  | _ => exact h.elim

theorem exists_furthest {p : Pattern τ α} (hne : p.alternatives ≠ []) {input : List τ} {start : Nat}
    {e : ParseError} (h : p.parser.readAt input start = .error e) :
    ∃ es, List.Forall₂ (fun q e' => q.parser.readAt input start = .error e') p.alternatives es ∧
      ParseError.Furthest es e := by
  cases p with
  | choice ps =>
    have hlist : List.ofFn (fun k => (ps k).parser) = (List.ofFn ps).map parser := List.map_ofFn.symm
    rw [Parser.readAt_eq_error_iff, parser, hlist] at h
    have hsome : (List.ofFn ps).map parser ≠ [] := List.map_eq_nil_iff.not.mpr hne
    obtain ⟨es, hes, hfurthest⟩ := Parser.choiceAfter_error h (.inr hsome)
    rw [List.forall₂_map_left_iff] at hes
    exact ⟨es, hes.imp fun _ _ => Parser.readAt_eq_error_iff.mpr, hfurthest⟩
  | _ => exact absurd rfl hne

/-- **A parser whose separators read something comes to an end within its input**, wherever it begins. Its walk
is over when every loop has taken as many turns as there are tokens, and one more. Successes and errors are not
before the start, and not behind the end of the input unless that is where it began. A repetition and an option
do not fail. A choice that fails reports the furthest error of its alternatives, which all fail, the first of
those that got equally far. -/
theorem progress (p : Pattern τ α) (h : p.SeparatorsAdvance) (input : List τ) (start : Nat) :
    (∀ turns, input.length < turns →
      p.walk input turns start = some (p.parser.readAt input start)) ∧
    (∀ a stop, p.parser.readAt input start = .ok (a, stop) →
      start ≤ stop ∧ stop ≤ max start input.length) ∧
    (∀ e, p.parser.readAt input start = .error e →
      start ≤ e.position ∧ e.position ≤ max start input.length) ∧
    (p.IsLenient → ∃ a stop, p.parser.readAt input start = .ok (a, stop)) ∧
    (p.alternatives ≠ [] → ∀ e, p.parser.readAt input start = .error e →
      ∃ es, List.Forall₂ (fun q e' => q.parser.readAt input start = .error e') p.alternatives es ∧
        ParseError.Furthest es e) := by
  have hends := p.walk_tracks h (Nat.lt_succ_self input.length) start
  have hread := hends.eq_readAt
  refine ⟨fun turns hturns => p.walk_eq_readAt h hturns start, fun a stop hok => ?_, fun e herror => ?_,
    fun hlenient => exists_of_isLenient hlenient input start, fun hne e => exists_furthest hne⟩
  · rw [hread, hok] at hends
    exact hends.le_stop
  · rw [hread, herror] at hends
    exact hends.le_position

/-- Items that may be missing, in braces: a list that is not closed, and two alternatives that get equally far. -/
theorem progress_unclosed :
    let digit : Pattern Char Char :=
      .satisfy Char.toString (fun c => if isAsciiDigit c then some c else none) "digit"
    let mark (c : Char) : Pattern Char Unit := .asUnit (.equal Char.toString c)
    let list (final : Char) : Pattern Char (List (Option Char)) :=
      .delimited (mark '(') (.separatedList (.optional digit) (mark ';')) (mark final)
    let p : Pattern Char (List (Option Char)) :=
      .choice [.map (fun c => [some c]) digit, list ')', .within "list" (list ']')].get
    p.SeparatorsAdvance ∧ p.parser.readAt "(1;;2;x".toList 0 = .error (.unexpected ")" "x" 6) ∧
      p.parser.readAt "(1;;2;)".toList 0 = .ok ([some '1', none, some '2', none], 7) ∧
      p.parser.readAt "(1;;2;)".toList 9 = .error (.unexpectedEnd 9) ∧
      ∃ es, List.Forall₂ (fun q e => q.parser.readAt "(1;;2;x".toList 0 = .error e) p.alternatives es ∧
        ParseError.Furthest es (.unexpected ")" "x" 6) := by
  intro digit mark list p
  have hmark (c : Char) : (mark c).parser.Advances :=
    Parser.asUnit_advances (Parser.equal_advances Char.toString c)
  have hlist (final : Char) : (list final).SeparatorsAdvance :=
    ⟨trivial, ⟨trivial, trivial, hmark ';'⟩, trivial⟩
  have h : p.SeparatorsAdvance
    | 0 => trivial
    | 1 => hlist ')'
    | 2 => hlist ']'
  have hread (text : String) (start : Nat) (result : Except ParseError (List (Option Char) × Nat))
      (hlength : text.toList.length < 8) (hwalk : p.walk text.toList 8 start = some result) :
      p.parser.readAt text.toList start = result :=
    Option.some.inj (((progress p h text.toList start).1 8 hlength).symm.trans hwalk)
  have herror := hread "(1;;2;x" 0 (.error (.unexpected ")" "x" 6)) (by decide) (by rfl)
  refine ⟨h, herror, hread "(1;;2;)" 0 _ (by decide) (by rfl), hread "(1;;2;)" 9 _ (by decide) (by rfl), ?_⟩
  have hne : p.alternatives ≠ [] := by
    rw [show p.alternatives = _ from List.ofFn_get _]
    exact List.cons_ne_nil _ _
  exact (progress p h "(1;;2;x".toList 0).2.2.2.2 hne _ herror

end Pattern

end CoachScript
