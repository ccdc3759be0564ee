import CoachScript.Script.Parser

/-!
# What parsers read

* `Reads p ts a rest`: in front of `rest`, `p` reads exactly `ts` and gives `a`.
* `Refuses p rest`: `p` fails on `rest`.
* `Yields p R`: all that `p` can read is related by `R` to the value it gives.

For every combinator there is one lemma of each sort. Both directions pass through `recursive`:
`recursive_yields` by induction on the number of tokens left, `recursive_eq` by opening it once.
-/

namespace CoachScript

namespace Parser

variable {τ α β : Type}

/-- In front of `rest`, `p` reads exactly `ts` and gives `a`. -/
def Reads (p : Parser τ α) (ts : List τ) (a : α) (rest : List τ) : Prop :=
  ∀ position, p ⟨position, ts ++ rest⟩ = .ok (a, ⟨position + ts.length, rest⟩)

/-- The parser fails on `rest`. -/
def Refuses (p : Parser τ α) (rest : List τ) : Prop :=
  ∀ position, ∃ e, p ⟨position, rest⟩ = .error e

/-- What `p` reads is related by `R` to the value it gives. -/
def Yields (p : Parser τ α) (R : List τ → α → Prop) : Prop :=
  ∀ c a after, p c = .ok (a, after) → ∃ ts, c.rest = ts ++ after.rest ∧ R ts a

variable {p : Parser τ α} {q : Parser τ β} {ts us rest : List τ} {a : α} {b : β}
  {R : List τ → α → Prop} {S : List τ → β → Prop}

theorem Yields.mono {R' : List τ → α → Prop} (h : Yields p R) (hR : ∀ ts a, R ts a → R' ts a) :
    Yields p R' := by
  intro c a after hp
  obtain ⟨ts, hts, ha⟩ := h c a after hp
  exact ⟨ts, hts, hR ts a ha⟩

/-! ### Single tokens -/

section Single

variable {shown : τ → String} {f : τ → Option α} {wanted : String} {t : τ}

theorem satisfy_reads (h : f t = some a) : Reads (satisfy shown f wanted) [t] a rest := by
  intro position
  simp [satisfy, h]

theorem satisfy_refuses (h : ∀ t ∈ rest.head?, f t = none) :
    Refuses (satisfy shown f wanted) rest := by
  intro position
  cases rest with
  | nil => exact ⟨_, rfl⟩
  | cons t rest => simp [satisfy, h t rfl]

theorem satisfy_yields :
    Yields (satisfy shown f wanted) (fun ts a => ∃ t, ts = [t] ∧ f t = some a) := by
  rintro ⟨position, _ | ⟨t, rest⟩⟩ a after h
  · simp [satisfy] at h
  · cases ht : f t with
    | none => simp [satisfy, ht] at h
    | some b =>
      simp only [satisfy, ht, Except.ok.injEq, Prod.mk.injEq] at h
      obtain ⟨rfl, rfl⟩ := h
      exact ⟨[t], rfl, t, rfl, ht⟩

theorem finished_reads : Reads (finished shown) [] () [] := fun _ => rfl

/-- No token is left where `finished` succeeds. -/
theorem finished_ok {c after : Cursor τ} {u : Unit} (h : finished shown c = .ok (u, after)) :
    c.rest = [] ∧ after.rest = [] := by
  obtain ⟨position, _ | ⟨t, rest⟩⟩ := c
  · cases h
    exact ⟨rfl, rfl⟩
  · cases h

theorem finished_yields : Yields (finished shown) (fun ts _ => ts = []) := by
  intro c u after h
  obtain ⟨hc, hafter⟩ := finished_ok h
  exact ⟨[], by rw [hc, hafter, List.append_nil], rfl⟩

variable [DecidableEq τ]

theorem equal_reads : Reads (equal shown t) [t] t rest := satisfy_reads (if_pos rfl)

theorem equal_refuses (h : rest.head? ≠ some t) : Refuses (equal shown t) rest := by
  apply satisfy_refuses
  intro u hu
  rw [if_neg]
  rintro rfl
  exact h hu

theorem equal_yields : Yields (equal shown t) (fun ts _ => ts = [t]) := by
  refine satisfy_yields.mono ?_
  rintro ts u ⟨u', rfl, hu⟩
  by_cases h : u' = t
  · rw [h]
  · rw [if_neg h] at hu
    cases hu

end Single

/-- No token is left where `p` succeeds. -/
def Exhausts (p : Parser τ α) : Prop := ∀ c a after, p c = .ok (a, after) → after.rest = []

theorem finished_exhausts {shown : τ → String} : Exhausts (finished shown) :=
  fun _ _ _ h => (finished_ok h).2

/-! ### Values and parts -/

theorem map_reads {f : α → β} (h : Reads p ts a rest) : Reads (map f p) ts (f a) rest := by
  intro position
  simp only [map, h position]
  rfl

theorem map_refuses {f : α → β} (h : Refuses p rest) : Refuses (map f p) rest := by
  intro position
  obtain ⟨e, he⟩ := h position
  exact ⟨e, by simp only [map, he]; rfl⟩

theorem map_ok {f : α → β} {c after : Cursor τ} (h : map f p c = .ok (b, after)) :
    ∃ a, p c = .ok (a, after) ∧ f a = b := by
  cases hp : p c with
  | error e =>
    simp only [map, hp] at h
    cases h
  | ok result =>
    simp only [map, hp] at h
    cases h
    exact ⟨result.1, rfl, rfl⟩

theorem map_yields {f : α → β} (h : Yields p R) (hf : ∀ ts a, R ts a → S ts (f a)) :
    Yields (map f p) S := by
  intro c b after hb
  obtain ⟨a, hp, rfl⟩ := map_ok hb
  obtain ⟨ts, hts, ha⟩ := h c a after hp
  exact ⟨ts, hts, hf ts a ha⟩

theorem map_exhausts {f : α → β} (h : Exhausts p) : Exhausts (map f p) := by
  intro c b after hb
  obtain ⟨a, hp, -⟩ := map_ok hb
  exact h c a after hp

theorem asUnit_reads (h : Reads p ts a rest) : Reads (asUnit p) ts () rest := map_reads h

theorem asUnit_refuses (h : Refuses p rest) : Refuses (asUnit p) rest := map_refuses h

theorem asUnit_yields (h : Yields p R) : Yields (asUnit p) (fun ts _ => ∃ a, R ts a) :=
  map_yields h (fun _ a ha => ⟨a, ha⟩)

theorem within_reads {part : String} (h : Reads p ts a rest) :
    Reads (within part p) ts a rest := by
  intro position
  simp only [within, h position]
  rfl

theorem within_refuses {part : String} (h : Refuses p rest) : Refuses (within part p) rest := by
  intro position
  obtain ⟨e, he⟩ := h position
  exact ⟨.within part e, by simp only [within, he]; rfl⟩

theorem within_ok {part : String} {c after : Cursor τ} (h : within part p c = .ok (a, after)) :
    p c = .ok (a, after) := by
  cases hp : p c with
  | error e =>
    simp only [within, hp] at h
    cases h
  | ok result =>
    simp only [within, hp] at h
    cases h
    rfl

theorem within_yields {part : String} (h : Yields p R) : Yields (within part p) R :=
  fun c a after hp => h c a after (within_ok hp)

theorem within_exhausts {part : String} (h : Exhausts p) : Exhausts (within part p) :=
  fun c a after hp => h c a after (within_ok hp)

section Expected

variable [DecidableEq α] {shown : α → String}

theorem expected_reads (h : Reads p ts a rest) : Reads (expected shown p a) ts a rest := by
  intro position
  simp only [expected, h position]
  exact if_pos rfl

theorem expected_refuses (h : Refuses p rest) : Refuses (expected shown p a) rest := by
  intro position
  obtain ⟨e, he⟩ := h position
  exact ⟨e, by simp only [expected, he]; rfl⟩

theorem expected_refuses_ne {a' : α} (h : Reads p ts a' rest) (hne : a' ≠ a) :
    Refuses (expected shown p a) (ts ++ rest) := by
  intro position
  refine ⟨.unexpected (shown a) (shown a') position, ?_⟩
  simp only [expected, h position]
  exact if_neg hne

theorem expected_yields (h : Yields p R) :
    Yields (expected shown p a) (fun ts b => R ts b ∧ b = a) := by
  intro c b after hb
  cases hp : p c with
  | error e =>
    simp only [expected, hp] at hb
    cases hb
  | ok result =>
    obtain ⟨a', c'⟩ := result
    simp only [expected, hp] at hb
    by_cases ha : a' = a
    · have hok : Except.ok (a', c') = Except.ok (ε := ParseError) (b, after) := by
        rw [← hb]
        exact (if_pos ha).symm
      cases hok
      obtain ⟨ts, hts, hR⟩ := h c _ _ hp
      exact ⟨ts, hts, hR, ha⟩
    · have herror : Except.error (.unexpected (shown a) (shown a') c.position)
          = Except.ok (ε := ParseError) (b, after) := by
        rw [← hb]
        exact (if_neg ha).symm
      cases herror

end Expected

/-! ### One after another -/

theorem both_reads (hp : Reads p ts a (us ++ rest)) (hq : Reads q us b rest) :
    Reads (both p q) (ts ++ us) (a, b) rest := by
  intro position
  simp only [both, List.append_assoc, hp position]
  show (q ⟨position + ts.length, us ++ rest⟩).bind _ = _
  rw [hq]
  simp [Except.bind, Nat.add_assoc]
  rfl

theorem both_refuses_left (hp : Refuses p rest) : Refuses (both p q) rest := by
  intro position
  obtain ⟨e, he⟩ := hp position
  exact ⟨e, by simp only [both, he]; rfl⟩

theorem both_refuses_right (hp : Reads p ts a rest) (hq : Refuses q rest) :
    Refuses (both p q) (ts ++ rest) := by
  intro position
  obtain ⟨e, he⟩ := hq (position + ts.length)
  refine ⟨e, ?_⟩
  simp only [both, hp position]
  show (q ⟨position + ts.length, rest⟩).bind _ = _
  rw [he]
  rfl

theorem both_ok {c after : Cursor τ} (h : both p q c = .ok ((a, b), after)) :
    ∃ middle, p c = .ok (a, middle) ∧ q middle = .ok (b, after) := by
  cases hp : p c with
  | error e =>
    simp only [both, hp] at h
    cases h
  | ok first =>
    obtain ⟨a', middle⟩ := first
    simp only [both, hp] at h
    change (q middle).bind _ = _ at h
    cases hq : q middle with
    | error e =>
      rw [hq] at h
      cases h
    | ok second =>
      rw [hq] at h
      cases h
      exact ⟨middle, rfl, hq⟩

theorem both_yields (hp : Yields p R) (hq : Yields q S) :
    Yields (both p q) (fun ts ab => ∃ us vs, ts = us ++ vs ∧ R us ab.1 ∧ S vs ab.2) := by
  rintro c ⟨a, b⟩ after h
  obtain ⟨middle, hpc, hqc⟩ := both_ok h
  obtain ⟨us, hus, hR⟩ := hp _ _ _ hpc
  obtain ⟨vs, hvs, hS⟩ := hq _ _ _ hqc
  exact ⟨us ++ vs, by rw [hus, hvs, List.append_assoc], us, vs, rfl, hR, hS⟩

theorem both_exhausts (hq : Exhausts q) : Exhausts (both p q) := by
  rintro c ⟨a, b⟩ after h
  obtain ⟨middle, -, hqc⟩ := both_ok h
  exact hq middle b after hqc

theorem five_eq_both {α₁ α₂ α₃ α₄ α₅ : Type} (p₁ : Parser τ α₁) (p₂ : Parser τ α₂)
    (p₃ : Parser τ α₃) (p₄ : Parser τ α₄) (p₅ : Parser τ α₅) :
    five p₁ p₂ p₃ p₄ p₅ = both p₁ (both p₂ (both p₃ (both p₄ p₅))) := by
  funext c
  simp only [five, both, bind_assoc, pure_bind]

theorem delimited_eq_both (left : Parser τ Unit) (p : Parser τ α) (right : Parser τ Unit) :
    delimited left p right = map (fun parts => parts.2.1) (both left (both p right)) := by
  funext c
  simp only [delimited, map, both, bind_assoc, pure_bind]

/-! ### One or the other -/

theorem choiceAfter_reads {more : List (Parser τ α)} (h : Reads p ts a rest)
    (best : Option ParseError) : Reads (choiceAfter best (p :: more)) ts a rest := by
  intro position
  simp only [choiceAfter, h position]

theorem choiceAfter_reads_later {q : Parser τ α} {more : List (Parser τ α)}
    (hq : Refuses q (ts ++ rest)) (h : ∀ best, Reads (choiceAfter best more) ts a rest)
    (best : Option ParseError) : Reads (choiceAfter best (q :: more)) ts a rest := by
  intro position
  obtain ⟨e, he⟩ := hq position
  simp only [choiceAfter, he]
  exact h _ position

theorem choice_reads {more : List (Parser τ α)} (h : Reads p ts a rest) :
    Reads (choice (p :: more)) ts a rest := choiceAfter_reads h none

/-- A choice reads what its second parser reads where the first refuses. -/
theorem choice_reads_second {q : Parser τ α} {more : List (Parser τ α)}
    (hq : Refuses q (ts ++ rest)) (h : Reads p ts a rest) :
    Reads (choice (q :: p :: more)) ts a rest :=
  choiceAfter_reads_later hq (choiceAfter_reads h) none

theorem choice_refuses {ps : List (Parser τ α)} (h : ∀ p ∈ ps, Refuses p rest) :
    Refuses (choice ps) rest := by
  intro position
  suffices ∀ best, ∃ e, choiceAfter best ps ⟨position, rest⟩ = .error e from this none
  induction ps with
  | nil => exact fun best => ⟨_, rfl⟩
  | cons p ps ih =>
    intro best
    obtain ⟨e, he⟩ := h p List.mem_cons_self position
    simp only [choiceAfter, he]
    exact ih (fun q hq => h q (List.mem_cons_of_mem _ hq)) _

theorem choice_yields {ps : List (Parser τ α)} (h : ∀ p ∈ ps, Yields p R) :
    Yields (choice ps) R := by
  intro c a after
  suffices ∀ best, choiceAfter best ps c = .ok (a, after) →
    ∃ ts, c.rest = ts ++ after.rest ∧ R ts a from this none
  induction ps with
  | nil =>
    intro best hp
    cases hp
  | cons p ps ih =>
    intro best hp
    cases hc : p c with
    | ok result =>
      simp only [choiceAfter, hc, Except.ok.injEq] at hp
      exact h p List.mem_cons_self c a after (hc.trans (congrArg _ hp))
    | error e =>
      simp only [choiceAfter, hc] at hp
      exact ih (fun q hq => h q (List.mem_cons_of_mem _ hq)) _ hp

theorem optional_reads (h : Reads p ts a rest) : Reads (optional p) ts (some a) rest := by
  intro position
  simp only [optional, h position]

theorem optional_reads_none (h : Refuses p rest) : Reads (optional p) [] none rest := by
  intro position
  obtain ⟨e, he⟩ := h position
  simp [optional, he]

theorem optional_yields (h : Yields p R) :
    Yields (optional p) (fun ts o => (o = none ∧ ts = []) ∨ ∃ a, o = some a ∧ R ts a) := by
  intro c o after ho
  cases hp : p c with
  | error e =>
    simp only [optional, hp] at ho
    cases ho
    exact ⟨[], rfl, .inl ⟨rfl, rfl⟩⟩
  | ok result =>
    simp only [optional, hp] at ho
    cases ho
    obtain ⟨ts, hts, ha⟩ := h c _ _ hp
    exact ⟨ts, hts, .inr ⟨_, rfl, ha⟩⟩

/-! ### Again and again -/

/-- What a separated list reads: every item, a separator before each but the first. -/
def separated (separator : τ) (f : α → List τ) : List α → List τ
  | [] => []
  | a :: more => f a ++ more.flatMap (fun b => separator :: f b)

section Repeated

variable {f : α → List τ} {as : List α} {separator : Parser τ Unit} {s : τ}

theorem many_reads (hlength : ∀ a ∈ as, 0 < (f a).length)
    (hitem : ∀ a ∈ as, ∀ after, Reads p (f a) a after) (hstop : Refuses p rest) :
    Reads (many p) (as.flatMap f) as rest := by
  intro position
  refine congrArg Except.ok ?_
  induction as generalizing position with
  | nil =>
    obtain ⟨e, he⟩ := hstop position
    simp [repeated, he]
  | cons a as ih =>
    have hread := hitem a List.mem_cons_self (as.flatMap f ++ rest) position
    have hshorter : (as.flatMap f ++ rest).length < (f a ++ (as.flatMap f ++ rest)).length := by
      have hitems := hlength a List.mem_cons_self
      have hsum : (f a ++ (as.flatMap f ++ rest)).length
          = (f a).length + (as.flatMap f ++ rest).length := List.length_append
      omega
    have hmore := ih (fun b hb => hlength b (List.mem_cons_of_mem _ hb))
      (fun b hb => hitem b (List.mem_cons_of_mem _ hb)) (position + (f a).length)
    rw [repeated, List.flatMap_cons, List.append_assoc, hread]
    simp only [hmore]
    rw [if_pos hshorter, List.length_append, Nat.add_assoc]

theorem many_reads_nil (h : Refuses p rest) : Reads (many p) [] [] rest := by
  intro position
  obtain ⟨e, he⟩ := h position
  simp [many, repeated, he]

theorem many_yields (h : Yields p (fun ts a => ts = f a)) :
    Yields (many p) (fun ts as => ts = as.flatMap f) := by
  intro c as after hok
  simp only [many, Except.ok.injEq] at hok
  induction hn : c.rest.length using Nat.strongRecOn generalizing c as with
  | ind n ih =>
    rw [repeated] at hok
    cases hp : p c with
    | error e =>
      simp only [hp, Prod.mk.injEq] at hok
      obtain ⟨rfl, rfl⟩ := hok
      exact ⟨[], rfl, rfl⟩
    | ok result =>
      obtain ⟨a, middle⟩ := result
      simp only [hp] at hok
      split at hok
      next hshorter =>
        cases hok
        obtain ⟨ts, hts, rfl⟩ := h c a middle hp
        obtain ⟨us, hus, rfl⟩ := ih middle.rest.length (hn ▸ hshorter) middle _ rfl rfl
        exact ⟨_, by rw [hts, hus, List.flatMap_cons, List.append_assoc], rfl⟩
      next =>
        cases hok
        exact ⟨[], rfl, rfl⟩

/-- Behind the items of a list stands another separator or the rest. -/
theorem separators_head (as : List α) (f : α → List τ) (s : τ) (rest : List τ) :
    as.flatMap (fun b => s :: f b) ++ rest = rest
      ∨ (as.flatMap (fun b => s :: f b) ++ rest).head? = some s := by
  cases as with
  | nil => exact .inl rfl
  | cons a as => exact .inr rfl

/-- The items behind a separator are read while the bound `n` on what is left admits it. -/
theorem separatedMore_reads {n : Nat}
    (hitem : ∀ a ∈ as, ∀ after, after = rest ∨ after.head? = some s →
      (f a ++ after).length < n → Reads p (f a) a after)
    (hseparator : ∀ after, Reads separator [s] () after) (hstop : Refuses separator rest)
    (position : Nat) (hn : (as.flatMap (fun b => s :: f b) ++ rest).length ≤ n) :
    separatedMore p separator ⟨position, as.flatMap (fun b => s :: f b) ++ rest⟩
      = (as, ⟨position + (as.flatMap (fun b => s :: f b)).length, rest⟩) := by
  induction as generalizing position with
  | nil =>
    obtain ⟨e, he⟩ := hstop position
    simp [separatedMore, he]
  | cons a as ih =>
    have hfollows := separators_head as f s rest
    rw [List.flatMap_cons, List.append_assoc] at hn ⊢
    generalize as.flatMap (fun b => s :: f b) ++ rest = behind at hn ih hfollows ⊢
    have hlength : (s :: f a ++ behind).length = 1 + (f a ++ behind).length := by
      simp only [List.cons_append, List.length_cons]
      omega
    have hbound : (f a ++ behind).length = (f a).length + behind.length := List.length_append
    have hmark := hseparator (f a ++ behind) position
    have hread := hitem a List.mem_cons_self behind hfollows (by omega) (position + 1)
    have hmore := ih (fun b hb => hitem b (List.mem_cons_of_mem _ hb))
      (position + 1 + (f a).length) (by omega)
    have hshorter : behind.length < (s :: f a ++ behind).length := by omega
    rw [List.cons_append] at hshorter ⊢
    rw [separatedMore]
    simp only [List.singleton_append, List.length_singleton] at hmark
    simp only [hmark, hread, hmore]
    rw [if_pos hshorter]
    simp only [List.length_append, List.length_cons, Prod.mk.injEq, Cursor.mk.injEq, and_true,
      true_and]
    omega

theorem separatedList_reads {n : Nat}
    (hitem : ∀ a ∈ as, ∀ after, after = rest ∨ after.head? = some s →
      (f a ++ after).length < n → Reads p (f a) a after)
    (hseparator : ∀ after, Reads separator [s] () after) (hstop : Refuses separator rest)
    (hempty : as = [] → Refuses p rest) (hn : (separated s f as ++ rest).length < n) :
    Reads (separatedList p separator) (separated s f as) as rest := by
  intro position
  cases as with
  | nil =>
    obtain ⟨e, he⟩ := hempty rfl position
    simp [separatedList, separated, he]
  | cons a as =>
    rw [separated, List.append_assoc] at hn
    have hread := hitem a List.mem_cons_self _ (separators_head as f s rest) hn position
    have hmore := separatedMore_reads (fun b hb => hitem b (List.mem_cons_of_mem _ hb))
      hseparator hstop (position + (f a).length) (by rw [List.length_append] at hn; omega)
    simp only [separatedList, separated, List.append_assoc, hread, hmore, List.length_append,
      Nat.add_assoc]

theorem separatedMore_yields (hitem : Yields p (fun ts a => ts = f a))
    (hseparator : Yields separator (fun ts _ => ts = [s])) (c : Cursor τ) :
    c.rest = (separatedMore p separator c).1.flatMap (fun b => s :: f b)
      ++ (separatedMore p separator c).2.rest := by
  induction hn : c.rest.length using Nat.strongRecOn generalizing c with
  | ind n ih =>
    rw [separatedMore]
    cases hs : separator c with
    | error e => rfl
    | ok first =>
      obtain ⟨u, middle⟩ := first
      obtain ⟨_, hmiddle, rfl⟩ := hseparator c u middle hs
      cases hp : p middle with
      | error e => simp only [hp]; rfl
      | ok second =>
        obtain ⟨a, after⟩ := second
        obtain ⟨_, hafter, rfl⟩ := hitem middle a after hp
        simp only [hp]
        split
        next hshorter =>
          have hmore := ih after.rest.length (hn ▸ hshorter) after rfl
          rw [List.flatMap_cons, List.append_assoc, ← hmore, hmiddle, hafter]
          rfl
        next => rfl

theorem separatedList_yields (hitem : Yields p (fun ts a => ts = f a))
    (hseparator : Yields separator (fun ts _ => ts = [s])) :
    Yields (separatedList p separator) (fun ts as => ts = separated s f as) := by
  intro c as after hok
  cases hp : p c with
  | error e =>
    simp only [separatedList, hp] at hok
    cases hok
    exact ⟨[], rfl, rfl⟩
  | ok first =>
    obtain ⟨a, middle⟩ := first
    obtain ⟨_, hmiddle, rfl⟩ := hitem c a middle hp
    simp only [separatedList, hp] at hok
    cases hok
    refine ⟨_, ?_, rfl⟩
    rw [separated, List.append_assoc, ← separatedMore_yields hitem hseparator middle, hmiddle]

end Repeated

/-! ### A parser in terms of itself -/

/-- The parser `p` where fewer than `n` tokens are left. -/
def below (n : Nat) (p : Parser τ α) : Parser τ α := fun c =>
  if c.rest.length < n then p c else .error (.noAlternative c.position)

theorem below_reads {n : Nat} (h : Reads p ts a rest) (hn : (ts ++ rest).length < n) :
    Reads (below n p) ts a rest := fun position => (if_pos hn).trans (h position)

theorem below_refuses {n : Nat} (h : Refuses p rest) : Refuses (below n p) rest := by
  intro position
  obtain ⟨e, he⟩ := h position
  by_cases hn : rest.length < n
  · exact ⟨e, (if_pos hn).trans he⟩
  · exact ⟨.noAlternative position, if_neg hn⟩

theorem recursive_eq (body : Parser τ α → Parser τ α) (c : Cursor τ) :
    recursive body c = body (below c.rest.length (recursive body)) c := by
  rw [recursive]
  rfl

theorem recursive_yields {body : Parser τ α → Parser τ α}
    (h : ∀ p, Yields p R → Yields (body p) R) : Yields (recursive body) R := by
  intro c
  induction hn : c.rest.length using Nat.strongRecOn generalizing c with
  | ind n ih =>
    intro a after hok
    rw [recursive_eq] at hok
    refine h (below c.rest.length (recursive body)) ?_ c a after hok
    intro inner b behind hinner
    by_cases hshorter : inner.rest.length < c.rest.length
    · have hbelow := (if_pos hshorter).symm.trans hinner
      exact ih inner.rest.length (hn ▸ hshorter) inner rfl b behind hbelow
    · cases (if_neg hshorter).symm.trans hinner

end Parser

end CoachScript
