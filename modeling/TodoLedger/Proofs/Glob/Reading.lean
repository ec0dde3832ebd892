import TodoLedger.Proofs.Glob.Draft

/-! How patterns are read. Ordinary characters around a pattern change nothing; and all below a pattern is read as the
pattern with all below it. -/

namespace TodoLedger.Glob

namespace Draft

variable {d d' : Draft} {t : Token}

/-! ### Texts -/

theorem foldlM_congr (same : d.status = d'.status) (t : Text) :
    (t.foldlM feed d).map status = (t.foldlM feed d').map status := by
  induction t generalizing d d' with
  | nil => exact ok_congr same
  | cons c t ih =>
    have step := feed_congr same c
    rw [List.foldlM_cons, List.foldlM_cons]
    cases h : d.feed c <;> cases h' : d'.feed c <;> rw [h, h'] at step
    case error.error => exact congrArg Except.error (Except.error.inj step)
    case error.ok => cases step
    case ok.error => cases step
    case ok.ok => exact ih (Except.ok.inj step)

theorem foldlM_invariant {P : Draft → Prop} {t : Text} (start : P d) (fed : t.foldlM feed d = .ok d')
    (step : ∀ d c e, c ∈ t → P d → d.feed c = .ok e → P e) : P d' := by
  induction t generalizing d with
  | nil =>
    cases fed
    exact start
  | cons c t ih =>
    rw [List.foldlM_cons] at fed
    cases first : d.feed c with
    | error f =>
      rw [first] at fed
      cases fed
    | ok e =>
      rw [first] at fed
      exact ih (step d c e List.mem_cons_self start first) fed fun d c e hc => step d c e (List.mem_cons_of_mem _ hc)

/-- Ordinary characters are read where a pattern may end, and lead to where it may end. -/
theorem foldlM_of_ends {t : Text} (ends : Ends d.reading) (ordinary : ∀ c ∈ t, c ∉ special) :
    ∃ e, t.foldlM feed d = .ok e ∧ Ends e.reading ∧ (d.reading = .plain → e.reading = .plain) ∧
      e.groups = d.groups := by
  induction t generalizing d with
  | nil => exact ⟨d, rfl, ends, id, rfl⟩
  | cons c t ih =>
    obtain ⟨e, fed, plain, groups⟩ := feed_of_ends ends (ordinary c List.mem_cons_self)
    obtain ⟨e', fed', ends', plain', groups'⟩ :=
      ih (d := e) (by simp [plain, Ends]) fun c hc => ordinary c (List.mem_cons_of_mem _ hc)
    refine ⟨e', ?_, ends', fun _ => plain' plain, groups'.trans groups⟩
    rw [List.foldlM_cons, fed]
    exact fed'

/-- Ordinary characters make no pattern whole, unless one was waited for after a backslash. -/
theorem whole_of_foldlM {t : Text} (fed : t.foldlM feed d = .ok d') (whole : Whole d')
    (ordinary : ∀ c ∈ t, c ∉ special ∧ c ≠ ']') (escaped : d.reading ≠ .escaped) : Whole d := by
  induction t generalizing d with
  | nil =>
    cases fed
    exact whole
  | cons c t ih =>
    rw [List.foldlM_cons] at fed
    obtain ⟨plain, bracket⟩ := ordinary c List.mem_cons_self
    cases first : d.feed c with
    | error f =>
      rw [first] at fed
      cases fed
    | ok e =>
      rw [first] at fed
      have not_escaped : e.reading ≠ .escaped := fun h =>
        plain (by simp [special, (feed_frame first).1 h])
      have whole_e := ih fed (fun c hc => ordinary c (List.mem_cons_of_mem _ hc)) not_escaped
      exact whole_of_feed first whole_e plain bracket escaped

/-! ### All below -/

theorem settleStars_of_closed (closed : d.groups = []) (before next : Option Char) :
    d.settleStars before next =
      let p := { d with reading := .plain }
      if d.parts = [] then
        if next = none ∨ next = some '/' then (p.push .leadingDirs, true) else (p.pushTwoStars, false)
      else if before ≠ some '/' then (p.pushTwoStars, false)
      else if next = none then (p.pushDoubleStar .everythingBelow, true)
      else if next = some '/' then (p.pushDoubleStar .innerDirs, true)
      else (p.pushTwoStars, false) := by
  simp [settleStars, closed]

theorem pushDoubleStar_parts_ne_nil : (d.pushDoubleStar t).parts ≠ [] := by
  rw [pushDoubleStar]
  split <;> simp_all

theorem pushDoubleStar_parts_congr (same : d.parts = d'.parts) :
    (d.pushDoubleStar t).parts = (d'.pushDoubleStar t).parts := by
  obtain ⟨r, last, parts, groups⟩ := d
  obtain ⟨r', last', _, groups'⟩ := d'
  obtain rfl := same
  rw [pushDoubleStar, pushDoubleStar]
  dsimp only
  split <;> rfl

/-- What a double star becomes at the end depends on the parts before it alone. -/
theorem pushDoubleStar_inner_below :
    ((d.pushDoubleStar .innerDirs).pushDoubleStar .everythingBelow).parts = (d.pushDoubleStar .everythingBelow).parts := by
  obtain ⟨r, last, parts, groups⟩ := d
  cases parts with
  | nil => rfl
  | cons t before => cases t <;> rfl

theorem LeadsAlone.pushDoubleStar_below (alone : d.LeadsAlone) :
    (d.pushDoubleStar .everythingBelow).parts = [.leadingDirs] ∨
      ∃ before, (d.pushDoubleStar .everythingBelow).parts = .everythingBelow :: before := by
  rw [Draft.pushDoubleStar]
  split
  · rename_i before leads
    exact Or.inl (by rw [leads, alone before leads])
  · rename_i before same
    exact Or.inr ⟨before, same⟩
  · exact Or.inr ⟨_, rfl⟩

/-- Two stars after a slash, at the end. -/
theorem finish_stars (plain : d.reading = .plain) (slash : d.last = some '/') (some_part : d.parts ≠ [])
    (closed : d.groups = []) :
    (['*', '*'].foldlM feed d >>= finish) = .ok (d.pushDoubleStar .everythingBelow).parts.reverse := by
  obtain ⟨r, last, parts, groups⟩ := d
  obtain rfl : r = .plain := plain
  obtain rfl : last = some '/' := slash
  obtain rfl : groups = [] := closed
  have read : ['*', '*'].foldlM feed ⟨.plain, some '/', parts, []⟩ = .ok ⟨.stars (some '/'), some '*', parts, []⟩ := rfl
  rw [read, ok_bind, finish_of_stars rfl, settleStars_of_closed rfl]
  simp only [List.isEmpty_nil, if_true, some_part, if_false, ne_eq, not_true_eq_false]
  exact congrArg (fun parts => Except.ok (List.reverse parts)) (pushDoubleStar_parts_congr rfl)

theorem finish_slash_stars (plain : d.reading = .plain) (closed : d.groups = []) :
    (['/', '*', '*'].foldlM feed d >>= finish) = .ok (d.parts.reverse ++ [.everythingBelow]) := by
  have read : d.feed '/' = .ok ({ d with reading := .plain, last := some '/' }.push (.literal '/')) := by
    rw [feed, plain]
    rfl
  have all := finish_stars (d := { d with reading := .plain, last := some '/' }.push (.literal '/')) rfl rfl
    (List.cons_ne_nil _ _) closed
  rw [List.foldlM_cons, read, ok_bind, all]
  simp [push, pushDoubleStar]

/-- Parts with all below them, or parts that come to all below already. -/
def Below (ts us : List Token) : Prop :=
  us = ts ++ [.everythingBelow] ∨ us = ts ∧ (ts = [.leadingDirs] ∨ ∃ front, ts = front ++ [.everythingBelow])

/-- Two stars that go on with all below. -/
theorem finish_below_of_stars {before : Option Char} (stars : d.reading = .stars before) (alone : d.LeadsAlone)
    (closed : d.groups = []) :
    ∃ us, (['/', '*', '*'].foldlM feed d >>= finish) = .ok us ∧ Below (d.settleStars before none).1.parts.reverse us := by
  let p : Draft := { d with reading := .plain }
  have settled := settleStars_of_closed closed before
  by_cases empty : d.parts = []
  · -- a double star that is all there is matches all, and so it does with a slash after it
    have ended : (d.settleStars before none).1 = p.push .leadingDirs := by
      rw [settled]
      simp [empty, p]
    have taken : d.settleStars before (some '/') = (p.push .leadingDirs, true) := by
      rw [settled]
      simp [empty, p]
    have all := finish_stars (d := { p.push .leadingDirs with last := some '/' }) rfl rfl (List.cons_ne_nil _ _) closed
    rw [List.foldlM_cons, feed_of_taken stars taken, ok_bind, ended]
    refine ⟨_, all, Or.inr ⟨rfl, Or.inl ?_⟩⟩
    simp [push, p, empty]
  by_cases after : before = some '/'
  · -- the second double star takes the place of the first
    have ended : (d.settleStars before none).1 = p.pushDoubleStar .everythingBelow := by
      rw [settled]
      simp [empty, after, p]
    have taken : d.settleStars before (some '/') = (p.pushDoubleStar .innerDirs, true) := by
      rw [settled]
      simp [empty, after, p]
    let q : Draft := { p.pushDoubleStar .innerDirs with last := some '/' }
    have all := finish_stars (d := q) pushDoubleStar_reading rfl pushDoubleStar_parts_ne_nil
      (pushDoubleStar_groups.trans closed)
    have same : (q.pushDoubleStar .everythingBelow).parts =
        ((p.pushDoubleStar .innerDirs).pushDoubleStar .everythingBelow).parts := pushDoubleStar_parts_congr rfl
    rw [pushDoubleStar_inner_below] at same
    rw [List.foldlM_cons, feed_of_taken stars taken, ok_bind, ended]
    refine ⟨_, all.trans (congrArg (fun parts => Except.ok (List.reverse parts)) same), Or.inr ⟨rfl, ?_⟩⟩
    rcases LeadsAlone.pushDoubleStar_below (d := p) alone with leads | ⟨front, below⟩
    · exact Or.inl (by rw [leads]; rfl)
    · exact Or.inr ⟨front.reverse, by rw [below, List.reverse_cons]⟩
  · have ended : (d.settleStars before none).1 = p.pushTwoStars := by
      rw [settled]
      simp [empty, after, p]
    have kept : d.settleStars before (some '/') = (p.pushTwoStars, false) := by
      rw [settled]
      simp [empty, after, p]
    have all := finish_slash_stars (d := p.pushTwoStars) rfl closed
    rw [List.foldlM_cons, feed_of_kept stars kept, ended]
    exact ⟨_, all, Or.inl rfl⟩

/-- A whole draft that goes on with all below comes to its parts and all below, unless it comes to all below
already. -/
theorem finish_below (alone : d.LeadsAlone) {ts : List Token} (finished : d.finish = .ok ts) :
    ∃ us, (['/', '*', '*'].foldlM feed d >>= finish) = .ok us ∧ Below ts us := by
  have closed := (exists_finish_iff.mp ⟨ts, finished⟩).closed
  cases hr : d.reading with
  | plain =>
    rw [finish_of_plain hr, closed] at finished
    cases finished
    exact ⟨_, finish_slash_stars hr closed, Or.inl rfl⟩
  | star before =>
    rw [finish_of_star hr, closed] at finished
    cases finished
    have read : d.feed '/' = feed { d.push .anyRun with reading := .plain } '/' := by
      rw [feed, hr]
      rfl
    have all := finish_slash_stars (d := { d.push .anyRun with reading := .plain }) rfl closed
    rw [List.foldlM_cons, ← read, ← List.foldlM_cons] at all
    exact ⟨_, all, Or.inl (by simp [push])⟩
  | stars before =>
    rw [finish_of_stars hr, closed] at finished
    cases finished
    exact finish_below_of_stars hr alone closed
  | escaped | classStart | inClass _ _ _ _ =>
    rw [finish, hr] at finished
    cases finished

end Draft

namespace Pattern

open Draft

variable {t core : Text} {ts : List Token} {p : Pattern}

theorem read_eq_ok_iff : read t = .ok p ↔ p.text = t ∧ readTokens t = .ok p.tokens := by
  rw [read]
  cases readTokens t with
  | error f => exact iff_of_false nofun fun h => nomatch h.2
  | ok ts =>
    obtain ⟨text, tokens⟩ := p
    simp [Pattern.mk.injEq]
    exact fun _ => eq_comm

theorem read_eq_error {f : Fault} (h : readTokens t = .error f) : read t = .error (.unread t f) := by rw [read, h]

theorem exists_read_iff : (∃ p, read t = .ok p) ↔ ∃ ts, readTokens t = .ok ts :=
  ⟨fun ⟨p, h⟩ => ⟨p.tokens, (read_eq_ok_iff.mp h).2⟩, fun ⟨ts, h⟩ => ⟨⟨t, ts⟩, read_eq_ok_iff.mpr ⟨rfl, h⟩⟩⟩

theorem exists_readTokens_iff : (∃ ts, readTokens t = .ok ts) ↔ ∃ d, t.foldlM feed start = .ok d ∧ Whole d := by
  rw [readTokens]
  cases t.foldlM feed start with
  | error f => exact iff_of_false nofun nofun
  | ok d =>
    rw [ok_bind, exists_finish_iff]
    simp

/-- Ordinary characters around a text without backslashes do not change whether it can be read. -/
theorem exists_readTokens_surrounded {front back : Text} (before : ∀ c ∈ front, c ∉ special)
    (after : ∀ c ∈ back, c ∉ special ∧ c ≠ ']') (plain : '\\' ∉ core) :
    (∃ ts, readTokens (front ++ core ++ back) = .ok ts) ↔ ∃ ts, readTokens core = .ok ts := by
  obtain ⟨e, fed, -, stays, groups⟩ := foldlM_of_ends (d := start) trivial before
  have same : e.status = start.status := Prod.ext (congrArg Reading.kind (stays rfl)) (congrArg List.length groups)
  have reads := foldlM_congr same core
  simp only [exists_readTokens_iff, List.foldlM_append, fed]
  change (∃ d, (core.foldlM feed e >>= fun d => back.foldlM feed d) = .ok d ∧ Whole d) ↔ _
  cases found : core.foldlM feed e with
  | error f =>
    cases found' : core.foldlM feed start with
    | error f' => exact iff_of_false nofun nofun
    | ok d' =>
      rw [found, found'] at reads
      cases reads
  | ok d =>
    cases found' : core.foldlM feed start with
    | error f' =>
      rw [found, found'] at reads
      cases reads
    | ok d' =>
      rw [found, found'] at reads
      have same := Except.ok.inj reads
      -- without this the first character behind the core could be one that a backslash waits for
      have not_escaped : d.reading ≠ .escaped := by
        refine foldlM_invariant (P := fun d => d.reading ≠ .escaped) ?_ found fun d c e hc _ fed h => ?_
        · rw [stays rfl]
          nofun
        · exact plain ((feed_frame fed).1 h ▸ hc)
      constructor
      · rintro ⟨u, read, whole⟩
        exact ⟨d', rfl, (whole_of_foldlM read whole after not_escaped).congr same⟩
      · rintro ⟨_, read, whole⟩
        cases read
        have whole := whole.congr same.symm
        obtain ⟨u, read, ends, -, groups⟩ := foldlM_of_ends whole.ends fun c hc => (after c hc).1
        exact ⟨u, read, ends, groups.trans whole.closed⟩

/-- With all below it, a pattern has its own parts and one more, unless it comes to all below already. -/
theorem readTokens_below (readable : readTokens t = .ok ts) :
    ∃ us, readTokens (t ++ "/**".toList) = .ok us ∧ Below ts us := by
  rw [readTokens] at readable
  cases found : t.foldlM feed start with
  | error f =>
    rw [found] at readable
    cases readable
  | ok d =>
    rw [found, ok_bind] at readable
    have alone : d.LeadsAlone :=
      foldlM_invariant (P := LeadsAlone) (fun _ same => absurd same.symm (List.cons_ne_nil _ _)) found
        fun d c e _ alone fed => (feed_frame fed).2 alone
    obtain ⟨us, read, shape⟩ := finish_below alone readable
    refine ⟨us, ?_, shape⟩
    rw [readTokens, List.foldlM_append, found]
    exact read

end Pattern
end TodoLedger.Glob
