import TodoLedger.Proofs.Directive.Line

/-! Which lines are directives. The comment of a line begins at the first place where an opener stands, and the line
is a directive if a keyword stands in its comment as a whole word. A search that goes on after each word it finds comes
to the same keywords, since whole words do not overlap. -/

namespace TodoLedger

theorem Text.startsInWord_eq_false_iff {t : Text} : startsInWord t = false ↔ ∀ c ∈ t.head?, isWord c = false := by
  cases t <;> simp [startsInWord]

/-! ### Whole words -/

namespace Keyword

variable {k j : Keyword} {word t : Text} {c : Char} {inWord : Bool}

/-- The keyword stands in a text as a whole word: in any letter case, and with no word character next to it. -/
def StandsIn (k : Keyword) (t : Text) : Prop :=
  ∃ before word after, t = before ++ word ++ after ∧ Text.lowerAscii word = k.word ∧
    (∀ c ∈ before.getLast?, Text.isWord c = false) ∧ ∀ c ∈ after.head?, Text.isWord c = false

theorem dropWord?_eq_some_iff {rest : Text} : dropWord? word t = some rest ↔
    ∃ front, t = front ++ rest ∧ Text.lowerAscii front = word := by
  induction word generalizing t with
  | nil => simp [dropWord?, Text.lowerAscii]
  | cons w word ih =>
    cases t with
    | nil =>
      simp only [dropWord?, reduceCtorEq, false_iff]
      rintro ⟨front, empty, spelled⟩
      rw [(List.append_eq_nil_iff.mp empty.symm).1] at spelled
      cases spelled
    | cons c r =>
      rw [dropWord?]
      split
      · rename_i hw
        rw [ih]
        constructor
        · rintro ⟨front, rfl, rfl⟩
          exact ⟨c :: front, rfl, by rw [Text.lowerAscii, List.map_cons, hw]; rfl⟩
        · rintro ⟨front, split, spelled⟩
          cases front with
          | nil => cases spelled
          | cons d front =>
            obtain ⟨rfl, rfl⟩ := List.cons.inj split
            exact ⟨front, rfl, (List.cons.inj spelled).2⟩
      · rename_i hw
        simp only [reduceCtorEq, false_iff]
        rintro ⟨front, split, spelled⟩
        cases front with
        | nil => cases spelled
        | cons d front =>
          obtain ⟨rfl, -⟩ := List.cons.inj split
          exact hw (List.cons.inj spelled).1

theorem leads_iff : k.leads t = true ↔ ∃ word after, t = word ++ after ∧ Text.lowerAscii word = k.word ∧
    ∀ c ∈ after.head?, Text.isWord c = false := by
  rw [leads]
  constructor
  · intro h
    cases hr : dropWord? k.word t with
    | none => simp [hr] at h
    | some after =>
      obtain ⟨word, split, spelled⟩ := dropWord?_eq_some_iff.mp hr
      rw [hr] at h
      exact ⟨word, after, split, spelled, Text.startsInWord_eq_false_iff.mp (by simpa using h)⟩
  · rintro ⟨word, after, split, spelled, apart⟩
    rw [dropWord?_eq_some_iff.mpr ⟨word, split, spelled⟩]
    simpa using Text.startsInWord_eq_false_iff.mpr apart

theorem mentionedAfter_iff : k.mentionedAfter inWord t = true ↔
    ∃ before word after, t = before ++ word ++ after ∧ Text.lowerAscii word = k.word ∧ (before = [] → inWord = false) ∧
      (∀ c ∈ before.getLast?, Text.isWord c = false) ∧ ∀ c ∈ after.head?, Text.isWord c = false := by
  -- what stands before the text only matters to a word at its very start
  induction t generalizing inWord with
  | nil =>
    simp only [mentionedAfter, Bool.false_eq_true, false_iff]
    rintro ⟨before, word, after, empty, spelled, -⟩
    rw [(List.append_eq_nil_iff.mp (List.append_eq_nil_iff.mp empty.symm).1).2] at spelled
    cases k <;> cases spelled
  | cons c r ih =>
    rw [mentionedAfter, Bool.or_eq_true, Bool.and_eq_true, ih, leads_iff]
    constructor
    · rintro (⟨hw, word, after, split, spelled, apart⟩ | ⟨before, word, after, rfl, spelled, start, last, apart⟩)
      · exact ⟨[], word, after, split, spelled, fun _ => by simpa using hw, by simp, apart⟩
      · refine ⟨c :: before, word, after, rfl, spelled, (absurd · (List.cons_ne_nil c before)), ?_, apart⟩
        cases before with
        | nil => simpa using start rfl
        | cons d before => simpa [List.getLast?_cons_cons] using last
    · rintro ⟨before, word, after, split, spelled, start, last, apart⟩
      cases before with
      | nil => exact Or.inl ⟨by simpa using start rfl, word, after, split, spelled, apart⟩
      | cons d before =>
        obtain ⟨rfl, rfl⟩ := List.cons.inj split
        refine Or.inr ⟨before, word, after, rfl, spelled, ?_, ?_, apart⟩
        · rintro rfl
          simpa using last
        · cases before with
          | nil => simp
          | cons e before => simpa [List.getLast?_cons_cons] using last

theorem mentionedIn_iff : k.mentionedIn t = true ↔ k.StandsIn t := by
  simp [mentionedIn, mentionedAfter_iff, StandsIn]

instance : Decidable (k.StandsIn t) := decidable_of_iff _ mentionedIn_iff

/-! ### Searching from word to word -/

theorem parse?_eq_some_iff : parse? t = some k ↔ Text.lowerAscii t = k.word := by
  constructor
  · intro h
    have spelled := List.find?_some (p := fun k : Keyword => k.word == Text.lowerAscii t) h
    exact (beq_iff_eq.mp spelled).symm
  · intro h
    rw [parse?, h]
    cases k <;> rfl

theorem lowerAscii_of_leads (h : k.leads t = true) : Text.lowerAscii (t.take k.word.length) = k.word := by
  obtain ⟨word, after, rfl, spelled, -⟩ := leads_iff.mp h
  rw [List.take_left' (by rw [← spelled, Text.lowerAscii, List.length_map]), spelled]

/-- No keyword is the front of the other, so at most one stands at a place. -/
theorem eq_of_leads (hk : k.leads t = true) (hj : j.leads t = true) : k = j := by
  have apart : ∀ k j : Keyword, k.word <+: j.word → k = j := by
    intro k j
    cases k <;> cases j <;> decide
  have front : ∀ k : Keyword, k.leads t = true → k.word <+: Text.lowerAscii t := by
    intro k hk
    obtain ⟨word, after, rfl, spelled, -⟩ := leads_iff.mp hk
    rw [← spelled, Text.lowerAscii, Text.lowerAscii, List.map_append]
    exact List.prefix_append _ _
  rcases List.prefix_or_prefix_of_prefix (front k hk) (front j hj) with pre | pre
  · exact apart k j pre
  · exact (apart j k pre).symm

/-- The letters of a keyword are word characters in either case. -/
theorem isWord_of_toLower_mem (hc : c.toLower ∈ k.word) : Text.isWord c = true := by
  by_cases upper : c.isUpper = true
  · have bounds : 65 ≤ c.toNat ∧ c.toNat ≤ 90 := of_decide_eq_true upper
    have letter : c.isAlphanum = true := Bool.or_eq_true_iff.mpr (Or.inl (Bool.or_eq_true_iff.mpr (Or.inl upper)))
    rw [Text.isWord, if_pos (by omega), letter, Bool.true_or]
  · have same : c.toLower = c := dif_neg fun bounds => upper (decide_eq_true bounds)
    have letters : k.word.all Text.isWord = true := by cases k <;> rfl
    exact List.all_eq_true.mp letters c (same ▸ hc)

theorem isWord_of_leads (h : k.leads (c :: t) = true) :
    Text.isWord c = true ∧ ∀ d ∈ t.take (k.word.length - 1), Text.isWord d = true := by
  have word : ∀ d ∈ (c :: t).take k.word.length, Text.isWord d = true := by
    intro d hd
    refine isWord_of_toLower_mem (k := k) ?_
    rw [← lowerAscii_of_leads h]
    exact List.mem_map_of_mem hd
  have length : k.word.length = k.word.length - 1 + 1 := by cases k <;> rfl
  rw [length, List.take_succ_cons] at word
  exact List.forall_mem_cons.mp word

/-- The words that a search for keywords finds from left to right behind the next `skip` characters. After a word the
search goes on at its end. -/
def found (inWord : Bool) (skip : Nat) : Text → List Text
  | [] => []
  | c :: r =>
    match skip with
    | s + 1 => found (Text.isWord c) s r
    | 0 =>
      match all.find? fun k => !inWord && k.leads (c :: r) with
      | some k => (c :: r).take k.word.length :: found (Text.isWord c) (k.word.length - 1) r
      | none => found (Text.isWord c) 0 r

/-- No keyword stands inside a word that was found, so the search misses none. -/
theorem mem_found_iff {skip : Nat}
    (inside : skip ≠ 0 → inWord = true ∧ ∀ c ∈ t.take skip, Text.isWord c = true) :
    k ∈ (found inWord skip t).filterMap parse? ↔ k.mentionedAfter inWord t = true := by
  induction t generalizing inWord skip with
  | nil => simp [found, mentionedAfter]
  | cons c r ih =>
    rw [mentionedAfter, Bool.or_eq_true]
    cases skip with
    | succ s =>
      -- within a word that was found nothing begins
      obtain ⟨rfl, word⟩ := inside (Nat.succ_ne_zero s)
      rw [found, ih fun _ => ⟨word c List.mem_cons_self, fun d hd => word d (List.mem_cons_of_mem c hd)⟩]
      simp
    | zero =>
      rw [found]
      cases hj : all.find? fun k => !inWord && k.leads (c :: r) with
      | none =>
        have not_here := List.find?_eq_none.mp hj k (by cases k <;> decide)
        rw [or_iff_right not_here]
        exact ih (absurd rfl)
      | some j =>
        have here := List.find?_some (p := fun k : Keyword => !inWord && k.leads (c :: r)) hj
        obtain ⟨start, leads⟩ := Bool.and_eq_true_iff.mp here
        -- the keyword that was found is the one that stands here, and its end is where the search goes on
        have only : k = j ↔ (!inWord && k.leads (c :: r)) = true := by
          constructor
          · rintro rfl
            exact here
          · intro hk
            exact eq_of_leads (Bool.and_eq_true_iff.mp hk).2 leads
        rw [List.filterMap_cons_some (parse?_eq_some_iff.mpr (lowerAscii_of_leads leads)), List.mem_cons, only,
          ih fun _ => isWord_of_leads leads]

end Keyword

namespace KeywordSet

variable {k : Keyword} {ks : List Keyword}

theorem has_ofList : (ofList ks).has k = true ↔ k ∈ ks := by
  cases k <;> simp [ofList, has]

theorem has_mentionedIn (k : Keyword) (t : Text) : (mentionedIn t).has k = k.mentionedIn t := by
  cases k <;> rfl

theorem ext_has {a b : KeywordSet} (h : ∀ k, a.has k = true ↔ b.has k = true) : a = b := by
  cases a
  cases b
  exact congrArg₂ KeywordSet.mk (Bool.eq_iff_iff.mpr (h .todo)) (Bool.eq_iff_iff.mpr (h .fixme))

theorem isEmpty_eq_false_iff {s : KeywordSet} : s.isEmpty = false ↔ ∃ k, s.has k = true := by
  rw [isEmpty, ← Bool.not_or, Bool.not_eq_false', Bool.or_eq_true]
  constructor
  · rintro (h | h)
    · exact ⟨.todo, h⟩
    · exact ⟨.fixme, h⟩
  · rintro ⟨k, h⟩
    cases k
    · exact Or.inl h
    · exact Or.inr h

theorem mentionedIn_eq_ofList (t : Text) :
    mentionedIn t = ofList ((Keyword.found false 0 t).filterMap Keyword.parse?) := by
  refine ext_has fun k => ?_
  rw [has_mentionedIn, has_ofList, Keyword.mem_found_iff (absurd rfl), Keyword.mentionedIn]

end KeywordSet

/-! ### The place of the comment -/

namespace Comment

variable {openers : List Opener} {line : Text} {k : Comment}

theorem opening?_nil (openers : List Opener) : opening? openers [] = none := by
  refine List.find?_eq_none.mpr fun o _ pre => ?_
  exact o.mark_ne_nil (List.prefix_nil.mp (List.isPrefixOf_iff_prefix.mp pre))

/-- A line is cut where an opener stands and none stands before. -/
theorem split?_eq_some_iff : split? openers line = some k ↔ k.code ++ k.text = line ∧
    opening? openers k.text = some k.opener ∧ ∀ i < k.code.length, opening? openers (line.drop i) = none := by
  obtain ⟨code, text, o⟩ := k
  induction line generalizing code with
  | nil =>
    simp only [split?, reduceCtorEq, false_iff]
    rintro ⟨empty, opens, -⟩
    obtain ⟨rfl, rfl⟩ := List.append_eq_nil_iff.mp empty
    rw [opening?_nil] at opens
    cases opens
  | cons c r ih =>
    rw [split?]
    cases ho : opening? openers (c :: r) with
    | some o' =>
      simp only [Option.some.injEq, Comment.mk.injEq]
      constructor
      · rintro ⟨rfl, rfl, rfl⟩
        exact ⟨rfl, ho, fun i hi => absurd hi (Nat.not_lt_zero i)⟩
      · rintro ⟨whole, opens, first⟩
        cases code with
        | nil =>
          obtain rfl : text = c :: r := whole
          exact ⟨rfl, rfl, Option.some.inj (ho.symm.trans opens)⟩
        | cons d code =>
          have no_opener := first 0 (Nat.succ_pos _)
          rw [List.drop_zero, ho] at no_opener
          cases no_opener
    | none =>
      simp only [Option.map_eq_some_iff, Comment.mk.injEq]
      constructor
      · rintro ⟨⟨code', text', o'⟩, hk, rfl, rfl, rfl⟩
        obtain ⟨whole, opens, first⟩ := (ih code').mp hk
        refine ⟨congrArg (c :: ·) whole, opens, fun i hi => ?_⟩
        cases i with
        | zero => exact ho
        | succ i => exact first i (Nat.lt_of_succ_lt_succ hi)
      · rintro ⟨whole, opens, first⟩
        cases code with
        | nil =>
          obtain rfl : text = c :: r := whole
          rw [ho] at opens
          cases opens
        | cons d code =>
          obtain ⟨rfl, later⟩ := List.cons.inj whole
          have hk := (ih code).mpr ⟨later, opens, fun i hi => first (i + 1) (Nat.succ_lt_succ hi)⟩
          exact ⟨_, hk, rfl, rfl, rfl⟩

theorem isSome_directive?_iff : k.directive?.isSome ↔ ∃ j : Keyword, j.StandsIn k.text := by
  have keywords : (KeywordSet.mentionedIn k.text).isEmpty = false ↔ ∃ j : Keyword, j.StandsIn k.text := by
    simp only [KeywordSet.isEmpty_eq_false_iff, KeywordSet.has_mentionedIn, Keyword.mentionedIn_iff]
  rw [← keywords, directive?]
  split
  · rename_i empty
    simp [empty]
  · rename_i some_keyword
    simpa using some_keyword

theorem of_directive? {d : Directive} (hd : k.directive? = some d) :
    d.keywords = KeywordSet.mentionedIn k.text ∧ d.structured = k.structured? := by
  rw [directive?] at hd
  split at hd
  · cases hd
  · cases hd
    exact ⟨rfl, rfl⟩

end Comment

namespace Language

variable {l : Language} {line : Text} {k : Comment} {i : Nat}

/-- The line marker or the start of a block comment stands at a place of a line. -/
def OpensAt (l : Language) (line : Text) (i : Nat) : Prop :=
  l.lineMarker <+: line.drop i ∨ ∃ b ∈ l.block, b.start <+: line.drop i

/-- The comment of a line begins at a place: an opener stands there, and none stands before. -/
def CommentAt (l : Language) (line : Text) (i : Nat) : Prop := l.OpensAt line i ∧ ∀ j < i, ¬l.OpensAt line j

theorem isSome_opening?_iff : (Comment.opening? l.openers (line.drop i)).isSome ↔ l.OpensAt line i := by
  simp [Comment.opening?, openers, OpensAt, List.isPrefixOf_iff_prefix]

theorem opening?_eq_none_iff : Comment.opening? l.openers (line.drop i) = none ↔ ¬l.OpensAt line i := by
  rw [← isSome_opening?_iff, Option.not_isSome_iff_eq_none]

instance : Decidable (l.OpensAt line i) := decidable_of_iff _ isSome_opening?_iff

instance : Decidable (l.CommentAt line i) := inferInstanceAs (Decidable (_ ∧ _))

theorem commentAt_of_split? (hk : Comment.split? l.openers line = some k) :
    l.CommentAt line k.code.length ∧ line.drop k.code.length = k.text := by
  obtain ⟨whole, opens, first⟩ := Comment.split?_eq_some_iff.mp hk
  have text : line.drop k.code.length = k.text := by rw [← whole, List.drop_left]
  refine ⟨⟨isSome_opening?_iff.mp ?_, fun j hj => opening?_eq_none_iff.mp (first j hj)⟩, text⟩
  rw [text, opens]
  rfl

theorem CommentAt.exists_split? (h : l.CommentAt line i) :
    ∃ o, Comment.split? l.openers line = some ⟨line.take i, line.drop i, o⟩ := by
  obtain ⟨o, ho⟩ := Option.isSome_iff_exists.mp (isSome_opening?_iff.mpr h.1)
  refine ⟨o, Comment.split?_eq_some_iff.mpr ⟨List.take_append_drop i line, ho, fun j hj => ?_⟩⟩
  have before : j < i := Nat.lt_of_lt_of_le hj (List.length_take_le i line)
  exact opening?_eq_none_iff.mpr (h.2 j before)

/-- A line has a directive if an opener stands in it and, from the first one on, a keyword stands as a whole word. The
directive then has the keywords that do, however many words there are, and the line as it is. -/
theorem directive_iff_mentions (l : Language) (line : Text) :
    ((l.parse? line).isSome ↔ ∃ i, l.CommentAt line i ∧ ∃ k : Keyword, k.StandsIn (line.drop i)) ∧
    ∀ d, l.parse? line = some d → d.line = line ∧ ∃ i, l.CommentAt line i ∧
      (∀ k : Keyword, d.keywords.has k = true ↔ k.StandsIn (line.drop i)) ∧
      d.keywords = KeywordSet.ofList ((Keyword.found false 0 (line.drop i)).filterMap Keyword.parse?) := by
  refine ⟨⟨fun hd => ?_, ?_⟩, fun d hd => ⟨Grammar.line_of_parse? hd, ?_⟩⟩
  · obtain ⟨d, hd⟩ := Option.isSome_iff_exists.mp hd
    obtain ⟨k, hk, hd⟩ := Option.bind_eq_some_iff.mp hd
    obtain ⟨place, text⟩ := commentAt_of_split? hk
    refine ⟨_, place, ?_⟩
    rw [text]
    exact Comment.isSome_directive?_iff.mp (hd ▸ rfl)
  · rintro ⟨i, place, mentioned⟩
    obtain ⟨o, hk⟩ := place.exists_split?
    rw [parse?, Grammar.parse?, show (Grammar.ofLanguage l).openers = l.openers from rfl, hk, Option.bind_some]
    exact Comment.isSome_directive?_iff.mpr mentioned
  · obtain ⟨k, hk, hd⟩ := Option.bind_eq_some_iff.mp hd
    obtain ⟨place, text⟩ := commentAt_of_split? hk
    obtain ⟨keywords, -⟩ := Comment.of_directive? hd
    refine ⟨_, place, fun j => ?_, ?_⟩
    · rw [text, keywords, KeywordSet.has_mentionedIn, Keyword.mentionedIn_iff]
    · rw [text, keywords, KeywordSet.mentionedIn_eq_ofList]

end Language

end TodoLedger
