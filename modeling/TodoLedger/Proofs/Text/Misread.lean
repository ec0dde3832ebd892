import TodoLedger.Proofs.Text.Encoding

/-! UTF-8 in the midst of UTF-16. Bytes behind a text in UTF-16 are read on two by two. A text in UTF-8 on a line of its
own is not read as itself: its first character could only be one of three bytes in UTF-8, and then the next one also,
so that the text would never end. -/

namespace TodoLedger.Text

variable {order : ByteOrder} {t u e : Text} {c d : Char} {b x y : UInt8} {r : Bytes}

/-! ### Bytes behind a text in UTF-16 -/

theorem ofUnits?_flatMap_append (t : Text) (us : List Nat) :
    ofUnits? (t.flatMap units ++ us) = (ofUnits? us).map (t ++ ·) := by
  induction t with
  | nil => simp
  | cons c t ih =>
    rw [List.flatMap_cons, List.append_assoc, ofUnits?_units_append, ih, Option.map_map]
    rfl

theorem ByteOrder.units?_flatMap_append (order : ByteOrder) {us : List Nat} (bounded : ∀ u ∈ us, u < 0x10000)
    (r : Bytes) : order.units? (us.flatMap order.bytes ++ r) = (order.units? r).map (us ++ ·) := by
  induction us with
  | nil => simp
  | cons u us ih =>
    obtain ⟨first, rest⟩ := List.forall_mem_cons.mp bounded
    rw [List.flatMap_cons, List.append_assoc, order.units?_bytes_append first, ih rest, Option.map_map]
    rfl

/-- Bytes behind a text in UTF-16 are read in UTF-16. -/
theorem ofUtf16?_append (order : ByteOrder) (t : Text) (r : Bytes) :
    ofUtf16? order (utf16 order t ++ r) = (ofUtf16? order r).map (t ++ ·) := by
  rw [ofUtf16?, utf16, order.units?_flatMap_append (units_lt t), ofUtf16?]
  cases order.units? r with
  | none => rfl
  | some us => exact ofUnits?_flatMap_append t us

/-! ### The bytes of a character -/

/-- A character that takes three bytes in UTF-8. -/
def isWide (c : Char) : Bool := 0x800 ≤ c.toNat && c.toNat < 0x10000

theorem isWide_iff : isWide c = true ↔ 0x800 ≤ c.toNat ∧ c.toNat < 0x10000 := by simp [isWide]

/-- A byte of a character that takes three bytes in UTF-8. -/
def InWide (b : UInt8) : Prop := 0x80 ≤ b.toNat ∧ b.toNat < 0xC0 ∨ 0xE0 ≤ b.toNat ∧ b.toNat < 0xF0

theorem utf8EncodeChar_of_isWide (wide : isWide c = true) :
    (String.utf8EncodeChar c).length = 3 ∧ ∀ b ∈ String.utf8EncodeChar c, InWide b := by
  rw [isWide_iff, Char.toNat] at wide
  rw [String.utf8EncodeChar, if_neg (by omega), if_neg (by omega), if_pos (by omega)]
  refine ⟨rfl, ?_⟩
  simp only [List.mem_cons, List.not_mem_nil, or_false, forall_eq_or_imp, forall_eq, InWide, UInt8.toNat_ofNat']
  omega

/-- The first byte of a character tells how many there are. -/
theorem first_byte (encoded : String.utf8EncodeChar c = b :: r) :
    b.toNat = c.toNat ∧ c.toNat < 0x80 ∨ 0xC0 ≤ b.toNat ∧ b.toNat < 0xE0 ∧ 0x80 ≤ c.toNat ∧ c.toNat < 0x800 ∨
      0xE0 ≤ b.toNat ∧ b.toNat < 0xF0 ∧ isWide c = true ∨ 0xF0 ≤ b.toNat ∧ 0x10000 ≤ c.toNat := by
  rw [isWide_iff, Char.toNat]
  rw [String.utf8EncodeChar] at encoded
  split_ifs at encoded <;> obtain ⟨rfl, -⟩ := List.cons.inj encoded <;> rw [UInt8.toNat_ofNat'] <;> omega

/-- The first two bytes of a text in UTF-16 are a character, or the first half of one. -/
theorem first_unit (encoded : utf16 order (c :: t) = x :: y :: r) :
    order.unit x y = c.toNat ∧ c.toNat < 0x10000 ∨
      0xD800 ≤ order.unit x y ∧ order.unit x y < 0xDC00 ∧ 0x10000 ≤ c.toNat := by
  have valid := toNat_cases c
  have read : order.units? (utf16 order (c :: t)) = some ((c :: t).flatMap units) := order.units?_flatMap (units_lt _)
  rw [encoded, ByteOrder.units?, Option.map_eq_some_iff] at read
  obtain ⟨us, -, same⟩ := read
  rw [List.flatMap_cons, units] at same
  split_ifs at same
  · exact Or.inl ⟨(List.cons.inj same).1, by assumption⟩
  · rw [(List.cons.inj same).1]
    omega

/-- Bytes of characters that take three bytes are read as such a character, and not as a blank. -/
theorem isWide_of_inWide (encoded : utf16 order (c :: t) = x :: y :: r) (hx : InWide x) (hy : InWide y) :
    isWide c = true ∧ isBlank c = false := by
  have unit : 0x8080 ≤ order.unit x y ∧ order.unit x y < 0xC000 ∨
      0xE000 ≤ order.unit x y ∧ order.unit x y < 0xF000 := by
    rw [InWide] at hx hy
    cases order <;> simp only [ByteOrder.unit] <;> omega
  have value : order.unit x y = c.toNat := by
    have := first_unit encoded
    omega
  rw [value] at unit
  refine ⟨isWide_iff.mpr (by omega), ?_⟩
  by_contra blank
  have points := toNat_mem_blankPoints (by simpa using blank)
  simp only [blankPoints, List.mem_cons, List.not_mem_nil, or_false] at points
  omega

/-! ### A line of UTF-8 -/

theorem length_utf8_of_wide (wide : ∀ c ∈ t, isWide c = true) (order : ByteOrder) :
    (utf8 t).length = 3 * t.length ∧ (utf16 order t).length = 2 * t.length ∧ ∀ b ∈ utf8 t, InWide b := by
  induction t with
  | nil => exact ⟨rfl, rfl, nofun⟩
  | cons c t ih =>
    obtain ⟨here, later⟩ := List.forall_mem_cons.mp wide
    obtain ⟨three, inside⟩ := utf8EncodeChar_of_isWide here
    obtain ⟨length, length', all⟩ := ih later
    have one : units c = [c.toNat] := by rw [units, if_pos (isWide_iff.mp here).2]
    refine ⟨?_, ?_, ?_⟩
    · rw [utf8, List.flatMap_cons, List.length_append, three, ← utf8, length, List.length_cons]
      omega
    · have two : (order.bytes c.toNat).length = 2 := by cases order <;> rfl
      rw [utf16, List.flatMap_cons, one, List.singleton_append, List.flatMap_cons, List.length_append, two, ← utf16,
        length', List.length_cons]
      omega
    · rw [utf8, List.flatMap_cons]
      exact List.forall_mem_append.mpr ⟨inside, all⟩

/-- What is read of a line of UTF-8 does not begin with a blank, and begins as the line does only if its first character
takes three bytes. -/
theorem first_of_line (plain : c ≠ '\x00') (text : isBlank c = false)
    (encoded : utf16 order (d :: u) = 0x0A :: (utf8 (c :: t) ++ r)) :
    isBlank d = false ∧ (d = c → isWide c = true) := by
  cases first : String.utf8EncodeChar c with
  | nil => exact absurd first String.utf8EncodeChar_ne_nil
  | cons b bytes =>
    rw [utf8, List.flatMap_cons, first, List.cons_append, List.cons_append] at encoded
    have size := first_byte first
    have unit := first_unit encoded
    have feed : (0x0A : UInt8).toNat = 10 := rfl
    have nonzero : c.toNat ≠ 0 := fun zero => plain (Char.toNat_inj.mp zero)
    have visible : c.toNat ≠ 0x20 := fun space => by
      rw [Char.toNat_inj.mp (show c.toNat = ' '.toNat from space)] at text
      exact absurd text (by decide)
    have := b.toNat_lt
    constructor
    · by_contra blank
      have points := toNat_mem_blankPoints (c := d) (by simpa using blank)
      simp only [blankPoints, List.mem_cons, List.not_mem_nil, or_false] at points
      cases order <;> simp only [ByteOrder.unit, feed] at unit <;> omega
    · rintro rfl
      by_contra narrow
      rw [isWide_iff] at size narrow
      cases order <;> simp only [ByteOrder.unit, feed] at unit <;> omega

theorem utf16_append (order : ByteOrder) (t u : Text) : utf16 order (t ++ u) = utf16 order t ++ utf16 order u := by
  rw [utf16, List.flatMap_append, List.flatMap_append, utf16, utf16]

/-- Behind characters that take three bytes, bytes of these characters are read as the next one. -/
theorem next_of_wide (some_text : t ≠ []) (wide : ∀ c ∈ t, isWide c = true)
    (encoded : utf16 order (t ++ u) = 0x0A :: (utf8 t ++ r)) :
    ∃ d u', u = d :: u' ∧ isWide d = true ∧ isBlank d = false := by
  obtain ⟨three, two, inside⟩ := length_utf8_of_wide wide order
  have some_length := List.length_pos_iff.mpr some_text
  -- the bytes read so far leave at least two of those characters
  have left : utf16 order u = (utf8 t).drop (2 * t.length - 1) ++ r := by
    rw [utf16_append] at encoded
    have rest := congrArg (List.drop (2 * t.length)) encoded
    rwa [List.drop_left' two, show 2 * t.length = (2 * t.length - 1) + 1 by omega, List.drop_succ_cons,
      List.drop_append_of_le_length (by omega)] at rest
  have many : 2 ≤ ((utf8 t).drop (2 * t.length - 1)).length := by
    rw [List.length_drop]
    omega
  have within : ∀ b ∈ (utf8 t).drop (2 * t.length - 1), InWide b := fun b mem => inside b (List.mem_of_mem_drop mem)
  cases more : (utf8 t).drop (2 * t.length - 1) with
  | nil => simp [more] at many
  | cons x bytes =>
    cases bytes with
    | nil => simp [more] at many
    | cons y bytes =>
      rw [more] at left within
      cases u with
      | nil => cases left
      | cons d u =>
        have hx := within x List.mem_cons_self
        have hy := within y (List.mem_cons_of_mem _ List.mem_cons_self)
        exact ⟨d, u, rfl, isWide_of_inWide left hx hy⟩

/-- What is read of a line of UTF-8 in UTF-16 is another line. -/
theorem trim_ne_of_line (some_text : e ≠ []) (plain : '\x00' ∉ e)
    (encoded : utf16 order u = 0x0A :: (utf8 e ++ [0x0A])) : trim u ≠ e := by
  intro same
  have tight : Tight e := same ▸ tight_trim u
  obtain ⟨lead, trail, hl, ht, split⟩ := exists_blanks_around u
  rw [same] at split
  obtain ⟨c, e', rfl⟩ := List.exists_cons_of_ne_nil some_text
  have ordinary : c ≠ '\x00' := fun zero => plain (zero ▸ List.mem_cons_self)
  have visible : isBlank c = false := tight.head
  rw [split] at encoded
  cases lead with
  | cons d lead =>
    have first := (first_of_line ordinary visible encoded).1
    rw [(allBlank_of_cons hl).1] at first
    cases first
  | nil =>
    have wide : isWide c = true := (first_of_line ordinary visible encoded).2 rfl
    -- the characters of three bytes in front would have to be all, and then more
    let front := (c :: e').takeWhile isWide
    have some_front : front ≠ [] := by simp [front, wide]
    have parts : c :: e' = front ++ (c :: e').dropWhile isWide := List.takeWhile_append_dropWhile.symm
    rw [List.nil_append, parts, List.append_assoc, utf8_append, List.append_assoc] at encoded
    obtain ⟨d, u', next, wide_next, text⟩ :=
      next_of_wide some_front (fun c mem => List.all_eq_true.mp List.all_takeWhile c mem) encoded
    cases back : (c :: e').dropWhile isWide with
    | nil =>
      rw [back] at next
      subst next
      rw [(allBlank_of_cons ht).1] at text
      cases text
    | cons d' back' =>
      have narrow : isWide d' = false := by simpa [back] using List.head?_dropWhile_not isWide (c :: e')
      rw [back] at next
      obtain rfl := (List.cons.inj next).1
      rw [wide_next] at narrow
      cases narrow

end TodoLedger.Text
