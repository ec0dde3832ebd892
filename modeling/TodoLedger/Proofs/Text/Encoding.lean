import TodoLedger.Proofs.Text.Trim
import TodoLedger.Text.Encoding

/-! Reading files as text. In UTF-8 and in UTF-16 a text is read from the bytes it is written as, and from no others.
No text in UTF-8 begins with a mark of UTF-16, so the order in which the encodings are tried does not matter. -/

namespace TodoLedger

namespace Text

variable {t : Text} {bytes : Bytes} {c d : Char} {u v : Nat} {us : List Nat}

/-! ### UTF-8 -/

theorem utf8_append (t u : Text) : utf8 (t ++ u) = utf8 t ++ utf8 u := List.flatMap_append

theorem toByteArray_eq_mk (bytes : Bytes) : bytes.toByteArray = ByteArray.mk bytes.toArray := by
  refine ByteArray.ext (Array.toList_inj.mp ?_)
  exact List.toList_data_toByteArray

theorem ofUtf8?_eq_some_iff : ofUtf8? bytes = some t ↔ bytes = utf8 t := by
  rw [ofUtf8?, ← toByteArray_eq_mk, Option.map_eq_some_iff]
  constructor
  · rintro ⟨a, ha, rfl⟩
    have whole := ByteArray.utf8Encode_get_utf8Decode? (b := bytes.toByteArray) (h := by rw [ha]; rfl)
    have same := congrArg (·.data.toList) whole
    simp only [ha, Option.get_some, List.utf8Encode, List.toList_data_toByteArray] at same
    exact same.symm
  · rintro rfl
    exact ⟨t.toArray, List.utf8Decode?_utf8Encode, rfl⟩

theorem utf8EncodeChar_append_inj {r s : Bytes} (h : String.utf8EncodeChar c ++ r = String.utf8EncodeChar d ++ s) :
    c = d := by
  have first : ∀ (c : Char) (r : Bytes), (String.utf8EncodeChar c ++ r).toByteArray.utf8DecodeChar? 0 = some c := by
    intro c r
    rw [List.toByteArray_append]
    exact ByteArray.utf8DecodeChar?_utf8EncodeChar_append
  have same := (first c r).symm.trans ((congrArg (·.toByteArray.utf8DecodeChar? 0) h).trans (first d s))
  exact Option.some.inj same

theorem isUTF8FirstByte_of_utf8_eq_cons {b : UInt8} {r : Bytes} (h : utf8 t = b :: r) : b.IsUTF8FirstByte := by
  cases t with
  | nil => cases h
  | cons c t =>
    rw [utf8, List.flatMap_cons] at h
    cases he : String.utf8EncodeChar c with
    | nil => exact absurd he String.utf8EncodeChar_ne_nil
    | cons a as =>
      rw [he] at h
      obtain ⟨rfl, -⟩ := List.cons.inj h
      have first := @UInt8.isUTF8FirstByte_getElem_zero_utf8EncodeChar c
      simpa [he] using first

/-! ### UTF-16 -/

theorem toNat_cases (c : Char) : c.toNat < 0xD800 ∨ 0xDFFF < c.toNat ∧ c.toNat < 0x110000 := c.valid

theorem toNat_ofNat_of_valid (h : u < 0xD800 ∨ 0xDFFF < u ∧ u < 0x110000) : (Char.ofNat u).toNat = u := by
  have valid : u.isValidChar := h
  rw [Char.ofNat, dif_pos valid]
  rfl

theorem isLeading_iff : isLeading u = true ↔ 0xD800 ≤ u ∧ u < 0xDC00 := by simp [isLeading]

theorem isTrailing_iff : isTrailing u = true ↔ 0xDC00 ≤ u ∧ u < 0xE000 := by simp [isTrailing]

theorem ofUnits?_cons (hl : ¬isLeading u = true) (ht : ¬isTrailing u = true) (r : List Nat) :
    ofUnits? (u :: r) = (ofUnits? r).map (Char.ofNat u :: ·) := by
  cases r <;> simp [ofUnits?, hl, ht]

theorem ofUnits?_cons_cons (hl : isLeading u = true) (ht : isTrailing v = true) (r : List Nat) :
    ofUnits? (u :: v :: r) = (ofUnits? r).map (paired u v :: ·) := by
  simp [ofUnits?, hl, ht]

theorem units_ofNat (hu : u < 0x10000) (hl : ¬isLeading u = true) (ht : ¬isTrailing u = true) :
    units (Char.ofNat u) = [u] := by
  rw [isLeading_iff] at hl
  rw [isTrailing_iff] at ht
  have value : (Char.ofNat u).toNat = u := toNat_ofNat_of_valid (by omega)
  rw [units, value, if_pos hu]

theorem units_paired (hl : isLeading u = true) (ht : isTrailing v = true) : units (paired u v) = [u, v] := by
  rw [isLeading_iff] at hl
  rw [isTrailing_iff] at ht
  have value : (paired u v).toNat = 0x10000 + (u - 0xD800) * 0x400 + (v - 0xDC00) :=
    toNat_ofNat_of_valid (by omega)
  have high : 0xD800 + (0x10000 + (u - 0xD800) * 0x400 + (v - 0xDC00) - 0x10000) / 0x400 = u := by omega
  have low : 0xDC00 + (0x10000 + (u - 0xD800) * 0x400 + (v - 0xDC00) - 0x10000) % 0x400 = v := by omega
  rw [units, value, if_neg (by omega), high, low]

theorem ofUnits?_units_append (c : Char) (r : List Nat) : ofUnits? (units c ++ r) = (ofUnits? r).map (c :: ·) := by
  have valid := toNat_cases c
  rw [units]
  split
  · rw [List.singleton_append, ofUnits?_cons (by rw [isLeading_iff]; omega) (by rw [isTrailing_iff]; omega),
      Char.ofNat_toNat]
  · have pair : paired (0xD800 + (c.toNat - 0x10000) / 0x400) (0xDC00 + (c.toNat - 0x10000) % 0x400) = c := by
      rw [paired, ← Char.toNat_inj, toNat_ofNat_of_valid (by omega)]
      omega
    have high : isLeading (0xD800 + (c.toNat - 0x10000) / 0x400) = true := isLeading_iff.mpr (by omega)
    have low : isTrailing (0xDC00 + (c.toNat - 0x10000) % 0x400) = true := isTrailing_iff.mpr (by omega)
    rw [List.cons_append, List.singleton_append, ofUnits?_cons_cons high low, pair]

theorem ofUnits?_flatMap (t : Text) : ofUnits? (t.flatMap units) = some t := by
  induction t with
  | nil => rfl
  | cons c t ih => rw [List.flatMap_cons, ofUnits?_units_append, ih, Option.map_some]

theorem of_ofUnits? (bounded : ∀ u ∈ us, u < 0x10000) (h : ofUnits? us = some t) : us = t.flatMap units := by
  fun_induction ofUnits? us generalizing t with
  | case1 =>
    cases h
    rfl
  | case2 => cases h
  | case3 u alone =>
    cases h
    obtain ⟨hl, ht⟩ := not_or.mp (mt Bool.or_eq_true_iff.mpr alone)
    rw [List.flatMap_singleton, units_ofNat (bounded u List.mem_cons_self) hl ht]
  | case4 u v r hl ht ih =>
    obtain ⟨t, hr, rfl⟩ := Option.map_eq_some_iff.mp h
    have later := ih (fun w hw => bounded w (List.mem_cons_of_mem _ (List.mem_cons_of_mem _ hw))) hr
    rw [List.flatMap_cons, units_paired hl ht, ← later]
    rfl
  | case5 => cases h
  | case6 => cases h
  | case7 u v r hl ht ih =>
    obtain ⟨t, hr, rfl⟩ := Option.map_eq_some_iff.mp h
    have later := ih (fun w hw => bounded w (List.mem_cons_of_mem _ hw)) hr
    rw [List.flatMap_cons, units_ofNat (bounded u List.mem_cons_self) hl ht, ← later]
    rfl

theorem units_lt (t : Text) : ∀ u ∈ t.flatMap units, u < 0x10000 := by
  intro u hu
  obtain ⟨c, -, hu⟩ := List.mem_flatMap.mp hu
  have valid := toNat_cases c
  rw [units] at hu
  split at hu
  · rename_i small
    rw [List.mem_singleton.mp hu]
    exact small
  · rcases List.mem_pair.mp hu with hu | hu
    · rw [hu]
      omega
    · rw [hu]
      omega

namespace ByteOrder

variable (order : ByteOrder)

theorem unit_lt (a b : UInt8) : order.unit a b < 0x10000 := by
  have := a.toNat_lt
  have := b.toNat_lt
  cases order <;> simp only [unit] <;> omega

theorem bytes_unit (a b : UInt8) : order.bytes (order.unit a b) = [a, b] := by
  -- the two orders differ in which of the bytes is the high one
  have split : ∀ high low : UInt8, UInt8.ofNat ((high.toNat * 256 + low.toNat) / 256) = high ∧
      UInt8.ofNat (high.toNat * 256 + low.toNat) = low := by
    intro high low
    have hl := low.toNat_lt
    have front : (high.toNat * 256 + low.toNat) / 256 = high.toNat := by omega
    have back : (high.toNat * 256 + low.toNat) % 256 = low.toNat := by omega
    refine ⟨by rw [front, UInt8.ofNat_toNat], ?_⟩
    rw [← UInt8.toNat_inj, UInt8.toNat_ofNat']
    exact back
  cases order with
  | little => simp only [bytes, unit, (split b a).1, (split b a).2]
  | big => simp only [bytes, unit, (split a b).1, (split a b).2]

theorem units?_bytes_append (hu : u < 0x10000) (r : Bytes) :
    order.units? (order.bytes u ++ r) = (order.units? r).map (u :: ·) := by
  have high : (UInt8.ofNat (u / 256)).toNat = u / 256 := UInt8.toNat_ofNat_of_lt (Nat.div_lt_of_lt_mul hu)
  have low : (UInt8.ofNat u).toNat = u % 256 := by simp
  have whole : u / 256 * 256 + u % 256 = u := by omega
  cases order <;> simp only [bytes, List.cons_append, List.nil_append, units?, unit, high, low, whole]

theorem units?_flatMap (hus : ∀ u ∈ us, u < 0x10000) : order.units? (us.flatMap order.bytes) = some us := by
  induction us with
  | nil => rfl
  | cons u us ih =>
    obtain ⟨hu, hus⟩ := List.forall_mem_cons.mp hus
    rw [List.flatMap_cons, order.units?_bytes_append hu, ih hus, Option.map_some]

theorem of_units? {bytes : Bytes} (h : order.units? bytes = some us) :
    bytes = us.flatMap order.bytes ∧ ∀ u ∈ us, u < 0x10000 := by
  fun_induction ByteOrder.units? order bytes generalizing us with
  | case1 =>
    cases h
    exact ⟨rfl, nofun⟩
  | case2 => cases h
  | case3 a b r ih =>
    obtain ⟨us, hr, rfl⟩ := Option.map_eq_some_iff.mp h
    obtain ⟨later, bounded⟩ := ih hr
    refine ⟨?_, List.forall_mem_cons.mpr ⟨order.unit_lt a b, bounded⟩⟩
    rw [List.flatMap_cons, order.bytes_unit, ← later]
    rfl

end ByteOrder

theorem ofUtf16?_eq_some_iff {order : ByteOrder} : ofUtf16? order bytes = some t ↔ bytes = utf16 order t := by
  rw [ofUtf16?, Option.bind_eq_some_iff]
  constructor
  · rintro ⟨us, hus, ht⟩
    obtain ⟨whole, bounded⟩ := order.of_units? hus
    rw [whole, of_ofUnits? bounded ht, utf16]
  · rintro rfl
    exact ⟨t.flatMap units, order.units?_flatMap (units_lt t), ofUnits?_flatMap t⟩

end Text

namespace TextEncoding

open Text

variable {t : Text} {bytes : Bytes} {e : TextEncoding}

/-- A text is stored in an encoding: behind the mark of the encoding, or in UTF-8 without a mark, unless the text itself
begins with the character that the mark stands for. -/
def Stores (e : TextEncoding) (t : Text) (bytes : Bytes) : Prop :=
  bytes = e.mark ++ e.encode t ∨ e = .utf8 ∧ t.head? ≠ some '\uFEFF' ∧ bytes = Text.utf8 t

theorem mark_prefix_utf8_iff : TextEncoding.utf8.mark <+: Text.utf8 t ↔ t.head? = some '\uFEFF' := by
  have mark : TextEncoding.utf8.mark = String.utf8EncodeChar '\uFEFF' := by decide
  rw [mark]
  cases t with
  | nil => simp [Text.utf8]
  | cons c t =>
    rw [Text.utf8, List.flatMap_cons]
    constructor
    · rintro ⟨rest, whole⟩
      rw [utf8EncodeChar_append_inj whole]
      rfl
    · intro first
      obtain rfl := Option.some.inj first
      exact List.prefix_append _ _

/-- The bytes behind a mark that may be left out are a text in UTF-8 if the file stores that text. -/
theorem ofUtf8?_unmarked_eq_some_iff :
    Text.ofUtf8? ((TextEncoding.utf8.mark.isPrefixOf? bytes).getD bytes) = some t ↔ TextEncoding.utf8.Stores t bytes := by
  cases hm : TextEncoding.utf8.mark.isPrefixOf? bytes with
  | some rest =>
    obtain rfl := List.isPrefixOf?_eq_some_iff_append_eq.mp hm
    rw [Option.getD_some, ofUtf8?_eq_some_iff]
    constructor
    · rintro rfl
      exact Or.inl rfl
    · rintro (marked | ⟨-, unmarked, whole⟩)
      · exact List.append_cancel_left marked
      · exact absurd (mark_prefix_utf8_iff.mp (whole ▸ List.prefix_append _ _)) unmarked
  | none =>
    have no_mark := isPrefixOf?_eq_none_iff.mp hm
    rw [Option.getD_none, ofUtf8?_eq_some_iff]
    constructor
    · rintro rfl
      exact Or.inr ⟨rfl, mt mark_prefix_utf8_iff.mpr no_mark, rfl⟩
    · rintro (rfl | ⟨-, -, whole⟩)
      · exact absurd (List.prefix_append _ _) no_mark
      · exact whole

theorem stores_utf16_iff {order : ByteOrder} :
    (TextEncoding.utf16 order).Stores t bytes ↔ bytes = (TextEncoding.utf16 order).mark ++ Text.utf16 order t := by
  simp [Stores, encode]

/-- No file in UTF-8 begins with a mark of UTF-16. -/
theorem not_stores_utf8 (order : ByteOrder) (t : Text) (rest : Bytes) :
    ¬TextEncoding.utf8.Stores t ((TextEncoding.utf16 order).mark ++ rest) := by
  rintro (marked | ⟨-, -, whole⟩)
  · cases order <;> cases (List.cons.inj marked).1
  · cases order
    · exact absurd (isUTF8FirstByte_of_utf8_eq_cons whole.symm) (by decide)
    · exact absurd (isUTF8FirstByte_of_utf8_eq_cons whole.symm) (by decide)

theorem decodeMarked?_eq_some_iff {order : ByteOrder} :
    decodeMarked? (.utf16 order) (Text.ofUtf16? order) bytes = some (t, e) ↔
      e = .utf16 order ∧ (TextEncoding.utf16 order).Stores t bytes := by
  simp only [decodeMarked?, Option.map_eq_some_iff, Option.bind_eq_some_iff, List.isPrefixOf?_eq_some_iff_append_eq,
    Prod.mk.injEq, stores_utf16_iff]
  constructor
  · rintro ⟨_, ⟨rest, rfl, ht⟩, rfl, rfl⟩
    exact ⟨rfl, congrArg _ (ofUtf16?_eq_some_iff.mp ht)⟩
  · rintro ⟨rfl, rfl⟩
    exact ⟨t, ⟨_, rfl, ofUtf16?_eq_some_iff.mpr rfl⟩, rfl, rfl⟩

/-- A file is read as the text that it stores, in the encoding in which it stores it. -/
theorem decode?_eq_some_iff : decode? bytes = some (t, e) ↔ e.Stores t bytes := by
  rw [decode?]
  cases hu : Text.ofUtf8? ((TextEncoding.utf8.mark.isPrefixOf? bytes).getD bytes) with
  | some u =>
    have stored := ofUtf8?_unmarked_eq_some_iff.mp hu
    simp only [Option.some.injEq, Prod.mk.injEq]
    constructor
    · rintro ⟨rfl, rfl⟩
      exact stored
    · intro h
      cases e with
      | utf8 => exact ⟨Option.some.inj (hu.symm.trans (ofUtf8?_unmarked_eq_some_iff.mpr h)), rfl⟩
      | utf16 order =>
        rw [stores_utf16_iff.mp h] at stored
        exact absurd stored (not_stores_utf8 order _ _)
  | none =>
    simp only [Option.or_eq_some_iff, decodeMarked?_eq_some_iff]
    constructor
    · rintro (⟨rfl, h⟩ | ⟨-, rfl, h⟩)
      · exact h
      · exact h
    · intro h
      cases e with
      | utf8 =>
        rw [ofUtf8?_unmarked_eq_some_iff.mpr h] at hu
        cases hu
      | utf16 order =>
        cases order with
        | little => exact Or.inl ⟨rfl, h⟩
        | big =>
          -- the little-endian reading is tried first, but its mark is another one
          refine Or.inr ⟨?_, rfl, h⟩
          rw [Option.eq_none_iff_forall_ne_some]
          rintro ⟨u, f⟩ other
          have whole := (stores_utf16_iff.mp h).symm.trans (stores_utf16_iff.mp (decodeMarked?_eq_some_iff.mp other).2)
          cases (List.cons.inj whole).1

/-- Every text is read back from each of its four stored forms, a file is read as no other text than the one of which
it is a form, and it is not read at all if it is a form of none. -/
theorem decode?_inverts_encodings :
    (∀ t : Text, t.head? ≠ some '\uFEFF' → decode? (Text.utf8 t) = some (t, .utf8)) ∧
    (∀ t, decode? ([0xEF, 0xBB, 0xBF] ++ Text.utf8 t) = some (t, .utf8)) ∧
    (∀ t, decode? ([0xFF, 0xFE] ++ Text.utf16 .little t) = some (t, .utf16 .little)) ∧
    (∀ t, decode? ([0xFE, 0xFF] ++ Text.utf16 .big t) = some (t, .utf16 .big)) ∧
    (∀ bytes t e, decode? bytes = some (t, e) → e.Stores t bytes) ∧
    ∀ bytes, decode? bytes = none ↔ ∀ t e, ¬TextEncoding.Stores e t bytes := by
  refine ⟨fun t unmarked => ?_, fun t => ?_, fun t => ?_, fun t => ?_, fun bytes t e => ?_, fun bytes => ?_⟩
  · exact decode?_eq_some_iff.mpr (Or.inr ⟨rfl, unmarked, rfl⟩)
  · exact decode?_eq_some_iff.mpr (Or.inl rfl)
  · exact decode?_eq_some_iff.mpr (Or.inl rfl)
  · exact decode?_eq_some_iff.mpr (Or.inl rfl)
  · exact decode?_eq_some_iff.mp
  · simp only [Option.eq_none_iff_forall_ne_some, Prod.forall, ne_eq, decode?_eq_some_iff]

end TextEncoding
end TodoLedger
