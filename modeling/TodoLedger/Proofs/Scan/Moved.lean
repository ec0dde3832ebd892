import TodoLedger.Proofs.Scan.Hits
import TodoLedger.Reconciler

/-! Moved lines. A line that stands in another file, at another place, among other lines or behind other blanks gives
a hit that says the same, has the same title, and is therefore taken for the same issue. -/

namespace TodoLedger

namespace Reconciler

variable {σ : Type} {a b : Hit}

/-- Hits with the same fingerprint stand alike to the inventory and to what was filed. -/
theorem classify_congr (r : Reconciler σ) (p : Progress σ) (same : a.fingerprint = b.fingerprint) :
    r.classify p a = r.classify p b := by
  rw [classify, classify, same]

end Reconciler

namespace Scanner

variable {s s₁ s₂ : Scanner} {file extension extension₁ extension₂ text text₁ text₂ line line₁ line₂ : Text}
  {i i₁ i₂ : Nat} {h : Hit}

/-- The hit of a line that is not exempt: there is one where the line has a directive, and it says what that says. -/
theorem exists_hit_iff (hl : (Text.lines text)[i]? = some line) (kept : s.isExempt line = false) :
    (∃ h ∈ s.hits file extension text, h.line = i + 1) ↔
      ((Language.ofExtension extension).parse? line).isSome := by
  constructor
  · rintro ⟨h, hh, hi⟩
    obtain ⟨j, line', d, hl', -, hd, rfl⟩ := mem_hits_iff.mp hh
    obtain rfl : j = i := Nat.succ.inj hi
    obtain rfl : line = line' := Option.some.inj (hl.symm.trans hl')
    exact Option.isSome_iff_exists.mpr ⟨d, hd⟩
  · intro hd
    obtain ⟨d, hd⟩ := Option.isSome_iff_exists.mp hd
    exact ⟨_, mem_hits_iff.mpr ⟨i, line, d, hl, kept, hd, rfl⟩, rfl⟩

theorem exists_directive_of_hit (hl : (Text.lines text)[i]? = some line) (hh : h ∈ s.hits file extension text)
    (hi : h.line = i + 1) : ∃ d, (Language.ofExtension extension).parse? line = some d ∧ h.keywords = d.keywords ∧
      h.title? = d.structured.map (·.title) ∧ h.body? = d.structured.map (·.body) ∧ h.labels? = d.labels ∧
      h.triggeringLine = line := by
  obtain ⟨j, line', d, hl', -, hd, rfl⟩ := mem_hits_iff.mp hh
  obtain rfl : j = i := Nat.succ.inj hi
  obtain rfl : line = line' := Option.some.inj (hl.symm.trans hl')
  exact ⟨d, hd, rfl, rfl, rfl, rfl, Hit.triggeringLine_ofDirective _ _ _ _⟩

/-- Two lines that are the same without the blanks around them, in texts that are read in the same language, either
both give a hit or neither does. Whatever the files, the places, the lines around them and the scanners are, their
hits say the same, have one title and one fingerprint, and no reconciler tells them apart. -/
theorem hits_of_moved_line (file₁ file₂ : Text)
    (language : Language.ofExtension extension₁ = Language.ofExtension extension₂)
    (hl₁ : (Text.lines text₁)[i₁]? = some line₁) (hl₂ : (Text.lines text₂)[i₂]? = some line₂)
    (kept₁ : s₁.isExempt line₁ = false) (kept₂ : s₂.isExempt line₂ = false)
    (same : Text.trim line₁ = Text.trim line₂) :
    ((∃ a ∈ s₁.hits file₁ extension₁ text₁, a.line = i₁ + 1) ↔
      ∃ b ∈ s₂.hits file₂ extension₂ text₂, b.line = i₂ + 1) ∧
    ∀ a ∈ s₁.hits file₁ extension₁ text₁, a.line = i₁ + 1 →
      ∀ b ∈ s₂.hits file₂ extension₂ text₂, b.line = i₂ + 1 →
        a.keywords = b.keywords ∧ a.title? = b.title? ∧ a.body? = b.body? ∧ a.labels? = b.labels? ∧
        a.title = b.title ∧ a.fingerprint = b.fingerprint ∧
        ∀ (σ : Type) (r : Reconciler σ) (p : Progress σ), r.classify p a = r.classify p b := by
  have said : ((Language.ofExtension extension₁).parse? line₁).map Directive.said =
      ((Language.ofExtension extension₂).parse? line₂).map Directive.said := by
    rw [Language.said_trim extension₁ line₁, Language.said_trim extension₂ line₂, same, language]
  refine ⟨?_, fun a ha hi₁ b hb hi₂ => ?_⟩
  · rw [exists_hit_iff hl₁ kept₁, exists_hit_iff hl₂ kept₂, ← Option.isSome_map, said, Option.isSome_map]
  · obtain ⟨d, hd, keywords₁, title₁, body₁, labels₁, line₁'⟩ := exists_directive_of_hit hl₁ ha hi₁
    obtain ⟨e, he, keywords₂, title₂, body₂, labels₂, line₂'⟩ := exists_directive_of_hit hl₂ hb hi₂
    rw [hd, he, Option.map_some, Option.map_some, Option.some.injEq] at said
    obtain ⟨keywords, structured, labels⟩ := Directive.of_said_eq said
    have title? : a.title? = b.title? := by rw [title₁, title₂, structured]
    have keywords' : a.keywords = b.keywords := by rw [keywords₁, keywords₂, keywords]
    have title : a.title = b.title := Hit.title_congr title? keywords' (by rw [line₁', line₂', same])
    have fingerprint := Hit.fingerprint_congr title
    exact ⟨keywords', title?, by rw [body₁, body₂, structured], by rw [labels₁, labels₂, labels], title, fingerprint,
      fun _ r p => r.classify_congr p fingerprint⟩

/-- A line of a shell script that is indented, moved to another file and scanned with less context. -/
theorem hits_of_indented_line :
    let s₁ := Scanner.new 8 "# Todoon".toList
    let s₂ := Scanner.new 0 []
    let text₁ := "a=1\n: 'TODO Cache | for #speed'\nb".toList
    let text₂ := "\t : 'TODO Cache | for #speed' \r\n# todoon".toList
    let line₁ := ": 'TODO Cache | for #speed'".toList
    let line₂ := "\t : 'TODO Cache | for #speed' ".toList
    Language.ofExtension "sh".toList = Language.ofExtension ".BASH".toList ∧
      (Text.lines text₁)[1]? = some line₁ ∧ (Text.lines text₂)[0]? = some line₂ ∧
      s₁.isExempt line₁ = false ∧ s₂.isExempt line₂ = false ∧ Text.trim line₁ = Text.trim line₂ ∧
      ∃ a ∈ s₁.hits "a.sh".toList "sh".toList text₁, ∃ b ∈ s₂.hits "lib\\b.BASH".toList ".BASH".toList text₂,
        a.title? = some "TODO Cache".toList ∧ a.labels? = some ["speed".toList] ∧ a.context.length = 3 ∧
        b.context.length = 1 ∧ a.title? = b.title? ∧ a.body? = b.body? ∧ a.labels? = b.labels? ∧
        a.fingerprint = b.fingerprint := by
  intro s₁ s₂ text₁ text₂ line₁ line₂
  have language : Language.ofExtension "sh".toList = Language.ofExtension ".BASH".toList := by decide +kernel
  have hl₁ : (Text.lines text₁)[1]? = some line₁ := by decide +kernel
  have hl₂ : (Text.lines text₂)[0]? = some line₂ := by decide +kernel
  have kept₁ : s₁.isExempt line₁ = false := by decide +kernel
  have kept₂ : s₂.isExempt line₂ = false := by decide +kernel
  have same : Text.trim line₁ = Text.trim line₂ := by decide +kernel
  obtain ⟨both, alike⟩ := hits_of_moved_line "a.sh".toList "lib\\b.BASH".toList language hl₁ hl₂ kept₁ kept₂ same
  have first : ∃ a ∈ s₁.hits "a.sh".toList "sh".toList text₁, a.line = 2 ∧ a.title? = some "TODO Cache".toList ∧
      a.labels? = some ["speed".toList] ∧ a.context.length = 3 := by decide +kernel
  have second : ∀ b ∈ s₂.hits "lib\\b.BASH".toList ".BASH".toList text₂, b.context.length = 1 := by decide +kernel
  obtain ⟨a, ha, hi, title, labels, context⟩ := first
  obtain ⟨b, hb, hj⟩ := both.mp ⟨a, ha, hi⟩
  obtain ⟨-, title', body', labels', -, fingerprint, -⟩ := alike a ha hi b hb hj
  exact ⟨language, hl₁, hl₂, kept₁, kept₂, same, a, ha, b, hb, title, labels, context, second b hb, title', body',
    labels', fingerprint⟩

end Scanner
end TodoLedger
