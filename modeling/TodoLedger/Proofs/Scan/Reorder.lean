import TodoLedger.Proofs.Disk.Spelling
import TodoLedger.Proofs.Ignore.Entries
import TodoLedger.Proofs.Scan.Files

/-! Scans of the same files in another order. A hit is known by its path and line if different files are reported under
different paths, so sorting the hits forgets the order in which the files were given. -/

namespace TodoLedger.Scanner

variable {s : Scanner} {d : Disk} {base : Text} {files files' : List Text} {a b : Hit}

/-- Paths of one file: they differ in dots and slashes that mean nothing, or lead to one place with one extension. -/
def SameFile (d : Disk) (p q : Text) : Prop :=
  Path.Alike p q ∨ Path.extension p = Path.extension q ∧ d.existing p = d.existing q

instance (d : Disk) (p q : Text) : Decidable (SameFile d p q) := inferInstanceAs (Decidable (_ ∨ _ ∧ _))

/-- Different files are reported under different paths. A file may be listed again. -/
def ToldApart (d : Disk) (base : Text) (files : List Text) : Prop :=
  ∀ p ∈ files, ∀ q ∈ files, reportedPath base p = reportedPath base q → SameFile d p q

instance (d : Disk) (base : Text) (files : List Text) : Decidable (ToldApart d base files) :=
  inferInstanceAs (Decidable (∀ p ∈ files, ∀ q ∈ files, reportedPath base p = reportedPath base q → SameFile d p q))

variable {p q t u : Text}

theorem SameFile.extension (same : SameFile d p q) : Path.extension p = Path.extension q :=
  same.elim (fun alike => alike.extension) fun linked => linked.1

theorem exists_read_of_text? (found : d.text? p = some t) :
    ∃ content, d.read p = .ok content ∧ (TextEncoding.decode? content).map (·.1) = some t := by
  obtain ⟨content, read, decoded⟩ := Option.bind_eq_some_iff.mp found
  cases there : d.read p with
  | error e =>
    rw [there] at read
    cases read
  | ok content =>
    rw [there] at read
    cases read
    exact ⟨content, rfl, decoded⟩

theorem SameFile.text (same : SameFile d p q) (hp : d.text? p = some t) (hq : d.text? q = some u) : t = u := by
  obtain ⟨content, readp, tp⟩ := exists_read_of_text? hp
  obtain ⟨content', readq, tq⟩ := exists_read_of_text? hq
  have one : content = content' := by
    rcases same with alike | ⟨-, linked⟩
    · exact Disk.read_alike alike readp readq
    · rw [Disk.read, linked, ← Disk.read, readq] at readp
      exact (Except.ok.inj readp).symm
  subst one
  exact Option.some.inj (tp.symm.trans tq)

theorem file_of_mem_hits {file extension text : Text} (mem : a ∈ s.hits file extension text) :
    a.file = Path.forwardSlashes file := by
  obtain ⟨_, _, _, -, -, -, rfl⟩ := mem_hits_iff.mp mem
  rfl

/-- No two hits of a text have the same line. -/
theorem eq_of_line {file extension text : Text} (ha : a ∈ s.hits file extension text)
    (hb : b ∈ s.hits file extension text) (line : a.line = b.line) : a = b := by
  obtain ⟨i, here, directive, hi, -, hd, rfl⟩ := mem_hits_iff.mp ha
  obtain ⟨j, there, directive', hj, -, hd', rfl⟩ := mem_hits_iff.mp hb
  obtain rfl : i = j := Nat.succ.inj line
  obtain rfl := Option.some.inj (hi.symm.trans hj)
  obtain rfl := Option.some.inj (hd.symm.trans hd')
  rfl

/-- No two hits of files that are told apart have the same place. -/
theorem ToldApart.eq_of_place (apart : ToldApart d base files) (ha : a ∈ s.hitsIn d base files)
    (hb : b ∈ s.hitsIn d base files) (file : a.file = b.file) (line : a.line = b.line) : a = b := by
  obtain ⟨p, mp, t, tp, ha⟩ := mem_hitsIn_iff.mp ha
  obtain ⟨q, mq, u, tq, hb⟩ := mem_hitsIn_iff.mp hb
  have same : reportedPath base p = reportedPath base q := by
    rw [file_of_mem_hits ha, file_of_mem_hits hb] at file
    simpa [reportedPath, IgnoreRules.forwardSlashes_of_not_mem (IgnoreRules.not_mem_forwardSlashes _)] using file
  have one := apart p mp q mq same
  obtain rfl := one.text tp tq
  rw [← same, ← one.extension] at hb
  exact eq_of_line ha hb line

theorem hitsIn_perm (s : Scanner) (d : Disk) (base : Text) (perm : files.Perm files') :
    (s.hitsIn d base files).Perm (s.hitsIn d base files') := perm.flatMap_right _

theorem hits_run_of_perm (s : Scanner) (d : Disk) (perm : files.Perm files') (apart : ToldApart d base files) :
    (s.run d base files).value.hits = (s.run d base files').value.hits := by
  have found : (s.run d base files).value.hits.Perm (s.run d base files').value.hits :=
    (hits_run_perm s d base files).trans ((hitsIn_perm s d base perm).trans (hits_run_perm s d base files').symm)
  refine found.eq_of_pairwise (fun a b ha hb ab ba => ?_) (hits_run_sorted s d base files)
    (hits_run_sorted s d base files')
  have ha := (hits_run_perm s d base files).mem_iff.mp ha
  have hb := (hits_run_perm s d base files).mem_iff.mp (found.mem_iff.mpr hb)
  rw [isBefore_iff] at ab ba
  rcases ab with less | ⟨file, before⟩
  · rcases ba with greater | ⟨file, -⟩
    · exact absurd (List.lt_trans less greater) (List.lt_irrefl _)
    · exact absurd (file ▸ less) (List.lt_irrefl _)
  · rcases ba with greater | ⟨-, after⟩
    · exact absurd (file ▸ greater) (List.lt_irrefl _)
    · exact apart.eq_of_place ha hb file (Nat.le_antisymm before after)

/-- The order in which files are given does not matter. -/
theorem value_run_of_perm (s : Scanner) (d : Disk) (perm : files.Perm files') (apart : ToldApart d base files) :
    (s.run d base files).value = (s.run d base files').value := by
  have hits := hits_run_of_perm s d perm apart
  have stats : (s.run d base files).value.stats = (s.run d base files').value.stats := by
    rw [stats_run_eq, stats_run_eq, hits, perm.length_eq, perm.countP_eq, perm.countP_eq]
  cases result : (s.run d base files).value
  cases result' : (s.run d base files').value
  rw [result, result'] at hits stats
  rw [ScanResult.mk.injEq]
  exact ⟨hits, stats⟩

end TodoLedger.Scanner
