import TodoLedger.Proofs.Disk.Append
import TodoLedger.Proofs.Text.Cut
import TodoLedger.Proofs.Text.Encoding
import TodoLedger.Proofs.Text.Lines
import TodoLedger.Proofs.Text.Number
import TodoLedger.Run.Check

/-! Counters in an environment file. Each of them is added as a line of its own and is read back from it as the number it
is. The lines that were there before are kept as they are unless the last of them is open: then the first line that is added
goes on with it. -/

namespace TodoLedger

namespace Text

variable {t : Text}

/-- Bytes as the characters with their numbers, so that there are lines in any content. -/
def ofBytes (bytes : Bytes) : Text := bytes.map fun b => Char.ofNat b.toNat

theorem ofBytes_append (a b : Bytes) : ofBytes (a ++ b) = ofBytes a ++ ofBytes b := List.map_append

/-- An ASCII text is read from its bytes one by one. -/
theorem ofBytes_utf8 (ascii : ∀ c ∈ t, c.toNat < 0x80) : ofBytes (utf8 t) = t := by
  induction t with
  | nil => rfl
  | cons c t ih =>
    obtain ⟨here, later⟩ := List.forall_mem_cons.mp ascii
    have one : String.utf8EncodeChar c = [UInt8.ofNat c.toNat] := by
      rw [String.utf8EncodeChar, if_pos (show c.val.toNat ≤ 0x7F from Nat.le_of_lt_succ here)]
      rfl
    have byte : (UInt8.ofNat c.toNat).toNat = c.toNat := UInt8.toNat_ofNat_of_lt (Nat.lt_trans here (by decide))
    rw [utf8, List.flatMap_cons, one, List.singleton_append, ofBytes, List.map_cons, byte, Char.ofNat_toNat]
    exact congrArg (c :: ·) (ih later)

/-- A line feed is one byte, and no other byte is one. -/
theorem ofBytes_start_iff {bytes : Bytes} : ofBytes bytes = [] ∨ (ofBytes bytes).getLast? = some '\n' ↔
    bytes = [] ∨ bytes.getLast? = some 0x0A := by
  have feed : ∀ b : UInt8, Char.ofNat b.toNat = '\n' ↔ b = 0x0A := by
    intro b
    constructor
    · intro same
      have number := congrArg Char.toNat same
      rw [toNat_ofNat_of_valid (Or.inl (Nat.lt_trans b.toNat_lt (by decide)))] at number
      exact UInt8.toNat_inj.mp number
    · rintro rfl
      rfl
  rw [ofBytes, List.map_eq_nil_iff, List.getLast?_map, Option.map_eq_some_iff]
  refine or_congr_right ⟨?_, fun last => ⟨_, last, rfl⟩⟩
  rintro ⟨b, last, same⟩
  rw [last, (feed b).mp same]

end Text

namespace RunStats

variable {d d' : Disk} {path : Text} {env : Environment}

/-! ### The lines -/

/-- A variable and its value as they stand in a line. -/
def assignment (a : Text × Text) : Text := a.1 ++ ['='] ++ a.2

/-- The variables as lines without their endings. -/
def assigned (s : RunStats) : List Text := s.assignments.map assignment

theorem assignmentLines_eq (s : RunStats) : s.assignmentLines = s.assigned.flatMap (· ++ ['\n']) := by
  rw [assignmentLines, assigned, List.flatMap_map]
  rfl

/-- The counters that are exported, in the order of their variables. -/
def exported (s : RunStats) : List Nat :=
  [s.filesScanned, s.todos, s.fixmes, s.encodingFailures, s.issuesFiled, s.issueFailures, s.duplicatesAvoided,
    s.duplicateClosed]

/-- A letter, a digit, an underscore or a dot of ASCII. -/
def isPlain (c : Char) : Bool := c.isAlphanum || c == '_' || c == '.'

theorem toNat_lt_of_isPlain {c : Char} (plain : isPlain c = true) : c.toNat < 0x80 := by
  rw [isPlain, Bool.or_eq_true, Bool.or_eq_true, beq_iff_eq, beq_iff_eq] at plain
  rcases plain with (alphanumeric | rfl) | rfl
  · obtain letter | digit := Bool.or_eq_true_iff.mp alphanumeric
    · obtain upper | lower := Bool.or_eq_true_iff.mp letter
      · have bounds : 65 ≤ c.toNat ∧ c.toNat ≤ 90 := of_decide_eq_true upper
        omega
      · have last : c.toNat ≤ 122 := of_decide_eq_true (Bool.and_eq_true_iff.mp lower).2
        omega
    · have last : c.toNat ≤ 57 := of_decide_eq_true (Bool.and_eq_true_iff.mp digit).2
      omega
  · decide
  · decide

/-- A name and a value that hold plain characters only. -/
structure Assignable (a : Text × Text) : Prop where
  name : a.1.all isPlain = true
  value : a.2.all isPlain = true

theorem assignable_count {name : Text} (plain : name.all isPlain = true) (n : Nat) : Assignable (name, Text.ofNat n) where
  name := plain
  value := List.all_eq_true.mpr fun c mem => by simp [isPlain, Char.isAlphanum, Text.isDigit_of_mem_ofNat mem]

theorem assignable (s : RunStats) : ∀ a ∈ s.assignments, Assignable a := by
  simp only [assignments, List.forall_mem_cons, List.not_mem_nil, false_imp_iff, implies_true, and_true]
  exact ⟨⟨by decide, by decide⟩, ⟨by decide, by decide⟩, assignable_count (by decide) _,
    assignable_count (by decide) _, assignable_count (by decide) _, assignable_count (by decide) _,
    assignable_count (by decide) _, assignable_count (by decide) _, assignable_count (by decide) _,
    assignable_count (by decide) _⟩

namespace Assignable

variable {a : Text × Text}

theorem cases_of_mem (plain : Assignable a) {c : Char} (mem : c ∈ assignment a) : isPlain c = true ∨ c = '=' := by
  rw [assignment, List.mem_append, List.mem_append, List.mem_singleton] at mem
  rcases mem with (name | sign) | value
  · exact Or.inl (List.all_eq_true.mp plain.name c name)
  · exact Or.inr sign
  · exact Or.inl (List.all_eq_true.mp plain.value c value)

theorem isLine (plain : Assignable a) : Text.IsLine (assignment a) := by
  have apart : ∀ c ∈ assignment a, c ≠ '\n' ∧ c ≠ '\r' := fun c mem => by
    constructor <;>
    · rintro rfl
      rcases plain.cases_of_mem mem with plain | sign
      · revert plain
        decide
      · revert sign
        decide
  exact ⟨by simp [assignment], fun mem => (apart _ mem).1 rfl, fun last => (apart _ (List.mem_of_getLast? last)).2 rfl⟩

/-- A line is read back as its name and its value. -/
theorem cut?_assignment (plain : Assignable a) : Text.cut? '=' (assignment a) = some a := by
  refine Text.cut?_eq_some_iff.mpr ⟨by rw [assignment, List.append_assoc]; rfl, fun mem => ?_⟩
  have sign := List.all_eq_true.mp plain.name '=' mem
  revert sign
  decide

end Assignable

theorem toNat_lt_of_mem_assignmentLines (s : RunStats) : ∀ c ∈ s.assignmentLines, c.toNat < 0x80 := by
  intro c mem
  rw [assignmentLines_eq, List.mem_flatMap] at mem
  obtain ⟨line, assigned, mem⟩ := mem
  obtain ⟨a, listed, rfl⟩ := List.mem_map.mp assigned
  rcases List.mem_append.mp mem with inside | feed
  · rcases (s.assignable a listed).cases_of_mem inside with plain | rfl
    · exact toNat_lt_of_isPlain plain
    · decide
  · rw [List.mem_singleton.mp feed]
    decide

theorem isLine_of_mem_assigned (s : RunStats) : ∀ line ∈ s.assigned, Text.IsLine line := by
  intro line assigned
  obtain ⟨a, listed, rfl⟩ := List.mem_map.mp assigned
  exact (s.assignable a listed).isLine

theorem assigned_eq_cons (s : RunStats) : s.assigned = "TODOON_STATUS=finished".toList :: s.assigned.tail := rfl

/-! ### The file -/

theorem value_exportStats (s : RunStats) (named : env "GITHUB_ENV".toList = some path)
    (appended : d.append path (Text.utf8 s.assignmentLines) = .ok d') : (Check.exportStats d env s).value = d' := by
  rw [Check.exportStats, named]
  dsimp only
  rw [appended]
  rfl

/-- Behind any text the variables stand as lines of their own if and only if the text is empty or ended. Else the first of
them goes on with the last line. -/
theorem lines_append_assignmentLines (s : RunStats) (t : Text) :
    (Text.lines (t ++ s.assignmentLines) = Text.lines t ++ s.assigned ↔ t = [] ∨ t.getLast? = some '\n') ∧
      (¬(t = [] ∨ t.getLast? = some '\n') → ∃ kept last, Text.lines t = kept ++ [last] ∧
        Text.lines (t ++ s.assignmentLines) =
          kept ++ (last ++ "TODOON_STATUS=finished".toList) :: s.assigned.tail) := by
  have own := s.isLine_of_mem_assigned
  rw [assigned_eq_cons] at own
  rw [assignmentLines_eq, assigned_eq_cons]
  refine ⟨Text.lines_append_pieces_iff own t, fun not_ended => ?_⟩
  obtain nothing | ended | ⟨front, last, rfl, start, some_text, open_line⟩ := Text.ending_cases t
  · exact absurd (Or.inl nothing) not_ended
  · exact absurd (Or.inr ended) not_ended
  · obtain ⟨before, after⟩ := Text.lines_append_open start some_text open_line own
    exact ⟨_, _, before, after⟩

/-- An export that succeeds leaves the content of the environment file and the variables behind it. Whatever the content,
its lines are kept and the variables follow them as lines of their own if and only if there was none or it ended in a line
feed; else the first variable goes on with the last line, and the other lines are as they should be. Each line that is
added is read back as its variable, and the values of the counters are read back as the counters. -/
theorem lines_of_export (s : RunStats) (named : env "GITHUB_ENV".toList = some path)
    (appended : d.append path (Text.utf8 s.assignmentLines) = .ok d') :
    ∃ before, (d.read path = .ok before ∨ d.read path = .error .notFound ∧ before = []) ∧
      (Check.exportStats d env s).value = d' ∧
      d'.read path = .ok (before ++ Text.utf8 s.assignmentLines) ∧
      (let held := Text.lines (Text.ofBytes before)
        let holds := Text.lines (Text.ofBytes (before ++ Text.utf8 s.assignmentLines))
        (holds = held ++ s.assigned ↔ before = [] ∨ before.getLast? = some 0x0A) ∧
        (¬(before = [] ∨ before.getLast? = some 0x0A) → ∃ kept last, held = kept ++ [last] ∧
          holds = kept ++ (last ++ "TODOON_STATUS=finished".toList) :: s.assigned.tail)) ∧
      (∀ t, before = Text.utf8 t →
        Text.ofUtf8? (before ++ Text.utf8 s.assignmentLines) = some (t ++ s.assignmentLines) ∧
        (Text.lines (t ++ s.assignmentLines) = Text.lines t ++ s.assigned ↔ t = [] ∨ t.getLast? = some '\n')) ∧
      s.assigned.map (Text.cut? '=') = s.assignments.map some ∧
      (s.assignments.drop 2).map (fun a => Text.decimal? a.2) = s.exported.map some := by
  have content : ∃ before, (d.read path = .ok before ∨ d.read path = .error .notFound ∧ before = []) ∧
      d'.read path = .ok (before ++ Text.utf8 s.assignmentLines) := by
    obtain ⟨before, was, is⟩ | ⟨missing, is⟩ := Disk.read_append appended
    · exact ⟨before, Or.inl was, is⟩
    · exact ⟨[], Or.inr ⟨missing, rfl⟩, is⟩
  obtain ⟨before, was, is⟩ := content
  refine ⟨before, was, s.value_exportStats named appended, is, ?_, fun t text => ⟨?_, ?_⟩, ?_, ?_⟩
  · intro held holds
    have bytes : holds = Text.lines (Text.ofBytes before ++ s.assignmentLines) := by
      rw [← Text.ofBytes_utf8 s.toNat_lt_of_mem_assignmentLines, ← Text.ofBytes_append]
    rw [bytes, ← Text.ofBytes_start_iff]
    exact s.lines_append_assignmentLines (Text.ofBytes before)
  · rw [text, ← Text.utf8_append]
    exact Text.ofUtf8?_eq_some_iff.mpr rfl
  · exact (s.lines_append_assignmentLines t).1
  · rw [assigned, List.map_map]
    exact List.map_congr_left fun a listed => (s.assignable a listed).cut?_assignment
  · simp only [assignments, exported, List.drop_succ_cons, List.drop_zero, List.map_cons, List.map_nil,
      Text.decimal?_ofNat]

/-- Behind a line that is ended, with a disk on which the file stands in a directory. -/
theorem lines_of_export_ended :
    let env : Environment := fun name => [("GITHUB_ENV".toList, "run/env".toList)].lookup name
    let d : Disk := ⟨[(["run".toList], .directory),
      (["run".toList, "env".toList], .file (Text.utf8 "PATH=/bin\n".toList))], []⟩
    let s : RunStats := { filesScanned := 12, todos := 3, issuesFiled := 2 }
    ∃ d', d.append "run/env".toList (Text.utf8 s.assignmentLines) = .ok d' ∧
      (Check.exportStats d env s).value = d' ∧
      d'.read "run/env".toList = .ok (Text.utf8 ("PATH=/bin\n".toList ++ s.assignmentLines)) ∧
      Text.lines ("PATH=/bin\n".toList ++ s.assignmentLines) = "PATH=/bin".toList :: s.assigned := by
  intro env d s
  have succeeds : (d.append "run/env".toList (Text.utf8 s.assignmentLines)).isOk = true := by decide +kernel
  obtain ⟨d', appended⟩ : ∃ d', d.append "run/env".toList (Text.utf8 s.assignmentLines) = .ok d' := by
    cases result : d.append "run/env".toList (Text.utf8 s.assignmentLines) with
    | ok d' => exact ⟨d', rfl⟩
    | error e => rw [result] at succeeds; cases succeeds
  have held : d.read "run/env".toList = .ok (Text.utf8 "PATH=/bin\n".toList) := by decide +kernel
  obtain ⟨before, was, left, is, -, text, -⟩ := lines_of_export s (by rfl : env "GITHUB_ENV".toList = _) appended
  have content : before = Text.utf8 "PATH=/bin\n".toList := by
    rcases was with was | ⟨missing, -⟩
    · exact (Except.ok.inj (held.symm.trans was)).symm
    · cases held.symm.trans missing
  refine ⟨d', appended, left, ?_, (text _ content).2.mpr (Or.inr rfl)⟩
  rw [is, content, Text.utf8_append]

/-- Behind an open line the first variable is no line of its own. -/
theorem export_joins_open_line :
    let env : Environment := fun name => [("GITHUB_ENV".toList, "env".toList)].lookup name
    let d : Disk := ⟨[(["env".toList], .file (Text.utf8 "A=1".toList))], []⟩
    let s : RunStats := {}
    ∃ holds, (Check.exportStats d env s).value.read "env".toList = .ok holds ∧
      (Text.lines (Text.ofBytes holds)).head? = some "A=1TODOON_STATUS=finished".toList ∧
      Text.lines (Text.ofBytes holds) ≠ "A=1".toList :: s.assigned := by
  intro env d s
  refine ⟨Text.utf8 ("A=1".toList ++ s.assignmentLines), ?_⟩
  decide +kernel

end RunStats
end TodoLedger
