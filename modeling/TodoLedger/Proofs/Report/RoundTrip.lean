import Mathlib.Algebra.Order.BigOperators.Group.List
import Mathlib.Algebra.Order.Group.Nat
import TodoLedger.Proofs.Json.RoundTrip
import TodoLedger.Report.Reader

/-! The document of a report is read back from its text. Objects are written from slots, the empty ones of which leave
out their member; a slot is read by its name alone, so each value is looked at by itself. -/

namespace TodoLedger

namespace Json

variable {α : Type} {largest m n : Nat} {ts : List Text}

/-- An object without a member of a name. -/
def LeavesOut (j : Json) (name : String) : Prop :=
  ∃ members, j = object members ∧ ∀ m ∈ members, m.1 ≠ name.toList

/-! ### Values -/

theorem count?_ofNat_eq_some_iff : count? largest (ofNat n) = some m ↔ n ≤ largest ∧ n = m := by
  have digits : Text.digitsFrom? 10 0 (Text.ofNat n) = some n := by
    refine Text.digitsFrom?_ten_eq_some_iff.mpr ⟨?_, Nat.ofDigitChars_ten_toDigits.symm⟩
    exact List.all_eq_true.mpr fun _ => Text.isDigit_of_mem_ofNat
  rw [ofNat, count?, digits, Option.filter_eq_some_iff, Option.some.injEq, decide_eq_true_iff]
  constructor
  · rintro ⟨rfl, small⟩
    exact ⟨small, rfl⟩
  · rintro ⟨small, rfl⟩
    exact ⟨rfl, small⟩

theorem mapM_map_eq_some_iff {item? : Json → Option α} {print : α → Json} {Fits : α → Prop}
    (back : ∀ a b, item? (print a) = some b ↔ Fits a ∧ a = b) {as bs : List α} :
    (as.map print).mapM item? = some bs ↔ (∀ a ∈ as, Fits a) ∧ as = bs := by
  induction as generalizing bs with
  | nil => simp
  | cons a as ih =>
    simp only [List.map_cons, List.mapM_cons, Option.bind_eq_bind, Option.bind_eq_some_iff, back, ih, Option.pure_def,
      Option.some.injEq, List.forall_mem_cons]
    constructor
    · rintro ⟨_, ⟨here, rfl⟩, _, ⟨later, rfl⟩, rfl⟩
      exact ⟨⟨here, later⟩, rfl⟩
    · rintro ⟨⟨here, later⟩, rfl⟩
      exact ⟨a, ⟨here, rfl⟩, as, ⟨later, rfl⟩, rfl⟩

theorem items?_ofTexts : items? text? (ofTexts ts) = some ts := by
  have back : ∀ a b, text? (string a) = some b ↔ True ∧ a = b := by simp [text?]
  exact (mapM_map_eq_some_iff back).mpr ⟨fun _ _ => trivial, rfl⟩

end Json

namespace Report

open Json

variable {largest : Nat}

/-! ### Slots -/

section Slots
variable {slots : List (String × Option Json)} {name : String}

/-- The members of some slots. -/
def present (slots : List (String × Option Json)) : List (Text × Json) := slots.flatMap fun s => optional s.1 s.2

theorem mem_present_iff {m : Text × Json} :
    m ∈ present slots ↔ ∃ s ∈ slots, m.1 = s.1.toList ∧ s.2 = some m.2 := by
  simp [present, optional, Prod.ext_iff, eq_comm]

theorem filter_present (distinct : (slots.map Prod.fst).Nodup) :
    (present slots).filter (·.1 == name.toList) = optional name (slots.lookup name).join := by
  induction slots with
  | nil => rfl
  | cons s slots ih =>
    obtain ⟨first, value⟩ := s
    obtain ⟨other, distinct⟩ := List.nodup_cons.mp distinct
    rw [present, List.flatMap_cons, List.filter_append, ← present, List.lookup_cons]
    by_cases here : first = name
    · subst here
      have none_left : (present slots).filter (·.1 == first.toList) = [] := by
        rw [List.filter_eq_nil_iff]
        intro m mem same
        obtain ⟨s, listed, named, -⟩ := mem_present_iff.mp mem
        rw [beq_iff_eq, named, String.toList_inj] at same
        exact other (List.mem_map.mpr ⟨s, listed, same⟩)
      rw [none_left, List.append_nil]
      cases value <;> simp [optional]
    · have apart : first.toList ≠ name.toList := fun same => here (String.toList_inj.mp same)
      have apart' : (name == first) = false := by simpa using Ne.symm here
      rw [ih distinct, apart']
      cases value <;> simp [optional, apart]

/-- A slot is read by itself. -/
theorem member?_present {α : Type} {value? : Json → Option α} {missing : Option α}
    (distinct : (slots.map Prod.fst).Nodup) :
    member? (present slots) name value? missing = (slots.lookup name).join.elim missing value? := by
  rw [member?, filter_present distinct]
  cases (slots.lookup name).join <;> rfl

/-- The members that are left out are those of empty slots. -/
theorem leavesOut_present_iff (distinct : (slots.map Prod.fst).Nodup) :
    (object (present slots)).LeavesOut name ↔ (slots.lookup name).join = none := by
  have left_out : (object (present slots)).LeavesOut name ↔ (present slots).filter (·.1 == name.toList) = [] := by
    simp [LeavesOut, List.filter_eq_nil_iff]
  rw [left_out, filter_present distinct]
  cases (slots.lookup name).join <;> simp [optional]

theorem isPlain_present (plain : ∀ s ∈ slots, ∀ j ∈ s.2, isPlain j = true) :
    isPlain (object (present slots)) = true := by
  rw [isPlain, holdPlain_iff]
  intro m mem
  obtain ⟨s, listed, -, value⟩ := mem_present_iff.mp mem
  exact plain s listed m.2 value

theorem elim_nonEmpty? (ts : List Text) : (nonEmpty? ts).elim (some []) (items? text?) = some ts := by
  cases ts with
  | nil => rfl
  | cons t ts => exact items?_ofTexts

theorem elim_map_string (t : Option Text) : (t.map string).elim (some none) (maybe? text?) = some t := by
  cases t <;> rfl

end Slots

/-! ### Hits -/

namespace HitEntry

variable {e e' : HitEntry}

def slots (e : HitEntry) : List (String × Option Json) :=
  [("file", some (string e.file)), ("line", some (ofNat e.line)), ("keywords", some (ofTexts e.keywords)),
    ("title", some (string e.title)), ("body", e.body.map string), ("labels", nonEmpty? e.labels),
    ("fingerprint", some (string e.fingerprint)), ("context", some (ofTexts e.context)),
    ("trigger_index", some (ofNat e.triggerIndex)), ("decision", e.decision.map string)]

def counts (e : HitEntry) : List Nat := [e.line, e.triggerIndex]

theorem toJson_eq (e : HitEntry) : e.toJson = object (present e.slots) := by
  simp [toJson, present, slots, optional]

theorem distinct_slots (e : HitEntry) : (e.slots.map Prod.fst).Nodup := by
  change names.Nodup
  decide

theorem ofJson?_toJson_eq_some_iff : ofJson? largest e.toJson = some e' ↔ (∀ n ∈ e.counts, n ≤ largest) ∧ e = e' := by
  rw [toJson_eq, ofJson?, members?, Option.bind_eq_bind, Option.bind_some]
  simp only [member?_present e.distinct_slots]
  simp only [slots, List.lookup_cons, String.reduceBEq, BEq.rfl, Option.join_some, Option.elim_some, text?, items?_ofTexts,
    elim_nonEmpty?, elim_map_string, Option.bind_eq_bind, Option.bind_some, Option.bind_eq_some_iff,
    count?_ofNat_eq_some_iff]
  simp [counts, and_assoc]

theorem isPlain_toJson (e : HitEntry) : e.toJson.isPlain = true := by
  rw [toJson_eq]
  refine isPlain_present ?_
  simp [slots, isPlain, isPlain_ofNat, isPlain_ofTexts, nonEmpty?]

end HitEntry

/-! ### Counters -/

namespace Summary

variable {s s' : Summary}

def slots (s : Summary) : List (String × Option Json) :=
  [("files_scanned", some (ofNat s.filesScanned)), ("encoding_failures", some (ofNat s.encodingFailures)),
    ("read_failures", some (ofNat s.readFailures)), ("todos", some (ofNat s.todos)), ("fixmes", some (ofNat s.fixmes)),
    ("issues_filed", some (ofNat s.issuesFiled)), ("issue_failures", some (ofNat s.issueFailures)),
    ("duplicates_avoided", some (ofNat s.duplicatesAvoided)), ("duplicate_closed", some (ofNat s.duplicateClosed))]

def counts (s : Summary) : List Nat :=
  [s.filesScanned, s.encodingFailures, s.readFailures, s.todos, s.fixmes, s.issuesFiled, s.issueFailures,
    s.duplicatesAvoided, s.duplicateClosed]

theorem toJson_eq (s : Summary) : s.toJson = object (present s.slots) := by
  simp [toJson, present, slots, optional]

theorem distinct_slots (s : Summary) : (s.slots.map Prod.fst).Nodup := by
  change names.Nodup
  decide

theorem ofJson?_toJson_eq_some_iff : ofJson? largest s.toJson = some s' ↔ (∀ n ∈ s.counts, n ≤ largest) ∧ s = s' := by
  rw [toJson_eq, ofJson?, members?, Option.bind_eq_bind, Option.bind_some]
  simp only [member?_present s.distinct_slots]
  simp only [slots, List.lookup_cons, String.reduceBEq, BEq.rfl, Option.join_some, Option.elim_some, Option.bind_eq_bind,
    Option.bind_eq_some_iff, count?_ofNat_eq_some_iff]
  simp [counts, and_assoc]

theorem isPlain_toJson (s : Summary) : s.toJson.isPlain = true := by
  rw [toJson_eq]
  refine isPlain_present ?_
  simp [slots, isPlain_ofNat]

end Summary

/-! ### Documents -/

namespace Document

variable {d d' : Document}

def slots (d : Document) : List (String × Option Json) :=
  [("version", some (string d.version)), ("path", some (string d.path)), ("mode", some (string d.mode)),
    ("passed", some (bool d.passed)), ("failures", nonEmpty? d.failures), ("summary", some d.summary.toJson),
    ("hits", some (array (d.hits.map HitEntry.toJson)))]

/-- The counts of a document and of its hits. -/
def counts (d : Document) : List Nat := d.summary.counts ++ d.hits.flatMap HitEntry.counts

/-- The text of a document. -/
def print (d : Document) : Text := d.toJson.pretty ++ ['\n']

theorem toJson_eq (d : Document) : d.toJson = object (present d.slots) := by
  simp [toJson, present, slots, optional]

theorem distinct_slots (d : Document) : (d.slots.map Prod.fst).Nodup := by
  change names.Nodup
  decide

theorem ofJson?_toJson_eq_some_iff : ofJson? largest d.toJson = some d' ↔ (∀ n ∈ d.counts, n ≤ largest) ∧ d = d' := by
  have hits {es : List HitEntry} : items? (HitEntry.ofJson? largest) (array (d.hits.map HitEntry.toJson)) = some es ↔
      (∀ e ∈ d.hits, ∀ n ∈ e.counts, n ≤ largest) ∧ d.hits = es :=
    mapM_map_eq_some_iff fun _ _ => HitEntry.ofJson?_toJson_eq_some_iff
  rw [toJson_eq, ofJson?, members?, Option.bind_eq_bind, Option.bind_some]
  simp only [member?_present d.distinct_slots]
  simp only [slots, List.lookup_cons, String.reduceBEq, BEq.rfl, Option.join_some, Option.elim_some, text?, flag?,
    elim_nonEmpty?, Option.bind_eq_bind, Option.bind_some, Option.bind_eq_some_iff,
    Summary.ofJson?_toJson_eq_some_iff, hits]
  rw [counts, List.forall_mem_append, List.forall_mem_flatMap]
  constructor
  · rintro ⟨_, ⟨summary, rfl⟩, _, ⟨hits, rfl⟩, same⟩
    exact ⟨⟨summary, hits⟩, Option.some.inj same⟩
  · rintro ⟨⟨summary, hits⟩, rfl⟩
    exact ⟨_, ⟨summary, rfl⟩, _, ⟨hits, rfl⟩, rfl⟩

theorem isPlain_toJson (d : Document) : d.toJson.isPlain = true := by
  have hits : arePlain (d.hits.map HitEntry.toJson) = true :=
    arePlain_iff.mpr (List.forall_mem_map.mpr fun e _ => e.isPlain_toJson)
  rw [toJson_eq]
  refine isPlain_present ?_
  simp [slots, isPlain, isPlain_ofTexts, nonEmpty?, Summary.isPlain_toJson, hits]

theorem read?_print_eq_some_iff : read? largest d.print = some d' ↔ (∀ n ∈ d.counts, n ≤ largest) ∧ d = d' := by
  rw [read?, print, read?_pretty_append d.isPlain_toJson rfl, Option.bind_eq_bind, Option.bind_some,
    ofJson?_toJson_eq_some_iff]

theorem print_injective : Function.Injective print := by
  intro d d' same
  -- both are read on a machine that can hold all their counts
  have first : read? (d.counts ++ d'.counts).sum d.print = some d :=
    read?_print_eq_some_iff.mpr ⟨fun n mem => List.le_sum_of_mem (List.mem_append_left _ mem), rfl⟩
  have second : read? (d.counts ++ d'.counts).sum d'.print = some d' :=
    read?_print_eq_some_iff.mpr ⟨fun n mem => List.le_sum_of_mem (List.mem_append_right _ mem), rfl⟩
  rw [same] at first
  exact Option.some.inj (first.symm.trans second)

end Document

/-- A report is read back from its text as its document exactly if its counts can be held; what a document leaves out is
empty, and no two documents have the same text. -/
theorem document_of_print :
    (∀ (r : Report) (largest : Nat), Document.read? largest r.renderDocument = some r.document ↔
      ∀ n ∈ r.document.counts, n ≤ largest) ∧
    (∀ (d : Document) (largest : Nat), Document.read? largest d.print = some d ↔ ∀ n ∈ d.counts, n ≤ largest) ∧
    (∀ d : Document, (d.toJson.LeavesOut "failures" ↔ d.failures = []) ∧
      ∀ e ∈ d.hits, (e.toJson.LeavesOut "body" ↔ e.body = none) ∧ (e.toJson.LeavesOut "labels" ↔ e.labels = []) ∧
        (e.toJson.LeavesOut "decision" ↔ e.decision = none)) ∧
    ∀ d d' : Document, d.print = d'.print ↔ d = d' := by
  have texts : ∀ ts : List Text, nonEmpty? ts = none ↔ ts = [] := by simp [nonEmpty?]
  have back : ∀ (d : Document) (largest : Nat),
      Document.read? largest d.print = some d ↔ ∀ n ∈ d.counts, n ≤ largest := by
    simp [Document.read?_print_eq_some_iff]
  refine ⟨fun r => back r.document, back, fun d => ⟨?_, fun e _ => ⟨?_, ?_, ?_⟩⟩, fun _ _ =>
    Document.print_injective.eq_iff⟩
  · rw [Document.toJson_eq, leavesOut_present_iff d.distinct_slots]
    exact texts d.failures
  · rw [HitEntry.toJson_eq, leavesOut_present_iff e.distinct_slots]
    exact Option.map_eq_none_iff
  · rw [HitEntry.toJson_eq, leavesOut_present_iff e.distinct_slots]
    exact texts e.labels
  · rw [HitEntry.toJson_eq, leavesOut_present_iff e.distinct_slots]
    exact Option.map_eq_none_iff

end Report
end TodoLedger
