import Mathlib.Data.List.Basic
import TodoLedger.Config.Reader

/-! The settings of a file. Each of them is what the file says under its name, or its default where the file does not name
it. Without a file, and for a file in which nothing is written, all are the defaults. -/

namespace TodoLedger.Config

open Yaml

variable {α : Type} {entries : List (Text × Node)} {name : String} {read? : Node → Option α} {Reads : Node → α → Prop}
  {default a : α} {doc : Document} {n : Node} {d : Disk} {root path t : Text} {named : Option Text} {c : Config}

/-- A setting among the entries of a mapping: what is read under its name, which stands there once, or else the default. -/
inductive Setting (entries : List (Text × Node)) (name : String) (Reads : Node → α → Prop) (default : α) : α → Prop
  | missing (unnamed : ∀ e ∈ entries, e.1 ≠ name.toList) : Setting entries name Reads default default
  | given {before after : List (Text × Node)} {value : Node} {a : α}
      (stands : entries = before ++ (name.toList, value) :: after) (first : ∀ e ∈ before, e.1 ≠ name.toList)
      (last : ∀ e ∈ after, e.1 ≠ name.toList) (reads : Reads value a) : Setting entries name Reads default a

structure TrackerSettings (doc : Document) (entries : List (Text × Node)) (c : TrackerConfig) : Prop where
  apiUrl : Setting entries "api_url" (text? doc · = some ·) "https://api.github.com".toList c.apiUrl
  timeout : Setting entries "timeout_ms" (count? doc · = some ·) 10000 c.timeout
  creator : Setting entries "creator" (optionalText? doc · = some ·) (some "app/todo-or-not".toList) c.creator

structure Settings (doc : Document) (entries : List (Text × Node)) (c : Config) : Prop where
  contextLimit : Setting entries "context_limit" (count? doc · = some ·) 8 c.contextLimit
  maxIssues : Setting entries "max_issues" (count? doc · = some ·) 8 c.maxIssues
  failClosedDuplicates :
    Setting entries "fail_closed_duplicates" (flag? doc · = some ·) false c.failClosedDuplicates
  ignoreFlag : Setting entries "ignore_flag" (text? doc · = some ·) "# todoon".toList c.ignoreFlag
  ignoreFile : Setting entries "ignore_file" (text? doc · = some ·) ".todo-ignore".toList c.ignoreFile
  excludedPaths : Setting entries "excluded_paths" (texts? doc · = some ·) [] c.excludedPaths
  dryRun : Setting entries "dry_run" (flag? doc · = some ·) false c.dryRun
  tracker : Setting entries "tracker"
    (fun n c => ∃ inner, keyed? doc n = some inner ∧ TrackerSettings doc inner c) {} c.tracker

/-- The settings that a text gives. -/
inductive Written (t : Text) : Config → Prop
  | blank (nothing : Text.allBlank t = true) : Written t {}
  | empty {doc : Document} (read : Yaml.read? t = some doc) (nothing : doc.root = none) : Written t {}
  | settings {doc : Document} {n : Node} {entries : List (Text × Node)} {c : Config} (read : Yaml.read? t = some doc)
      (root : doc.root = some n) (keyed : keyed? doc n = some entries) (set : Settings doc entries c) : Written t c

/-- The settings of the file that is named, or else of the first that is in the root under one of the usual names. -/
inductive FromFile (d : Disk) (root : Text) (named : Option Text) : Config → Prop
  | without (unnamed : named = none) (first : d.isFile (Path.join root "todoon.yaml".toList) = false)
      (second : d.isFile (Path.join root ".todoon.yaml".toList) = false) : FromFile d root named {}
  | written {path t : Text} {c : Config}
      (chosen : named = some path ∨ named = none ∧ (path = Path.join root "todoon.yaml".toList ∨
        d.isFile (Path.join root "todoon.yaml".toList) = false ∧ path = Path.join root ".todoon.yaml".toList))
      (read : d.readText path = .ok t) (written : Written t c) : FromFile d root named c

theorem setting_of_setting? (set : setting? entries name read? default = some a)
    (sound : ∀ n a, read? n = some a → Reads n a) : Setting entries name Reads default a := by
  rw [setting?] at set
  split at set
  · rename_i none
    cases set
    exact .missing (by simpa [List.filter_eq_nil_iff] using none)
  · rename_i key value one
    obtain ⟨before, after, stands, first, here, last⟩ := List.filter_eq_cons_iff.mp one
    obtain rfl : key = name.toList := by simpa using here
    exact .given stands (by simpa using first) (by simpa [List.filter_eq_nil_iff] using last) (sound _ _ set)
  · cases set

theorem trackerSettings_of_tracker? {c : TrackerConfig} (read : tracker? doc n = some c) :
    ∃ inner, keyed? doc n = some inner ∧ TrackerSettings doc inner c := by
  simp only [tracker?, Option.bind_eq_bind, Option.bind_eq_some_iff, Option.pure_def, Option.some.injEq] at read
  obtain ⟨inner, keyed, apiUrl, h₁, timeout, h₂, creator, h₃, rfl⟩ := read
  have same : ∀ {β : Type} {read? : Node → Option β} (n : Node) (b : β), read? n = some b → read? n = some b :=
    fun _ _ => id
  exact ⟨inner, keyed, setting_of_setting? h₁ same, setting_of_setting? h₂ same, setting_of_setting? h₃ same⟩

theorem written_of_ofText? (read : ofText? t = some c) : Written t c := by
  rw [ofText?] at read
  split at read
  · cases read
    exact .blank ‹_›
  obtain ⟨doc, parsed, read⟩ := Option.bind_eq_some_iff.mp read
  split at read
  · cases read
    exact .empty parsed ‹_›
  simp only [ofNode?, Option.bind_eq_bind, Option.bind_eq_some_iff, Option.pure_def, Option.some.injEq] at read
  obtain ⟨entries, keyed, _, h₁, _, h₂, _, h₃, _, h₄, _, h₅, _, h₆, _, h₇, _, h₈, rfl⟩ := read
  have same : ∀ {β : Type} {read? : Node → Option β} (n : Node) (b : β), read? n = some b → read? n = some b :=
    fun _ _ => id
  exact .settings parsed ‹_› keyed
    { contextLimit := setting_of_setting? h₁ same
      maxIssues := setting_of_setting? h₂ same
      failClosedDuplicates := setting_of_setting? h₃ same
      ignoreFlag := setting_of_setting? h₄ same
      ignoreFile := setting_of_setting? h₅ same
      excludedPaths := setting_of_setting? h₆ same
      dryRun := setting_of_setting? h₇ same
      tracker := setting_of_setting? h₈ fun _ _ => trackerSettings_of_tracker? }

theorem fromFile_of_ofFile (read : ofFile d path = .ok c)
    (chosen : named = some path ∨ named = none ∧ (path = Path.join root "todoon.yaml".toList ∨
      d.isFile (Path.join root "todoon.yaml".toList) = false ∧ path = Path.join root ".todoon.yaml".toList)) :
    FromFile d root named c := by
  rw [ofFile] at read
  split at read
  · cases read
  · cases written : ofText? ‹Text› with
    | none =>
      rw [written] at read
      cases read
    | some c =>
      rw [written] at read
      cases read
      exact .written chosen ‹_› (written_of_ofText? written)

/-- A run takes its settings from one file, or from none. -/
theorem fromFile_of_discover (found : discover d root named = .ok c) : FromFile d root named c := by
  rw [discover] at found
  rcases named with _ | path
  · rw [Option.none_or, find?, fileNames, List.map_cons, List.map_cons, List.map_nil, List.find?_cons] at found
    cases first : d.isFile (Path.join root "todoon.yaml".toList) with
    | true =>
      rw [first] at found
      exact fromFile_of_ofFile found (Or.inr ⟨rfl, Or.inl rfl⟩)
    | false =>
      rw [first, List.find?_cons] at found
      cases second : d.isFile (Path.join root ".todoon.yaml".toList) with
      | true =>
        rw [second] at found
        exact fromFile_of_ofFile found (Or.inr ⟨rfl, Or.inr ⟨first, rfl⟩⟩)
      | false =>
        rw [second] at found
        cases found
        exact .without rfl first second
  · exact fromFile_of_ofFile found (Or.inl rfl)

end TodoLedger.Config
