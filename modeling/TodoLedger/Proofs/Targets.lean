import TodoLedger.Proofs.Disk.Leads
import TodoLedger.Targets

/-! The files of a run. A run scans the files on the way to which the rules ignore nothing, in the order of a walk. Rules
that ignore entries come to leave out with a path all below it, so it comes to the same to walk through all and look at
each file's own path. -/

namespace TodoLedger.Targets

open Disk

variable {d : Disk} {root ignoreFile : Text} {entries : List Text} {build : Glob.SetBuilder} {rules : IgnoreRules}

theorem value_collect (d : Disk) (root : Text) (rules : IgnoreRules) :
    (collect d root rules).value = ((d.survey root).walk.filter (rules.admits [])).map (Path.descend root) :=
  Survey.files_eq rules root (d.survey root)

/-- Rules that ignore more leave a part of the files, in the same order. -/
theorem value_collect_sublist {more : IgnoreRules} (ignored : ∀ p, rules.isIgnored p = true → more.isIgnored p = true)
    (d : Disk) (root : Text) : (collect d root more).value.Sublist (collect d root rules).value := by
  rw [value_collect, value_collect]
  exact (List.monotone_filter_right _ fun _ => IgnoreRules.admits_of_isIgnored ignored).map _

theorem isName_of_mem_walk (sound : d.Sound) {names : List Text} (mem : names ∈ (d.survey root).walk) :
    ∀ name ∈ names, Path.IsName name := by
  rw [survey] at mem
  split at mem
  · cases mem
  · obtain rfl := List.mem_singleton.mp mem
    exact fun name none => absurd none List.not_mem_nil
  · exact (sound.leads_of_mem_walk mem).isName sound

theorem walk_survey_ascending (sound : d.Sound) (root : Text) :
    (d.survey root).walk.Pairwise fun a b => a.map Text.utf8 < b.map Text.utf8 := by
  rw [survey]
  split
  · exact .nil
  · exact List.pairwise_singleton _ _
  · exact sound.walk_ascending _ _ _ _

/-- A run scans the regular files at a root and below it on the way to which the rules ignore nothing, each once, in the
order of a walk that goes through each directory by the bytes of the names. The root itself is not looked at. -/
theorem collect_spec (sound : d.Sound) (acyclic : d.Acyclic root) (rules : IgnoreRules) :
    ∃ found : List (List Text), (collect d root rules).value = found.map (Path.descend root) ∧
      (collect d root rules).value.Nodup ∧ (found.Pairwise fun a b => a.map Text.utf8 < b.map Text.utf8) ∧
      ∀ names, names ∈ found ↔ d.Finds root names .file ∧
        ∀ part ≠ [], part <+: names → rules.isIgnored (Path.descend [] part) = false := by
  let found := (d.survey root).walk.filter (rules.admits [])
  have ascending : found.Pairwise fun a b => a.map Text.utf8 < b.map Text.utf8 :=
    (walk_survey_ascending sound root).filter _
  refine ⟨found, value_collect d root rules, ?_, ascending, fun names => ?_⟩
  · -- different names make different paths, and in an ascending list no names come twice
    rw [value_collect]
    refine List.pairwise_map.mpr (ascending.imp_of_mem fun {a b} ha hb less same => ?_)
    have names := Path.descend_inj (isName_of_mem_walk sound (List.mem_filter.mp ha).1)
      (isName_of_mem_walk sound (List.mem_filter.mp hb).1) same
    rw [names] at less
    exact List.lt_irrefl _ less
  · rw [List.mem_filter, sound.mem_walk_iff acyclic, IgnoreRules.admits_iff]

/-- A directory with a file, a directory with another file, and a link to that directory. -/
def linked : Disk :=
  let r := "r".toList
  { nodes := [([r], .directory), ([r, "a".toList], .directory), ([r, "a".toList, "f".toList], .file []),
      ([r, "l".toList], .link "a".toList), ([r, "x".toList], .file [])],
    current := [] }

theorem linked_sound : linked.Sound := by decide

theorem leads_inside_linked {path : Text} {names location : List Text}
    (leads : linked.Leads path ["r".toList, "a".toList] names (.directory location)) :
    names = [] ∧ location = ["r".toList, "a".toList] := by
  cases leads with
  | here => exact ⟨rfl, rfl⟩
  | inside stands seen rest =>
    have mem := mem_of_node? stands (by simp)
    simp [linked] at mem
    obtain ⟨-, rfl⟩ := mem
    cases seen

theorem finds_linked {names location : List Text} (found : linked.Finds "/r".toList names (.directory location)) :
    names = [] ∧ location = ["r".toList] ∨ names.length = 1 ∧ location = ["r".toList, "a".toList] := by
  have leads : linked.Leads "/r".toList ["r".toList] names (.directory location) := found
  cases leads with
  | here => exact Or.inl ⟨rfl, rfl⟩
  | inside stands seen rest =>
    have mem := mem_of_node? stands (by simp)
    simp [linked] at mem
    obtain ⟨rfl, rfl⟩ | ⟨rfl, rfl⟩ | ⟨rfl, rfl⟩ := mem
    · cases seen
      obtain ⟨rfl, rfl⟩ := leads_inside_linked rest
      exact Or.inr ⟨rfl, rfl⟩
    · cases seen
      obtain ⟨rfl, rfl⟩ := leads_inside_linked rest
      exact Or.inr ⟨rfl, rfl⟩
    · cases seen

theorem linked_acyclic : linked.Acyclic "/r".toList := by
  intro front back location one other
  obtain ⟨rfl, rfl⟩ | ⟨short, rfl⟩ := finds_linked one
  · obtain ⟨empty, -⟩ | ⟨-, elsewhere⟩ := finds_linked other
    · exact (List.append_eq_nil_iff.mp empty).2
    · cases elsewhere
  · obtain ⟨-, elsewhere⟩ | ⟨long, -⟩ := finds_linked other
    · cases elsewhere
    · rw [List.length_append, short] at long
      exact List.eq_nil_of_length_eq_zero (by omega)

/-- What is ignored by one path is found by another. -/
theorem collect_linked :
    let rules : IgnoreRules := ⟨[⟨"a".toList, [.literal 'a']⟩, ⟨"a/**".toList, [.literal 'a', .everythingBelow]⟩],
      ".todo-ignore".toList, 1⟩
    linked.Sound ∧ linked.Acyclic "/r".toList ∧
      ∃ found : List (List Text), (collect linked "/r".toList rules).value = found.map (Path.descend "/r".toList) ∧
        (collect linked "/r".toList rules).value.Nodup ∧
        (found.Pairwise fun a b => a.map Text.utf8 < b.map Text.utf8) ∧
        ["l".toList, "f".toList] ∈ found ∧ ["a".toList, "f".toList] ∉ found := by
  intro rules
  obtain ⟨found, all, once, ascending, mem⟩ := collect_spec linked_sound linked_acyclic rules
  refine ⟨linked_sound, linked_acyclic, found, all, once, ascending, (mem _).mpr ⟨?_, ?_⟩, fun left => ?_⟩
  · have link : linked.node? ["r".toList, "l".toList] = some (.link "a".toList) := rfl
    have file : linked.node? ["r".toList, "a".toList, "f".toList] = some (.file []) := rfl
    exact .inside link rfl (.last file rfl)
  · exact IgnoreRules.admits_iff.mp (by decide)
  · have kept := ((mem _).mp left).2 ["a".toList] (List.cons_ne_nil _ _) ⟨["f".toList], rfl⟩
    exact absurd kept (by decide)

/-- Where the ignore file is no directory, the files that a run scans are those of a walk through all whose own paths are
not ignored. -/
theorem value_collect_of_compiled (compiled : IgnoreRules.ofEntries ignoreFile entries build = .ok rules) (sound : d.Sound)
    (noDirectory : d.isDirectory (Path.join root ignoreFile) = false) :
    (collect d root rules).value =
      ((d.survey root).walk.filter fun names => names.isEmpty || !rules.isIgnored (Path.descend [] names)).map
        (Path.descend root) := by
  rw [value_collect]
  refine congrArg (List.map _) (List.filter_congr fun names mem => Bool.eq_iff_iff.mpr ?_)
  have proper := isName_of_mem_walk sound mem
  rw [IgnoreRules.admits_iff_own compiled proper, Bool.or_eq_true, List.isEmpty_iff, Bool.not_eq_true']
  intro front back f b split file
  rw [survey] at mem
  split at mem
  · cases mem
  · obtain rfl := List.mem_singleton.mp mem
    exact f (List.append_eq_nil_iff.mp split.symm).1
  · -- a path on the way to something is that of a directory, so it is not that of the ignore file
    obtain ⟨inner, directory⟩ := (sound.leads_of_mem_walk mem).onTheWay split f b
    rw [← file, Path.join_descend (fun name mem => proper name (split ▸ List.mem_append_left _ mem)) f,
      isDirectory] at noDirectory
    rw [sight] at directory
    split at directory
    · cases directory
    · rename_i eq
      rw [eq] at noDirectory
      cases noDirectory
    · cases directory

/-- Rules that ignore entries come to are closed downward, so pruning loses nothing. -/
theorem collect_closed (compiled : IgnoreRules.ofEntries ignoreFile entries build = .ok rules) :
    (∀ p q : Text, q ≠ [] → rules.matched p = true → rules.matched (p ++ '/' :: q) = true) ∧
      ∀ (d : Disk) (root : Text), d.Sound → d.isDirectory (Path.join root ignoreFile) = false →
        (collect d root rules).value =
          ((d.survey root).walk.filter fun names => names.isEmpty || !rules.isIgnored (Path.descend [] names)).map
            (Path.descend root) :=
  ⟨fun _ q _ matched => IgnoreRules.matched_below compiled matched q,
    fun _ _ sound noDirectory => value_collect_of_compiled compiled sound noDirectory⟩

theorem collect_closed_linked :
    let rules : IgnoreRules := ⟨[⟨"a".toList, [.literal 'a']⟩, ⟨"a/**".toList, [.literal 'a', .everythingBelow]⟩],
      ".todo-ignore".toList, 1⟩
    IgnoreRules.ofEntries ".todo-ignore".toList ["./a/".toList] = .ok rules ∧ rules.matched "a/f".toList = true ∧
      (collect linked "/r".toList rules).value =
        ((linked.survey "/r".toList).walk.filter fun names =>
          names.isEmpty || !rules.isIgnored (Path.descend [] names)).map (Path.descend "/r".toList) := by
  intro rules
  have compiled : IgnoreRules.ofEntries ".todo-ignore".toList ["./a/".toList] = .ok rules := rfl
  obtain ⟨below, same⟩ := collect_closed compiled
  exact ⟨compiled, below "a".toList "f".toList (by decide) (by decide), same linked "/r".toList linked_sound (by decide)⟩

end TodoLedger.Targets
