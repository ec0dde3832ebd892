import Mathlib.Algebra.Order.Floor.Div
import TodoLedger.Proofs.Inventory.Listing
import TodoLedger.Proofs.Reconciler.Filing

/-! Repeated runs over the same hits. Each run is given the issues of the beginning and, as open ones, those that
the runs before it created; so it goes on where the cap stopped the run before it, until there are no more news. -/

namespace TodoLedger

/-- The issue that is listed for a created one. -/
def Payload.opened (c : Payload) : ExistingIssue := ⟨c.title, .isOpen⟩

/-! ### Longer listings -/

theorem filter_not_mem_take {α : Type} [BEq α] [LawfulBEq α] {l : List α} (nodup : l.Nodup) (n : Nat) :
    (l.filter fun a => !(l.take n).contains a) = l.drop n := by
  have taken : ((l.take n).filter fun a => !(l.take n).contains a) = [] :=
    List.filter_eq_nil_iff.mpr fun a ha => by simp [ha]
  have left : ((l.drop n).filter fun a => !(l.take n).contains a) = l.drop n := by
    refine List.filter_eq_self.mpr fun a ha => ?_
    have fresh : a ∉ l.take n := fun ha' => List.disjoint_take_drop nodup (Nat.le_refl n) ha' ha
    simpa using fresh
  calc (l.filter fun a => !(l.take n).contains a)
      = (l.take n ++ l.drop n).filter fun a => !(l.take n).contains a := by rw [List.take_append_drop]
    _ = l.drop n := by rw [List.filter_append, taken, left, List.nil_append]

namespace Inventory

variable {issues : List ExistingIssue} {created : List Payload} {f : Text}

theorem state?_ofIssues_append_eq_none_iff : (ofIssues (issues ++ created.map Payload.opened)).state? f = none ↔
    (ofIssues issues).state? f = none ∧ f ∉ created.map fun c => fingerprint c.title := by
  rw [state?_ofIssues_eq_none_iff, state?_ofIssues_eq_none_iff, List.forall_mem_append, List.forall_mem_map]
  simp [Payload.opened]

/-- Issues that are listed in addition are no news any more. -/
theorem news_ofIssues_append (issues : List ExistingIssue) (created : List Payload) (hits : List Hit) :
    (ofIssues (issues ++ created.map Payload.opened)).news hits =
      (ofIssues issues).unfiled (created.map fun c => fingerprint c.title) hits := by
  rw [unfiled, news, news, ← eraseDups_filter, List.filter_filter]
  congr 1
  refine List.filter_congr fun f _ => ?_
  rw [Bool.eq_iff_iff, Bool.and_eq_true, Bool.not_eq_true', Option.isNone_iff_eq_none, Option.isNone_iff_eq_none,
    state?_ofIssues_append_eq_none_iff, ← Bool.not_eq_true, List.contains_iff_mem]
  exact and_comm

/-- Open issues of new titles leave those that are only closed as they are. -/
theorem onlyClosed_append_iff (absent : ∀ c ∈ created, (ofIssues issues).state? (fingerprint c.title) = none) :
    OnlyClosed (issues ++ created.map Payload.opened) f ↔ OnlyClosed issues f := by
  constructor
  · rintro ⟨⟨issue, hi, hf⟩, closed⟩
    rcases List.mem_append.mp hi with hi | hi
    · exact ⟨⟨issue, hi, hf⟩, fun issue hi => closed issue (List.mem_append_left _ hi)⟩
    · have := closed issue (List.mem_append_right _ hi) hf
      obtain ⟨c, -, rfl⟩ := List.mem_map.mp hi
      cases this
  · rintro ⟨⟨issue, hi, hf⟩, closed⟩
    refine ⟨⟨issue, List.mem_append_left _ hi, hf⟩, fun other ho hf' => ?_⟩
    rcases List.mem_append.mp ho with ho | ho
    · exact closed other ho hf'
    · obtain ⟨c, hc, rfl⟩ := List.mem_map.mp ho
      exact absurd (hf.trans hf'.symm) (state?_ofIssues_eq_none_iff.mp (absent c hc) issue hi)

end Inventory

/-! ### Runs without news -/

namespace Reconciler

variable {σ : Type} {r : Reconciler σ} {p : Progress σ} {hits : List Hit}

/-- The decision for a hit whose title has an issue. -/
def duplicate (r : Reconciler σ) (h : Hit) : Decision :=
  if r.inventory.state? h.fingerprint = some .closed then .duplicateClosed else .duplicateOpen

theorem decides_duplicate {h : Hit} (known : r.inventory.state? h.fingerprint ≠ none) (hp : p.filed = []) :
    ∃ q, Decides r p h [] (.ok (r.duplicate h)) q ∧ q.filed = [] := by
  obtain ⟨state, hs⟩ := Option.ne_none_iff_exists'.mp known
  cases state with
  | isOpen =>
    have hd : r.duplicate h = .duplicateOpen := by simp [duplicate, hs]
    rw [hd]
    exact ⟨_, .duplicateOpen (classify_of_open hs), hp⟩
  | closed =>
    have hd : r.duplicate h = .duplicateClosed := by simp [duplicate, hs]
    have fresh : h.fingerprint ∉ p.filed := hp ▸ List.not_mem_nil
    rw [hd]
    exact ⟨_, .duplicateClosed (classify_of_closed hs fresh), hp⟩

/-- If every title has an issue, then every hit is a duplicate and no calls are made. -/
theorem run_of_known (known : ∀ h ∈ hits, r.inventory.state? h.fingerprint ≠ none) (hp : p.filed = []) :
    ∃ q, Run r p hits [] ((hits.map r.duplicate).map .ok) q := by
  induction hits generalizing p with
  | nil => exact ⟨p, .nil p⟩
  | cons h hits ih =>
    obtain ⟨hh, later⟩ := List.forall_mem_cons.mp known
    obtain ⟨u, first, hu⟩ := decides_duplicate hh hp
    obtain ⟨q, rest⟩ := ih later hu
    exact ⟨q, .cons first rest⟩

theorem run_of_news_eq_nil (none_new : r.inventory.news hits = []) (hp : p.filed = []) :
    ∃ q, Run r p hits [] ((hits.map r.duplicate).map .ok) q := by
  refine run_of_known (fun h hh absent => ?_) hp
  have hf := Inventory.mem_news.mpr ⟨absent, h, hh, rfl⟩
  rw [none_new] at hf
  exact List.not_mem_nil hf

end Reconciler

/-! ### One run after another -/

/-- Runs over the same hits, one after another and counted from zero. -/
structure Reruns (σ : Type) where
  tracker : Tracker σ
  cap : Nat
  hits : List Hit
  /-- The issues that exist before the first run. -/
  issues : List ExistingIssue
  /-- The counters with which a run starts. -/
  stats : Nat → RunStats
  /-- The state of the tracker with which a run starts. -/
  state : Nat → σ

namespace Reruns

variable {σ : Type}

/-- The issues that are listed for a run: those of the beginning and, as open ones, those that earlier runs
created. -/
def listed (x : Reruns σ) : Nat → List ExistingIssue
  | 0 => x.issues
  | k + 1 =>
    let r : Reconciler σ := ⟨some x.tracker, .ofIssues (x.listed k), x.cap⟩
    x.listed k ++ (Call.created (r.callsOfAll (.start (x.stats k) (x.state k)) x.hits)).map Payload.opened

/-- The reconciler of a run. -/
def reconciler (x : Reruns σ) (k : Nat) : Reconciler σ := ⟨some x.tracker, .ofIssues (x.listed k), x.cap⟩

/-- The issues that a run creates. -/
def created (x : Reruns σ) (k : Nat) : List Payload :=
  Call.created ((x.reconciler k).callsOfAll (.start (x.stats k) (x.state k)) x.hits)

/-- What a run returns. -/
def result (x : Reruns σ) (k : Nat) : Except CapExceeded (List Decision) :=
  ((x.reconciler k).decideAll (.start (x.stats k) (x.state k)) x.hits).value.1

/-- What is new to a run. -/
def news (x : Reruns σ) (k : Nat) : List Text := (Inventory.ofIssues (x.listed k)).news x.hits

variable {x : Reruns σ} {f : Text}

theorem listed_succ (x : Reruns σ) (k : Nat) : x.listed (k + 1) = x.listed k ++ (x.created k).map Payload.opened :=
  rfl

theorem fingerprints_created (accepts : x.tracker.Accepts) (k : Nat) :
    (x.created k).map (fun c => fingerprint c.title) = (x.news k).take x.cap :=
  Reconciler.fingerprints_callsOfAll (r := x.reconciler k) accepts rfl _ _ _

/-- What a run creates is no news to the next one. -/
theorem news_succ (accepts : x.tracker.Accepts) (k : Nat) : x.news (k + 1) = (x.news k).drop x.cap := by
  rw [news, listed_succ, Inventory.news_ofIssues_append, Inventory.unfiled, fingerprints_created accepts]
  exact filter_not_mem_take (Inventory.nodup_news _ _) _

theorem news_add (accepts : x.tracker.Accepts) (k i : Nat) : x.news (k + i) = (x.news k).drop (i * x.cap) := by
  induction i with
  | zero => simp
  | succ i ih => rw [← Nat.add_assoc, news_succ accepts, ih, List.drop_drop, Nat.succ_mul]

theorem news_eq (accepts : x.tracker.Accepts) (k : Nat) : x.news k = (x.news 0).drop (k * x.cap) := by
  rw [← news_add accepts, Nat.zero_add]

theorem mem_news_of_created (accepts : x.tracker.Accepts) {k : Nat} {c : Payload} (hc : c ∈ x.created k) :
    fingerprint c.title ∈ (x.news k).take x.cap := by
  rw [← fingerprints_created accepts]
  exact List.mem_map_of_mem hc

/-- A later run creates other issues. -/
theorem fingerprint_ne_of_lt (accepts : x.tracker.Accepts) {j k : Nat} (hjk : j < k) {a b : Payload}
    (ha : a ∈ x.created j) (hb : b ∈ x.created k) : fingerprint a.title ≠ fingerprint b.title := by
  intro heq
  obtain ⟨i, rfl⟩ := Nat.exists_eq_add_of_lt hjk
  have hb := List.mem_of_mem_take (mem_news_of_created accepts hb)
  rw [Nat.add_assoc, news_add accepts, ← heq] at hb
  have later : x.cap ≤ (i + 1) * x.cap := Nat.le_mul_of_pos_left _ (Nat.succ_pos i)
  exact List.disjoint_take_drop (Inventory.nodup_news _ _) later (mem_news_of_created accepts ha) hb

/-- Which titles are only closed does not change. -/
theorem onlyClosed_listed_iff (accepts : x.tracker.Accepts) (k : Nat) :
    Inventory.OnlyClosed (x.listed k) f ↔ Inventory.OnlyClosed x.issues f := by
  induction k with
  | zero => exact Iff.rfl
  | succ k ih =>
    rw [listed_succ, Inventory.onlyClosed_append_iff, ih]
    intro c hc
    exact (Inventory.mem_news.mp (List.mem_of_mem_take (mem_news_of_created accepts hc))).1

theorem result_cases (accepts : x.tracker.Accepts) (k : Nat) :
    (x.news k).length ≤ x.cap ∧ (∃ ds, x.result k = .ok ds) ∨
      x.cap < (x.news k).length ∧ x.result k = .error ⟨x.cap⟩ :=
  Reconciler.decideAll_cases (r := x.reconciler k) accepts rfl _ _ _

/-- A run without news creates nothing and finds duplicates only. -/
theorem settled (accepts : x.tracker.Accepts) {k : Nat} (none_new : x.news k = []) :
    x.created k = [] ∧ x.result k = .ok (x.hits.map fun h =>
      if Inventory.OnlyClosed x.issues h.fingerprint then .duplicateClosed else .duplicateOpen) := by
  obtain ⟨q, run⟩ := Reconciler.run_of_news_eq_nil (r := x.reconciler k)
    (p := .start (x.stats k) (x.state k)) none_new rfl
  refine ⟨by rw [created, run.callsOfAll, Call.created_nil], ?_⟩
  rw [result, run.decideAll]
  refine congrArg Except.ok (List.map_congr_left fun h _ => ?_)
  simp only [Reconciler.duplicate, reconciler, Inventory.state?_ofIssues_eq_closed_iff,
    onlyClosed_listed_iff accepts]

/-- Repeated runs file each title once and then nothing any more. Run `k`, counted from zero, creates the issues
of the first hits of as many of the news left to it as the cap allows, in order, and it fails iff more are left. No
two runs create one title. As soon as there have been runs enough for all news, no run creates an issue and each
decides all hits: those with titles that were only closed in the beginning are closed duplicates, the others open
ones. Titles are told apart by their fingerprints. -/
theorem runs_settle (x : Reruns σ) (accepts : x.tracker.Accepts) (room : 0 < x.cap) :
    let news := (Inventory.ofIssues x.issues).news x.hits
    (∀ k, (x.created k).map some =
        ((news.drop (k * x.cap)).take x.cap).map (Reconciler.firstPayload? x.tracker x.hits)) ∧
      (∀ k, (x.result k = .error ⟨x.cap⟩ ↔ x.cap < news.length - k * x.cap) ∧
        ((∃ ds, x.result k = .ok ds) ↔ news.length - k * x.cap ≤ x.cap)) ∧
      (∀ j k, j ≠ k → ∀ a ∈ x.created j, ∀ b ∈ x.created k, a.title ≠ b.title) ∧
      (∀ k, news.length ⌈/⌉ x.cap ≤ k → x.created k = [] ∧ x.result k = .ok (x.hits.map fun h =>
        if Inventory.OnlyClosed x.issues h.fingerprint then .duplicateClosed else .duplicateOpen)) ∧
      ∀ h ∈ x.hits, (∀ issue ∈ x.issues, fingerprint issue.title = h.fingerprint → issue.title = h.title) →
        (Inventory.OnlyClosed x.issues h.fingerprint ↔ (∃ issue ∈ x.issues, issue.title = h.title) ∧
          ∀ issue ∈ x.issues, issue.title = h.title → issue.state = .closed) := by
  intro news
  have left : ∀ k, x.news k = news.drop (k * x.cap) := news_eq accepts
  refine ⟨fun k => ?_, fun k => ?_, fun j k hjk a ha b hb heq => ?_, fun k hk => ?_, fun h _ same => ?_⟩
  · rw [← left]
    exact Reconciler.created_callsOfAll (r := x.reconciler k) accepts rfl _ _ _
  · rw [← List.length_drop, ← left]
    rcases result_cases accepts k with ⟨few, ds, ok⟩ | ⟨many, error⟩
    · exact ⟨iff_of_false (by simp [ok]) (Nat.not_lt_of_le few), iff_of_true ⟨ds, ok⟩ few⟩
    · exact ⟨iff_of_true error many, iff_of_false (by simp [error]) (Nat.not_le_of_lt many)⟩
  · rcases Nat.lt_or_gt_of_ne hjk with hlt | hlt
    · exact fingerprint_ne_of_lt accepts hlt ha hb (congrArg fingerprint heq)
    · exact fingerprint_ne_of_lt accepts hlt hb ha (congrArg fingerprint heq.symm)
  · refine settled accepts ?_
    rw [left, List.drop_eq_nil_iff, Nat.mul_comm]
    exact (ceilDiv_le_iff_le_mul room).mp hk
  · have same_iff : ∀ issue ∈ x.issues, fingerprint issue.title = h.fingerprint ↔ issue.title = h.title :=
      fun issue hi => ⟨same issue hi, congrArg fingerprint⟩
    refine and_congr (exists_congr fun issue => and_congr_right fun hi => same_iff issue hi) ?_
    exact forall₂_congr fun issue hi => imp_congr (same_iff issue hi) Iff.rfl

/-- With a cap of one the first run files `a` and stops at `b`, the second files `b`, and all others file nothing,
`c` being closed. -/
theorem runs_settle_after_two_titles :
    let t := Tracker.dryRun Repository.placeholder []
    let x : Reruns (List Payload) :=
      { tracker := t, cap := 1, issues := [⟨['c'], .closed⟩], stats := fun _ => {}, state := fun _ => [],
        hits := [Hit.titled ['a'], Hit.titled ['c'], Hit.titled ['b'], Hit.titled ['a']] }
    t.Accepts ∧ 0 < x.cap ∧ (x.created 0).map some = [some ((Hit.titled ['a']).payload t.repository)] ∧
      x.result 0 = .error ⟨1⟩ ∧ (x.created 1).map some = [some ((Hit.titled ['b']).payload t.repository)] ∧
      (∃ ds, x.result 1 = .ok ds) ∧ ∀ k, 2 ≤ k → x.created k = [] ∧
        x.result k = .ok [.duplicateOpen, .duplicateClosed, .duplicateOpen, .duplicateOpen] := by
  intro t x
  have accepts : t.Accepts := fun _ _ => rfl
  have news : (Inventory.ofIssues x.issues).news x.hits = [fingerprint ['a'], fingerprint ['b']] := by decide +kernel
  obtain ⟨created, results, -, settles, -⟩ := runs_settle x accepts Nat.one_pos
  simp only [news] at created results settles
  have firsts : [fingerprint ['a'], fingerprint ['b']].map (Reconciler.firstPayload? t x.hits) =
      [some ((Hit.titled ['a']).payload t.repository), some ((Hit.titled ['b']).payload t.repository)] := by
    decide +kernel
  obtain ⟨first, second⟩ := List.cons.inj firsts
  refine ⟨accepts, Nat.one_pos, (created 0).trans (congrArg (fun c => [c]) first), (results 0).1.mpr (by decide),
    (created 1).trans second, (results 1).2.mpr (by decide), fun k hk => ?_⟩
  have decisions : (x.hits.map fun h => if Inventory.OnlyClosed x.issues h.fingerprint then
      Decision.duplicateClosed else .duplicateOpen) =
        [.duplicateOpen, .duplicateClosed, .duplicateOpen, .duplicateOpen] := by
    decide +kernel
  rw [← decisions]
  exact settles k ((ceilDiv_le_iff_le_mul Nat.one_pos).mpr (hk.trans (Nat.le_mul_of_pos_left k Nat.one_pos)))

end Reruns
end TodoLedger
