import TodoLedger.Proofs.Inventory.News
import TodoLedger.Proofs.Reconciler.Cap
import TodoLedger.Tracker.DryRun

/-! Filing with a tracker that accepts every issue. A run files the news of its hits in order until the cap is
reached, and it stops at the first hit of the next one. -/

namespace TodoLedger.Reconciler

variable {σ : Type} {r : Reconciler σ} {t : Tracker σ} {p q : Progress σ} {h : Hit} {hits : List Hit}
  {calls : List Call} {outcome : Except CapExceeded Decision} {outcomes : List (Except CapExceeded Decision)}
  {ds : List Decision} {f : Text}

/-- The issue that is filed for a title: that of its first hit. -/
def firstPayload? (t : Tracker σ) (hits : List Hit) (f : Text) : Option Payload :=
  (firstHit? f hits).map fun h => h.payload t.repository

theorem firstPayload?_cons_self : firstPayload? t (h :: hits) h.fingerprint = some (h.payload t.repository) := by
  rw [firstPayload?, firstHit?_cons_self, Option.map_some]

theorem map_firstPayload?_cons {fs : List Text} (hh : h.fingerprint ∉ fs) :
    fs.map (firstPayload? t (h :: hits)) = fs.map (firstPayload? t hits) := by
  refine List.map_congr_left fun f hf => ?_
  have hne : h.fingerprint ≠ f := fun heq => hh (heq ▸ hf)
  rw [firstPayload?, firstPayload?, firstHit?_cons_of_ne hne]

/-- With an accepting tracker a decided hit is either known and nothing is done, or new and filed. -/
theorem Decides.of_accepts (accepts : t.Accepts) (tracked : r.tracker = some t) {d : Decision}
    (decides : Decides r p h calls (.ok d) q) :
    r.classify p h ≠ .new ∧ calls = [] ∧ q.filed = p.filed ∨
      r.classify p h = .new ∧ calls = [⟨h.payload t.repository, .ok ()⟩] ∧
        q.filed = p.filed ++ [h.fingerprint] := by
  cases decides with
  | duplicateOpen known => exact Or.inl ⟨by simp [known], rfl, rfl⟩
  | duplicateClosed known => exact Or.inl ⟨by simp [known], rfl, rfl⟩
  | skipped _ _ untracked => simp [untracked] at tracked
  | filed new _ tracked' _ =>
    rw [tracked] at tracked'
    cases tracked'
    exact Or.inr ⟨new, rfl, rfl⟩
  | filingFailed _ _ tracked' refused =>
    rw [tracked] at tracked'
    cases tracked'
    simp [accepts _ _] at refused

/-- A decided list of hits has all its news filed, each with the issue of its first hit. -/
theorem Run.of_accepts (accepts : t.Accepts) (tracked : r.tracker = some t)
    (run : Run r p hits calls outcomes q) (decided : ∀ o ∈ outcomes, ∃ d, o = .ok d) :
    q.filed = p.filed ++ r.inventory.unfiled p.filed hits ∧
      (Call.created calls).map some = (r.inventory.unfiled p.filed hits).map (firstPayload? t hits) := by
  induction run with
  | nil => simp
  | @cons p q u h hits calls later outcome outcomes first rest ih =>
    obtain ⟨⟨d, rfl⟩, decided'⟩ := List.forall_mem_cons.mp decided
    obtain ⟨filed, created⟩ := ih decided'
    rcases first.of_accepts accepts tracked with ⟨known, rfl, heq⟩ | ⟨new, rfl, heq⟩
    · rw [heq] at filed created
      have known := classify_ne_new_iff.mp known
      have hh : h.fingerprint ∉ r.inventory.unfiled p.filed hits := fun hh => by
        obtain ⟨⟨absent, -⟩, fresh⟩ := Inventory.mem_unfiled.mp hh
        exact known.elim fresh fun known => known absent
      rw [Inventory.unfiled_cons_of_known known, map_firstPayload?_cons hh]
      exact ⟨filed, created⟩
    · rw [heq] at filed created
      obtain ⟨fresh, absent⟩ := classify_eq_new_iff.mp new
      have hh : h.fingerprint ∉ r.inventory.unfiled (p.filed ++ [h.fingerprint]) hits := fun hh =>
        (Inventory.mem_unfiled.mp hh).2 (List.mem_append_right _ (List.mem_singleton_self _))
      rw [Inventory.unfiled_cons_of_new fresh absent, List.map_cons, map_firstPayload?_cons hh,
        firstPayload?_cons_self, Call.created_append, List.map_append, created, filed, List.append_assoc]
      exact ⟨rfl, rfl⟩

/-! ### Runs from the start -/

section Start
variable {stats : RunStats} {s : σ}

theorem Run.news_of_accepts (accepts : t.Accepts) (tracked : r.tracker = some t)
    (run : Run r (.start stats s) hits calls (ds.map .ok) q) :
    q.filed = r.inventory.news hits ∧
      (Call.created calls).map some = (r.inventory.news hits).map (firstPayload? t hits) := by
  simpa [Progress.start] using run.of_accepts accepts tracked (by simp)

/-- A run that stops has filed as many of the news as the cap allows, and the next one is that of the hit at
which it stops. -/
theorem Stops.news_of_accepts (accepts : t.Accepts) (tracked : r.tracker = some t) {done : List Hit}
    (stops : Stops r (.start stats s) done h calls ds q) (later : List Hit) :
    q.filed.length = r.cap ∧ (∃ rest, r.inventory.news (done ++ h :: later) = q.filed ++ h.fingerprint :: rest) ∧
      (Call.created calls).map some = q.filed.map (firstPayload? t (done ++ h :: later)) := by
  obtain ⟨filed, created⟩ := stops.run.news_of_accepts accepts tracked
  obtain ⟨fresh, absent⟩ := classify_eq_new_iff.mp stops.new
  have news : r.inventory.news (done ++ h :: later) =
      q.filed ++ h.fingerprint :: r.inventory.unfiled (q.filed ++ [h.fingerprint]) later := by
    rw [← Inventory.unfiled_nil_left, Inventory.unfiled_append, Inventory.unfiled_nil_left, List.nil_append,
      ← filed, Inventory.unfiled_cons_of_new fresh absent]
  refine ⟨Nat.le_antisymm ((sound_start r stats s).run stops.run).within stops.full, ⟨_, news⟩, ?_⟩
  rw [created, filed]
  refine List.map_congr_left fun f hf => ?_
  obtain ⟨-, b, hb, heq⟩ := Inventory.mem_news.mp hf
  rw [firstPayload?, firstPayload?, firstHit?_append_of_mem hb heq]

/-- The created issues are those of the first hits of the first news, as many as the cap allows. -/
theorem created_callsOfAll (accepts : t.Accepts) (tracked : r.tracker = some t) (stats : RunStats) (s : σ)
    (hits : List Hit) :
    (Call.created (r.callsOfAll (.start stats s) hits)).map some =
      ((r.inventory.news hits).take r.cap).map (firstPayload? t hits) := by
  rcases exists_run_or_stops r (.start stats s) hits with
    ⟨calls, ds, q, run⟩ | ⟨done, h, later, calls, ds, q, rfl, stops⟩
  · obtain ⟨filed, created⟩ := run.news_of_accepts accepts tracked
    have within := ((sound_start r stats s).run run).within
    rw [run.callsOfAll, created, List.take_of_length_le (filed ▸ within)]
  · obtain ⟨length, ⟨rest, news⟩, created⟩ := stops.news_of_accepts accepts tracked later
    rw [stops.callsOfAll, created, news, ← length, List.take_left]

theorem fingerprints_callsOfAll (accepts : t.Accepts) (tracked : r.tracker = some t) (stats : RunStats) (s : σ)
    (hits : List Hit) :
    (Call.created (r.callsOfAll (.start stats s) hits)).map (fun c => fingerprint c.title) =
      (r.inventory.news hits).take r.cap := by
  rcases exists_run_or_stops r (.start stats s) hits with
    ⟨calls, ds, q, run⟩ | ⟨done, h, later, calls, ds, q, rfl, stops⟩
  · have within := ((sound_start r stats s).run run).within
    rw [(run.news_of_accepts accepts tracked).1] at within
    rw [run.callsOfAll, List.take_of_length_le within, ← (run.news_of_accepts accepts tracked).1]
    exact run.filed_eq.symm
  · obtain ⟨length, ⟨rest, news⟩, -⟩ := stops.news_of_accepts accepts tracked later
    rw [stops.callsOfAll, news, ← length, List.take_left]
    exact stops.run.filed_eq.symm

/-- All hits are decided if there are no more news than the cap allows. -/
theorem run_of_news_le (accepts : t.Accepts) (tracked : r.tracker = some t) (stats : RunStats) (s : σ)
    (room : (r.inventory.news hits).length ≤ r.cap) :
    ∃ (calls : List Call) (ds : List Decision) (q : Progress σ),
      Run r (.start stats s) hits calls (ds.map .ok) q := by
  rcases exists_run_or_stops r (.start stats s) hits with run | ⟨done, h, later, calls, ds, q, rfl, stops⟩
  · exact run
  · obtain ⟨length, ⟨rest, news⟩, -⟩ := stops.news_of_accepts accepts tracked later
    rw [news, List.length_append, List.length_cons] at room
    omega

/-- A run stops at the first hit of the first of the news for which there is no room. -/
theorem stops_of_lt_news (accepts : t.Accepts) (tracked : r.tracker = some t) (stats : RunStats) (s : σ)
    (full : r.cap < (r.inventory.news hits).length) :
    ∃ done h later calls ds q, hits = done ++ h :: later ∧ Stops r (.start stats s) done h calls ds q ∧
      h.fingerprint = (r.inventory.news hits)[r.cap] ∧ ∀ b ∈ done, b.fingerprint ≠ h.fingerprint := by
  rcases exists_run_or_stops r (.start stats s) hits with
    ⟨calls, ds, q, run⟩ | ⟨done, h, later, calls, ds, q, rfl, stops⟩
  · obtain ⟨filed, -⟩ := run.news_of_accepts accepts tracked
    have within := ((sound_start r stats s).run run).within
    rw [filed] at within
    omega
  · obtain ⟨length, ⟨rest, news⟩, -⟩ := stops.news_of_accepts accepts tracked later
    obtain ⟨fresh, absent⟩ := classify_eq_new_iff.mp stops.new
    refine ⟨done, h, later, calls, ds, q, rfl, stops, ?_, fun b hb heq => ?_⟩
    · simp [news, ← length]
    · rw [(stops.run.news_of_accepts accepts tracked).1] at fresh
      exact fresh (Inventory.mem_news.mpr ⟨absent, b, hb, heq⟩)

theorem decideAll_cases (accepts : t.Accepts) (tracked : r.tracker = some t) (stats : RunStats) (s : σ)
    (hits : List Hit) :
    (r.inventory.news hits).length ≤ r.cap ∧ (∃ ds, (r.decideAll (.start stats s) hits).value.1 = .ok ds) ∨
      r.cap < (r.inventory.news hits).length ∧
        (r.decideAll (.start stats s) hits).value.1 = .error ⟨r.cap⟩ := by
  rcases Nat.lt_or_ge r.cap (r.inventory.news hits).length with full | room
  · obtain ⟨_, _, later, _, _, _, rfl, stops, -⟩ := stops_of_lt_news accepts tracked stats s full
    exact Or.inr ⟨full, by rw [stops.decideAll later]⟩
  · obtain ⟨_, ds, _, run⟩ := run_of_news_le accepts tracked stats s room
    exact Or.inl ⟨room, ds, by rw [run.decideAll]⟩

/-! ### The order of the hits -/

/-- The created titles are those of the first hits of the news. -/
theorem mem_created_titles (accepts : t.Accepts) (tracked : r.tracker = some t) (stats : RunStats) (s : σ)
    (room : (r.inventory.news hits).length ≤ r.cap) {title : Text} :
    title ∈ (Call.created (r.callsOfAll (.start stats s) hits)).map (·.title) ↔
      ∃ h, firstHit? h.fingerprint hits = some h ∧ r.inventory.state? h.fingerprint = none ∧ h.title = title := by
  have created := created_callsOfAll accepts tracked stats s hits
  rw [List.take_of_length_le room] at created
  constructor
  · intro ht
    obtain ⟨c, hc, rfl⟩ := List.mem_map.mp ht
    have hc := List.mem_map_of_mem (f := some) hc
    rw [created] at hc
    obtain ⟨f, hf, hc⟩ := List.mem_map.mp hc
    obtain ⟨h, hh, rfl⟩ := Option.map_eq_some_iff.mp hc
    obtain ⟨-, rfl⟩ := fingerprint_of_firstHit? hh
    exact ⟨h, hh, (Inventory.mem_news.mp hf).1, rfl⟩
  · rintro ⟨h, hh, absent, rfl⟩
    have hf := Inventory.mem_news.mpr ⟨absent, h, (fingerprint_of_firstHit? hh).1, rfl⟩
    have hc := List.mem_map_of_mem (f := firstPayload? t hits) hf
    rw [← created, firstPayload?, hh, Option.map_some] at hc
    obtain ⟨c, hc, heq⟩ := List.mem_map.mp hc
    rw [Option.some.inj heq] at hc
    exact List.mem_map.mpr ⟨_, hc, rfl⟩

/-- If no two new titles have one fingerprint, then all of them are created. -/
theorem mem_created_titles_of_separates (accepts : t.Accepts) (tracked : r.tracker = some t) (stats : RunStats)
    (s : σ) (room : (r.inventory.news hits).length ≤ r.cap) (separates : r.inventory.Separates hits) {title : Text} :
    title ∈ (Call.created (r.callsOfAll (.start stats s) hits)).map (·.title) ↔
      ∃ h ∈ hits, r.inventory.state? h.fingerprint = none ∧ h.title = title := by
  rw [mem_created_titles accepts tracked stats s room]
  constructor
  · rintro ⟨h, hh, absent, rfl⟩
    exact ⟨h, (fingerprint_of_firstHit? hh).1, absent, rfl⟩
  · rintro ⟨h, hh, absent, rfl⟩
    obtain ⟨b, hb⟩ := exists_firstHit? hh
    obtain ⟨hb', heq⟩ := fingerprint_of_firstHit? hb
    refine ⟨b, heq ▸ hb, heq ▸ absent, ?_⟩
    exact (separates h hh b hb' absent heq.symm).symm

/-- Of two hits of one title the first to come is the one that is filed; so an order for each of them files it. -/
theorem created_titles_of_perm (accepts : t.Accepts) (tracked : r.tracker = some t) (stats : RunStats) (s : σ)
    (room : (r.inventory.news hits).length ≤ r.cap) :
    (∀ hits', hits'.Perm hits → ∀ title,
      title ∈ (Call.created (r.callsOfAll (.start stats s) hits')).map (·.title) ↔
        title ∈ (Call.created (r.callsOfAll (.start stats s) hits)).map (·.title)) ↔ r.inventory.Separates hits := by
  have room' : ∀ {hits'}, hits'.Perm hits → (r.inventory.news hits').length ≤ r.cap := fun perm =>
    (Inventory.news_perm perm).length_eq ▸ room
  constructor
  · intro same
    -- A hit that is moved to the front has its title filed in that order, so in all orders.
    have filed : ∀ h ∈ hits, r.inventory.state? h.fingerprint = none →
        ∃ b, firstHit? b.fingerprint hits = some b ∧ b.title = h.title := by
      intro h hh absent
      have perm := (List.perm_cons_erase hh).symm
      have front := (mem_created_titles accepts tracked stats s (room' perm)).mpr
        ⟨h, firstHit?_cons_self, absent, rfl⟩
      obtain ⟨b, hb, -, heq⟩ := (mem_created_titles accepts tracked stats s room).mp ((same _ perm _).mp front)
      exact ⟨b, hb, heq⟩
    intro a ha b hb absent heq
    obtain ⟨a', ha', hta⟩ := filed a ha absent
    obtain ⟨b', hb', htb⟩ := filed b hb (heq ▸ absent)
    have hf : a'.fingerprint = b'.fingerprint := by
      rw [Hit.fingerprint, Hit.fingerprint, hta, htb]
      exact heq
    rw [hf, hb'] at ha'
    rw [← hta, ← htb, Option.some.inj ha']
  · intro separates hits' perm title
    rw [mem_created_titles_of_separates accepts tracked stats s (room' perm) (separates.perm perm),
      mem_created_titles_of_separates accepts tracked stats s room separates]
    simp only [perm.mem_iff]

/-- With a tracker that accepts every issue a run decides all hits if it has no more news than the cap allows, and
it creates the issues of the first hits of as many news as there is room for, in order. Otherwise it stops at the
first hit of the next one, all hits before it being decided. If there is room for all news, then their
fingerprints are filed in whatever order the hits come; so are their titles, unless two of them have one
fingerprint and cannot be told apart. -/
theorem decideAll_files_first_news (accepts : t.Accepts) (inventory : Inventory) (cap : Nat) (stats : RunStats)
    (s : σ) (hits : List Hit) :
    let r : Reconciler σ := ⟨some t, inventory, cap⟩
    let start : Progress σ := .start stats s
    let news := inventory.news hits
    let created := fun hits => Call.created (r.callsOfAll start hits)
    ((∃ ds, (r.decideAll start hits).value.1 = .ok ds) ↔ news.length ≤ cap) ∧
      (created hits).map some = (news.take cap).map (firstPayload? t hits) ∧
      (∀ full : cap < news.length, ∃ done h later ds q, hits = done ++ h :: later ∧
        h.fingerprint = news[cap] ∧ (∀ b ∈ done, b.fingerprint ≠ news[cap]) ∧
        (r.decideAll start done).value = (.ok ds, q) ∧ (r.step q h).value = (.error ⟨cap⟩, q) ∧
        (r.decideAll start hits).value = (.error ⟨cap⟩, q)) ∧
      (news.length ≤ cap →
        (∀ hits', hits'.Perm hits → ∀ f,
          f ∈ (created hits').map (fun c => fingerprint c.title) ↔
            f ∈ (created hits).map (fun c => fingerprint c.title)) ∧
        ((∀ hits', hits'.Perm hits → ∀ title,
          title ∈ (created hits').map (·.title) ↔ title ∈ (created hits).map (·.title)) ↔
            inventory.Separates hits)) := by
  intro r start news created
  have stop : ∀ full : cap < news.length, ∃ done h later ds q, hits = done ++ h :: later ∧
      h.fingerprint = news[cap] ∧ (∀ b ∈ done, b.fingerprint ≠ news[cap]) ∧
      (r.decideAll start done).value = (.ok ds, q) ∧ (r.step q h).value = (.error ⟨cap⟩, q) ∧
      (r.decideAll start hits).value = (.error ⟨cap⟩, q) := by
    intro full
    obtain ⟨done, h, later, calls, ds, q, rfl, stops, hf, first⟩ :=
      stops_of_lt_news (r := r) accepts rfl stats s full
    exact ⟨done, h, later, ds, q, rfl, hf, fun b hb => hf ▸ first b hb, stops.run.decideAll,
      (Decides.capExceeded stops.new stops.full).step, stops.decideAll later⟩
  refine ⟨?_, created_callsOfAll accepts rfl stats s hits, stop, fun room => ⟨?_, ?_⟩⟩
  · rcases decideAll_cases (r := r) accepts rfl stats s hits with ⟨room, ok⟩ | ⟨full, failed⟩
    · exact iff_of_true ok room
    · exact iff_of_false (by simp [start, failed]) (Nat.not_le_of_lt full)
  · intro hits' perm f
    have perm : (inventory.news hits').Perm (inventory.news hits) := Inventory.news_perm perm
    have room' : (inventory.news hits').length ≤ cap := perm.length_eq ▸ room
    have fingerprints := fingerprints_callsOfAll (r := r) accepts rfl stats s
    rw [fingerprints hits', fingerprints hits, List.take_of_length_le room', List.take_of_length_le room]
    exact perm.mem_iff
  · exact created_titles_of_perm (r := r) accepts rfl stats s room

/-- Two issues are filed for the titles `a` and `b`, and the run stops at `c` with the second hit of `a` decided. -/
theorem decideAll_stops_at_third_title :
    let t := Tracker.dryRun Repository.placeholder []
    let hits := [Hit.titled ['a'], Hit.titled ['b'], Hit.titled ['a'], Hit.titled ['c'], Hit.titled ['d']]
    t.Accepts ∧ (¬∃ ds, (decideAll ⟨some t, Inventory.empty, 2⟩ (.start {} []) hits).value.1 = .ok ds) ∧
      (Call.created (callsOfAll ⟨some t, Inventory.empty, 2⟩ (.start {} []) hits)).map some =
        [some ((Hit.titled ['a']).payload t.repository), some ((Hit.titled ['b']).payload t.repository)] ∧
      ∃ done h later ds q, hits = done ++ h :: later ∧ h.fingerprint = fingerprint ['c'] ∧
        (decideAll ⟨some t, Inventory.empty, 2⟩ (.start {} []) done).value = (.ok ds, q) ∧
        (decideAll ⟨some t, Inventory.empty, 2⟩ (.start {} []) hits).value = (.error ⟨2⟩, q) := by
  intro t hits
  have accepts : t.Accepts := fun _ _ => rfl
  have news : Inventory.empty.news hits =
      [fingerprint ['a'], fingerprint ['b'], fingerprint ['c'], fingerprint ['d']] := by decide +kernel
  obtain ⟨ok, created, stop, -⟩ := decideAll_files_first_news accepts Inventory.empty 2 {} [] hits
  simp only [news] at ok created stop
  have firsts : [fingerprint ['a'], fingerprint ['b']].map (firstPayload? t hits) =
      [some ((Hit.titled ['a']).payload t.repository), some ((Hit.titled ['b']).payload t.repository)] := by
    decide +kernel
  refine ⟨accepts, fun h => ?_, created.trans firsts, ?_⟩
  · have := ok.mp h
    simp at this
  · obtain ⟨done, h, later, ds, q, split, hf, -, run, -, failed⟩ := stop (by simp)
    exact ⟨done, h, later, ds, q, split, hf, run, failed⟩

end Start

end TodoLedger.Reconciler
