import TodoLedger.Proofs.Http.Requests
import TodoLedger.Proofs.Tracker.Entries

/-! Paging. A listing asks for one page after the other up to the first that is not full, where the pull requests on it
count as well; a page that cannot be read ends it with nothing. -/

namespace TodoLedger.GitHub

variable {σ : Type} {t : Http.Transport σ} {c : Client} {url : Http.Url} {s : σ} {n i k : Nat}
  {answers : Nat → Http.Outcome} {entries : List Listed} {here : List (Option ExistingIssue)} {e : TrackerError}

/-! ### One page -/

/-- The entries of a page by what came of the request for it. -/
def readPage (o : Http.Outcome) : Except TrackerError (List (Option ExistingIssue)) :=
  match settle o with
  | .error e => .error e
  | .ok body =>
    match page? body with
    | none => .error (.network "unexpected content".toList)
    | some here => .ok here

/-- What came of a request is a page that is not the last. -/
def IsFull (o : Http.Outcome) : Prop := ∃ here, readPage o = .ok here ∧ 100 ≤ here.length

/-- The request for the page after so many. -/
def Client.pageAfter (c : Client) (url : Http.Url) (n : Nat) : Http.Request := c.listRequest url (n + 1)

section Steps
variable (address : Http.Url.ofText? c.issuesUrl = some url)
include address

/-- After one page more the listing has failed, or this was the last page, or the pages after it follow. -/
theorem listFrom_succ (n i : Nat) :
    listFrom t c (n + 1) (i + 1) (t.after (c.pageAfter url) s i) =
      let s' := t.after (c.pageAfter url) s (i + 1)
      match readPage (t.answer (c.pageAfter url) s i) with
      | .error e => (.error e, s')
      | .ok here =>
        if here.length < pageSize then (.ok (here.filterMap id), s')
        else ((listFrom t c n (i + 2) s').1.map (here.filterMap id ++ ·), (listFrom t c n (i + 2) s').2) := by
  simp only [listFrom, call, address, readPage, Http.Transport.after, Http.Transport.answer, Client.pageAfter]
  cases settle (t.send (c.listRequest url (i + 1)) (t.after (c.pageAfter url) s i)).1 with
  | error e => rfl
  | ok body =>
    cases paged : page? body with
    | none => simp only [paged]
    | some here => simp only [paged]

theorem listFrom_fails (failed : readPage (t.answer (c.pageAfter url) s i) = .error e) (n : Nat) :
    listFrom t c (n + 1) (i + 1) (t.after (c.pageAfter url) s i) =
      (.error e, t.after (c.pageAfter url) s (i + 1)) := by
  simp only [listFrom_succ address, failed]

theorem listFrom_last (read : readPage (t.answer (c.pageAfter url) s i) = .ok here) (short : here.length < 100)
    (n : Nat) :
    listFrom t c (n + 1) (i + 1) (t.after (c.pageAfter url) s i) =
      (.ok (here.filterMap id), t.after (c.pageAfter url) s (i + 1)) := by
  simp only [listFrom_succ address, read, pageSize, short, if_true]

theorem listFrom_more (read : readPage (t.answer (c.pageAfter url) s i) = .ok here) (full : 100 ≤ here.length)
    (n : Nat) :
    listFrom t c (n + 1) (i + 1) (t.after (c.pageAfter url) s i) =
      let rest := listFrom t c n (i + 2) (t.after (c.pageAfter url) s (i + 1))
      (rest.1.map (here.filterMap id ++ ·), rest.2) := by
  simp only [listFrom_succ address, read, pageSize, Nat.not_lt.mpr full, if_false]

end Steps

/-! ### Pages of a list -/

/-- The answers show entries in pages of a hundred, one page after the other up to the last of those that are read. -/
def Serves (answers : Nat → Http.Outcome) (entries : List Listed) : Prop :=
  ∀ i < 50, 100 * i ≤ entries.length → ∃ r js, answers i = .answered r ∧ r.isSuccess = true ∧
    Json.read? r.content = some (.array js) ∧
    List.Forall₂ Listed.ShownAs ((entries.drop (100 * i)).take 100) js

theorem Serves.readPage (serves : Serves answers entries) (below : i < 50) (reached : 100 * i ≤ entries.length) :
    readPage (answers i) = .ok (((entries.drop (100 * i)).take 100).map Listed.issue?) := by
  obtain ⟨r, js, answered, success, read, shown⟩ := serves i below reached
  have settled : settle (answers i) = .ok r.content := by
    rw [answered, settle, granted, success]
    rfl
  have paged : page? r.content = some (((entries.drop (100 * i)).take 100).map Listed.issue?) := by
    rw [page?, read]
    exact mapM_entry? shown
  simp only [GitHub.readPage, settled, paged]

/-- The answer with a page of a list. -/
def served (entries : List Listed) (i : Nat) : Http.Outcome :=
  .answered ⟨200, [], Json.pretty (.array (((entries.drop (100 * i)).take 100).map Listed.toJson))⟩

theorem serves_served (entries : List Listed) : Serves (served entries) entries := by
  intro i _ _
  have plain : Json.isPlain (.array (((entries.drop (100 * i)).take 100).map Listed.toJson)) = true := by
    rw [Json.isPlain, Json.arePlain_iff, List.forall_mem_map]
    exact fun x _ => x.isPlain_toJson
  refine ⟨_, _, rfl, rfl, Json.read?_pretty plain, ?_⟩
  rw [List.forall₂_map_right_iff]
  exact List.forall₂_same.mpr fun x _ => x.shownAs_toJson

/-- From each page that is reached the listing goes on to the end of what is shown, or of what is read at most. -/
theorem listFrom_serves (address : Http.Url.ofText? c.issuesUrl = some url)
    (serves : Serves (t.answer (c.pageAfter url) s) entries) (left : i + n = 50)
    (reached : 100 * i ≤ entries.length) :
    listFrom t c n (i + 1) (t.after (c.pageAfter url) s i) =
      (.ok (issuesOf ((entries.drop (100 * i)).take (100 * n))),
        t.after (c.pageAfter url) s (min 50 (entries.length / 100 + 1))) := by
  induction n generalizing i with
  | zero =>
    have all : min 50 (entries.length / 100 + 1) = i := by omega
    rw [all]
    rfl
  | succ n ih =>
    have read := serves.readPage (by omega) reached
    have size : ((entries.drop (100 * i)).take 100).length = min 100 (entries.length - 100 * i) := by simp
    -- The page is the last one of the list, or the hundred entries on it come before those of the pages after it.
    rcases Nat.lt_or_ge (entries.length - 100 * i) 100 with short | full
    · have this_one : min 50 (entries.length / 100 + 1) = i + 1 := by omega
      have nothing_after : (entries.drop (100 * i)).take (100 * (n + 1)) = (entries.drop (100 * i)).take 100 := by
        rw [List.take_of_length_le (by simp; omega), List.take_of_length_le (by simp; omega)]
      rw [listFrom_last address read (by rw [List.length_map, size]; omega) n, filterMap_issue?, this_one,
        nothing_after]
    · have after_it : (entries.drop (100 * i)).take (100 * (n + 1)) =
          (entries.drop (100 * i)).take 100 ++ (entries.drop (100 * (i + 1))).take (100 * n) := by
        rw [Nat.mul_add, Nat.add_comm, List.take_add, List.drop_drop, Nat.mul_add]
      rw [listFrom_more address read (by rw [List.length_map, size]; omega) n, filterMap_issue?, after_it,
        issuesOf_append]
      simp only [ih (i := i + 1) (by omega) (by omega)]
      rfl

/-! ### A page that fails -/

/-- The page after `k` full ones fails. -/
def FailsAt (answers : Nat → Http.Outcome) (k : Nat) (e : TrackerError) : Prop :=
  k < 50 ∧ (∀ i < k, IsFull (answers i)) ∧ readPage (answers k) = .error e

theorem listFrom_of_failsAt (address : Http.Url.ofText? c.issuesUrl = some url)
    (fails : FailsAt (t.answer (c.pageAfter url) s) k e) (left : i + n = 50) (reached : i ≤ k) :
    listFrom t c n (i + 1) (t.after (c.pageAfter url) s i) = (.error e, t.after (c.pageAfter url) s (k + 1)) := by
  obtain ⟨below, before, failed⟩ := fails
  induction n generalizing i with
  | zero => omega
  | succ n ih =>
    rcases Nat.eq_or_lt_of_le reached with rfl | earlier
    · exact listFrom_fails address failed n
    · obtain ⟨here, read, full⟩ := before i earlier
      rw [listFrom_more address read full n]
      simp only [ih (i := i + 1) (by omega) earlier]
      rfl

theorem failsAt_of_listFrom (address : Http.Url.ofText? c.issuesUrl = some url) (left : i + n = 50)
    (before : ∀ j < i, IsFull (t.answer (c.pageAfter url) s j))
    (failed : (listFrom t c n (i + 1) (t.after (c.pageAfter url) s i)).1 = .error e) :
    ∃ k, FailsAt (t.answer (c.pageAfter url) s) k e := by
  induction n generalizing i with
  | zero => cases failed
  | succ n ih =>
    cases read : readPage (t.answer (c.pageAfter url) s i) with
    | error e' =>
      rw [listFrom_fails address read n] at failed
      cases failed
      exact ⟨i, by omega, before, read⟩
    | ok here =>
      rcases Nat.lt_or_ge here.length 100 with short | full
      · rw [listFrom_last address read short n] at failed
        cases failed
      · rw [listFrom_more address read full n] at failed
        refine ih (i := i + 1) (by omega) ?_ ?_
        · intro j hj
          rcases Nat.lt_succ_iff_lt_or_eq.mp hj with earlier | rfl
          · exact before j earlier
          · exact ⟨here, read, full⟩
        · cases rest : (listFrom t c n (i + 2) (t.after (c.pageAfter url) s (i + 1))).1 with
          | error e' =>
            simp only [rest] at failed
            cases failed
            rfl
          | ok more =>
            simp only [rest] at failed
            cases failed

/-! ### The whole listing -/

/-- The requests of a listing. -/
def listRequests (t : Http.Transport σ) (c : Client) (s : σ) : List Http.Request :=
  ((tracker t.recording c).list (s, [])).state.2

theorem result_list (t : Http.Transport σ) (c : Client) (s : σ) :
    ((tracker t c).list s).result = (listFrom t c 50 1 s).1 := rfl

theorem listRequests_of_after
    (ends : (listFrom t.recording c 50 1 (s, [])).2 = t.recording.after (c.pageAfter url) (s, []) n) :
    listRequests t c s = (List.range' 1 n).map (c.listRequest url) := by
  have pages : (List.range n).map (c.pageAfter url) = (List.range' 1 n).map (c.listRequest url) := by
    rw [List.range'_eq_map_range, List.map_map]
    refine List.map_congr_left fun i _ => ?_
    rw [Function.comp_apply, Nat.add_comm, Client.pageAfter]
  calc listRequests t c s = (listFrom t.recording c 50 1 (s, [])).2.2 := rfl
    _ = [] ++ (List.range n).map (c.pageAfter url) := by rw [ends, Http.Transport.after_recording]
    _ = (List.range' 1 n).map (c.listRequest url) := by rw [List.nil_append, pages]

section Whole
variable (address : Http.Url.ofText? c.issuesUrl = some url)
include address

theorem list_of_serves (serves : Serves (t.answer (c.pageAfter url) s) entries) :
    listFrom t c 50 1 s =
      (.ok (issuesOf (entries.take 5000)), t.after (c.pageAfter url) s (min 50 (entries.length / 100 + 1))) := by
  have whole := listFrom_serves address serves (Nat.zero_add 50) (Nat.zero_le _)
  rwa [Nat.mul_zero, List.drop_zero] at whole

theorem list_of_failsAt (fails : FailsAt (t.answer (c.pageAfter url) s) k e) :
    listFrom t c 50 1 s = (.error e, t.after (c.pageAfter url) s (k + 1)) :=
  listFrom_of_failsAt address fails (Nat.zero_add 50) (Nat.zero_le k)

theorem exists_failsAt (failed : (listFrom t c 50 1 s).1 = .error e) :
    ∃ k, FailsAt (t.answer (c.pageAfter url) s) k e :=
  failsAt_of_listFrom address (Nat.zero_add 50) (fun j hj => absurd hj (Nat.not_lt_zero j)) failed

end Whole

/-- Of a list that is shown in pages, a listing asks for one page after the other up to the last or the fiftieth, and
tells the issues on them. It fails exactly if a page that it reaches fails, and asks for no page after that. -/
theorem list_pages (t : Http.Transport σ) (s : σ) (address : Http.Url.ofText? c.issuesUrl = some url) :
    let answers := t.answer (c.pageAfter url) s
    (∀ entries, Serves answers entries →
      ((tracker t c).list s).result = .ok (issuesOf (entries.take 5000)) ∧
        listRequests t c s = (List.range' 1 (min 50 (entries.length / 100 + 1))).map (c.listRequest url)) ∧
      (∀ e, ((tracker t c).list s).result = .error e ↔ ∃ k, FailsAt answers k e) ∧
      ∀ k e, FailsAt answers k e → listRequests t c s = (List.range' 1 (k + 1)).map (c.listRequest url) := by
  intro answers
  have recorded : t.recording.answer (c.pageAfter url) (s, []) = answers := t.answer_recording _ s []
  rw [result_list]
  refine ⟨fun entries serves => ⟨?_, ?_⟩, fun e => ⟨exists_failsAt address, ?_⟩, fun k e fails => ?_⟩
  · rw [list_of_serves address serves]
  · rw [← recorded] at serves
    exact listRequests_of_after (by rw [list_of_serves address serves])
  · rintro ⟨k, fails⟩
    rw [list_of_failsAt address fails]
  · rw [← recorded] at fails
    exact listRequests_of_after (by rw [list_of_failsAt address fails])

/-- After a page of pull requests and one of open issues the list ends with a closed one, so there is a third page. When
the second page does not come in time there is no third request, and the first page is not told. -/
theorem list_pages_of_pulls_and_issues :
    let c : Client := ⟨Repository.placeholder, none, {}⟩
    let url : Http.Url :=
      ⟨"https://api.github.com".toList, ["repos".toList, "local".toList, "repository".toList, "issues".toList], none⟩
    let opened : ExistingIssue := ⟨['a'], .isOpen⟩
    let closed : ExistingIssue := ⟨['b'], .closed⟩
    let entries : List Listed :=
      List.replicate 100 ⟨opened, true⟩ ++ List.replicate 100 ⟨opened, false⟩ ++ [⟨closed, false⟩]
    let server := Http.Transport.inOrder (served entries)
    let slow := Http.Transport.inOrder fun i => if i = 0 then served entries i else .timedOut
    Http.Url.ofText? c.issuesUrl = some url ∧ Serves (server.answer (c.pageAfter url) 0) entries ∧
      ((tracker server c).list 0).result = .ok (List.replicate 100 opened ++ [closed]) ∧
      listRequests server c 0 = [1, 2, 3].map (c.listRequest url) ∧
      FailsAt (slow.answer (c.pageAfter url) 0) 1 .timeout ∧
      ((tracker slow c).list 0).result = .error .timeout ∧
      listRequests slow c 0 = [1, 2].map (c.listRequest url) := by
  intro c url opened closed entries server slow
  have address : Http.Url.ofText? c.issuesUrl = some url := by decide +kernel
  have serves : Serves (server.answer (c.pageAfter url) 0) entries := by
    rw [Http.Transport.answer_inOrder]
    exact serves_served entries
  have size : entries.length = 201 := by decide +kernel
  have issues : issuesOf (entries.take 5000) = List.replicate 100 opened ++ [closed] := by decide +kernel
  have fails : FailsAt (slow.answer (c.pageAfter url) 0) 1 .timeout := by
    rw [Http.Transport.answer_inOrder]
    refine ⟨by decide, fun i hi => ?_, rfl⟩
    obtain rfl : i = 0 := by omega
    exact ⟨_, (serves_served entries).readPage (by decide) (Nat.zero_le _), by decide +kernel⟩
  have whole := (list_pages server 0 address).1 entries serves
  have stopped := (list_pages slow 0 address).2
  rw [size, issues] at whole
  clear_value c url entries
  exact ⟨address, serves, whole.1, whole.2, fails, (stopped.1 .timeout).mpr ⟨1, fails⟩, stopped.2 1 .timeout fails⟩

end TodoLedger.GitHub
