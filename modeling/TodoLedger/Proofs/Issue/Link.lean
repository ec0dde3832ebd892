import Mathlib.Data.List.TakeWhile
import TodoLedger.Issue
import TodoLedger.Proofs.Text.Cut
import TodoLedger.Proofs.Text.Lines
import TodoLedger.Scan

/-! The link at the end of an issue. It holds the address of the hit's file as it stands, so a reader who takes the value of
the attribute and cuts the query and the fragment off comes to the file unless a character of the address ends it
earlier or ends the line. -/

namespace TodoLedger

namespace Text

variable {part t rest value : Text} {c : Char}

/-- The text behind the first place where `part` stands. -/
def behind? (part : Text) : Text → Option Text
  | [] => part.isPrefixOf? []
  | c :: r => (part.isPrefixOf? (c :: r)).or (behind? part r)

theorem behind?_suffix (found : behind? part t = some rest) : rest <:+ t := by
  have suffix : ∀ {u : Text}, part.isPrefixOf? u = some rest → rest <:+ u := fun first =>
    ⟨part, List.isPrefixOf?_eq_some_iff_append_eq.mp first⟩
  induction t with
  | nil => exact suffix found
  | cons c r ih =>
    rw [behind?, Option.or_eq_some_iff] at found
    obtain here | ⟨-, later⟩ := found
    · exact suffix here
    · exact (ih later).trans (List.suffix_cons c r)

theorem getLast?_lines_append (front : Text) (whole : '\n' ∉ t) (some_text : t ≠ []) :
    (lines (front ++ '\n' :: t)).getLast? = some t := by
  rw [lines_append_newline, lines_of_whole whole some_text, List.getLast?_concat]

end Text

namespace Payload

variable {p : Payload} {address : Text}

/-- Where the link of an issue leads: in the last line of the body, the value of the attribute up to the quote that closes
it, without query and fragment. -/
def link? (p : Payload) : Option Text := do
  let line ← (Text.lines p.body).getLast?
  let rest ← Text.behind? "href=\"".toList line
  let (value, _) ← Text.cut? '"' rest
  some (value.takeWhile fun c => !(c == '?' || c == '#'))

/-- A character that ends the address in a link. -/
def endsAddress (c : Char) : Bool := c == '"' || c == '?' || c == '#'

/-- No character of a text ends the address in a link or the line of the link. -/
def Unbroken (t : Text) : Prop := ∀ c ∈ t, endsAddress c = false ∧ c ≠ '\n'

instance (t : Text) : Decidable (Unbroken t) := List.decidableBAll _ t

theorem unbroken_append {t u : Text} : Unbroken (t ++ u) ↔ Unbroken t ∧ Unbroken u := List.forall_mem_append

/-- A link leads to no address that spans lines. -/
theorem newline_notMem_link (leads : p.link? = some address) : '\n' ∉ address := by
  intro feed
  obtain ⟨line, last, leads⟩ := Option.bind_eq_some_iff.mp leads
  obtain ⟨rest, behind, leads⟩ := Option.bind_eq_some_iff.mp leads
  obtain ⟨⟨value, tail⟩, cut, leads⟩ := Option.bind_eq_some_iff.mp leads
  obtain ⟨split, -⟩ := Text.cut?_eq_some_iff.mp cut
  obtain rfl := Option.some.inj leads
  have inside : '\n' ∈ rest := split ▸ List.mem_append_left _ ((List.takeWhile_prefix _).subset feed)
  exact Text.newline_notMem_of_mem_lines (List.mem_of_getLast? last) ((Text.behind?_suffix behind).subset inside)

end Payload

namespace Hit

variable {h : Hit} {r : Repository}

/-- The body of an issue ends in a line of its own for the link. -/
theorem exists_body_eq (h : Hit) (r : Repository) : ∃ front, (h.payload r).body =
    front ++ '\n' :: ("Reference: <a href=\"".toList ++ (r.fileUrl h.file ++ '"' :: ('>' :: h.file ++ "</a>".toList))) := by
  refine ⟨"## ".toList ++ sanitizeMentions h.heading ++ "\n\n".toList ++ h.numberedContext ++ ['\n'], ?_⟩
  have ending : "\n\nReference: <a href=\"".toList = ['\n'] ++ '\n' :: "Reference: <a href=\"".toList := rfl
  rw [payload, ending]
  simp only [List.append_assoc, List.cons_append, List.nil_append]
  rfl

theorem link?_payload (one_line : '\n' ∉ r.fileUrl h.file) :
    (h.payload r).link? = some ((r.fileUrl h.file).takeWhile fun c => !Payload.endsAddress c) := by
  obtain ⟨front, body⟩ := h.exists_body_eq r
  have file : '\n' ∉ h.file := fun mem => one_line (List.mem_append_right _ mem)
  have whole : '\n' ∉ "Reference: <a href=\"".toList ++ (r.fileUrl h.file ++ '"' :: ('>' :: h.file ++ "</a>".toList)) := by
    simp [one_line, file]
  have last := Text.getLast?_lines_append front whole (List.cons_ne_nil _ _)
  have opened : Text.behind? "href=\"".toList ("Reference: <a href=\"".toList ++
      (r.fileUrl h.file ++ '"' :: ('>' :: h.file ++ "</a>".toList))) =
      some (r.fileUrl h.file ++ '"' :: ('>' :: h.file ++ "</a>".toList)) := rfl
  obtain ⟨⟨value, tail⟩, cut, first⟩ := Option.map_eq_some_iff.mp
    (Text.cut?_append_cons '"' (r.fileUrl h.file) ('>' :: h.file ++ "</a>".toList))
  obtain rfl : value = _ := first
  simp only [Payload.link?, body, last, Option.bind_eq_bind, Option.bind_some, opened, cut, List.takeWhile_takeWhile]
  refine congrArg (fun p => some ((r.fileUrl h.file).takeWhile p)) (funext fun c => ?_)
  cases quote : c == '"' <;> cases query : c == '?' <;> cases fragment : c == '#' <;>
    simp [Payload.endsAddress, quote, query, fragment]

theorem fileUrl_eq (r : Repository) (file : Text) : r.fileUrl file =
    r.server ++ ['/'] ++ r.owner ++ ['/'] ++ r.name ++ "/blob/".toList ++ r.gitRef ++ ['/'] ++ file := by
  simp only [Repository.fileUrl, Repository.url, Repository.slug, List.append_assoc]

/-- The link of an issue leads to the address of the hit's file at the server, the repository and the ref if and only if no
part of the address holds a quote, a mark of a query or a fragment, or a line feed. As long as the address is in one line,
the link leads to what stands before the first of these. -/
theorem link_of_payload (h : Hit) (r : Repository) :
    let address := r.server ++ ['/'] ++ r.owner ++ ['/'] ++ r.name ++ "/blob/".toList ++ r.gitRef ++ ['/'] ++ h.file
    ((h.payload r).link? = some address ↔
      ∀ part ∈ [r.server, r.owner, r.name, r.gitRef, h.file], Payload.Unbroken part) ∧
    ('\n' ∉ address → (h.payload r).link? = some (address.takeWhile fun c => !Payload.endsAddress c)) := by
  intro address
  have same : r.fileUrl h.file = address := fileUrl_eq r h.file
  -- what stands between the parts ends no address
  have slash : Payload.Unbroken ['/'] := by decide
  have blob : Payload.Unbroken "/blob/".toList := by decide
  have parts : (∀ part ∈ [r.server, r.owner, r.name, r.gitRef, h.file], Payload.Unbroken part) ↔
      Payload.Unbroken address := by
    simp only [address, Payload.unbroken_append, slash, blob, List.forall_mem_cons, List.not_mem_nil, false_imp_iff,
      implies_true, and_true, and_assoc]
  rw [parts]
  refine ⟨⟨fun leads c mem => ?_, fun unbroken => ?_⟩, fun one_line => ?_⟩
  · have one_line : '\n' ∉ address := Payload.newline_notMem_link leads
    have whole := (link?_payload (same ▸ one_line)).symm.trans leads
    rw [same, Option.some.injEq, List.takeWhile_eq_self_iff] at whole
    exact ⟨by simpa using whole c mem, fun feed => one_line (feed ▸ mem)⟩
  · have one_line : '\n' ∉ address := fun feed => (unbroken '\n' feed).2 rfl
    rw [link?_payload (same ▸ one_line), same, Option.some.injEq, List.takeWhile_eq_self_iff]
    exact fun c mem => by simp [(unbroken c mem).1]
  · rw [link?_payload (same ▸ one_line), same]

/-- The link for a file with a `#` in its name leads to a file whose name ends before it. -/
theorem link_of_cut_name :
    let env : Environment := fun name =>
      [("GITHUB_REPOSITORY".toList, "acme/widgets".toList), ("GITHUB_REF_NAME".toList, "main".toList)].lookup name
    ∃ r, Repository.ofEnvironment env = .ok r ∧
      ∃ h ∈ (Scanner.new 8 Scanner.defaultFlag).hits "a#b.py".toList "py".toList "# TODO x".toList,
        (h.payload r).link? = some "https://github.com/acme/widgets/blob/main/a".toList ∧
        (h.payload r).link? ≠ some
          (r.server ++ ['/'] ++ r.owner ++ ['/'] ++ r.name ++ "/blob/".toList ++ r.gitRef ++ ['/'] ++ h.file) := by
  intro env
  refine ⟨Repository.onDefaultServer "acme".toList "widgets".toList "main".toList, by rfl, ?_⟩
  decide +kernel

end Hit
end TodoLedger
