import ProbeReport.Proofs.Http.Conclusion
import ProbeReport.Proofs.Http.Redirects
import ProbeReport.Proofs.Json.Nesting
import ProbeReport.Proofs.Text.Digit
import ProbeReport.Proofs.Text.Split

-- What a successful answer can put into the report, line by line.
namespace ProbeReport

namespace Json

open Text

-- Each line but the first is laid out by what stands before it.
theorem lays_of_goes {n : Nesting} {t first : List Char} {more : List (List Char)}
    (h : n.Goes t) (hs : splitAt '\n' t = first :: more) {before after : List (List Char)}
    {line : List Char} (hm : more = before ++ line :: after) :
    (n.behind (unlines (first :: before))).Lays line := by
  induction t generalizing n first more before with
  | nil =>
      cases hs
      cases before <;> cases hm
  | cons c t ih =>
      obtain ⟨hline, hrest⟩ := h
      obtain ⟨later, hl⟩ := exists_splitAt '\n' t
      by_cases hc : c = '\n'
      · have hlays := hline hc
        rw [hc, splitAt_cons_self, List.cons.injEq] at hs
        obtain ⟨rfl, rfl⟩ := hs
        -- a line only ends outside of strings
        have hstep := step_newline hlays.spot
        rw [hc, hstep] at hrest
        rw [unlines_cons, List.nil_append, behind_cons, hstep]
        rw [hl] at hm
        cases before with
        | nil =>
            cases hm
            exact hlays
        | cons next before =>
            rw [List.cons_append, List.cons.injEq] at hm
            obtain ⟨rfl, hm⟩ := hm
            exact ih hrest hl hm
      · rw [splitAt_cons_of_ne hc hl, List.cons.injEq] at hs
        obtain ⟨rfl, rfl⟩ := hs
        have hbehind := ih hrest hl hm
        rw [unlines_cons] at hbehind ⊢
        rw [List.cons_append, behind_cons]
        exact hbehind

-- A line that is laid out in a document begins with a blank or with a bracket that closes.
theorem Nesting.Lays.head {n : Nesting} {line : List Char} (h : n.Lays line) :
    ∃ c rest, line = c :: rest ∧ (c = ' ' ∨ IsClosing c) := by
  have hblanks {count : Nat} (hc : 0 < count) (t : List Char) :
      List.replicate count ' ' ++ t = ' ' :: (List.replicate (count - 1) ' ' ++ t) := by
    obtain ⟨count, rfl⟩ := Nat.exists_eq_succ_of_ne_zero (Nat.ne_of_gt hc)
    rfl
  cases h with
  | item _ hl _ _ => exact ⟨' ', _, hblanks (by omega) _, .inl rfl⟩
  | @closing level c rest _ _ hc _ =>
      by_cases hl : level = 0
      · subst hl
        exact ⟨c, rest, rfl, .inr hc⟩
      · exact ⟨' ', _, hblanks (by omega) _, .inl rfl⟩

end Json

namespace Report

open Json Text

-- A line that cannot pass for another part of the report: it is not empty, it begins no section,
-- and nothing in it steers a terminal.
structure IsPlain (line : List Char) : Prop where
  nonempty : line ≠ []
  noHead : ¬"===".toList <+: line
  visible : ∀ c ∈ line, 0x20 ≤ c.toNat

section Plain

variable {line rest : List Char} {c : Char}

theorem isPlain_cons (hc : c ≠ '=') (hv : ∀ d ∈ c :: rest, 0x20 ≤ d.toNat) :
    IsPlain (c :: rest) where
  nonempty := List.cons_ne_nil c rest
  noHead hp := hc (List.cons_prefix_cons.1 hp).1.symm
  visible := hv

theorem isPlain_length (count : Nat) :
    IsPlain ("HTML Response length: " ++ toString count ++ " chars").toList := by
  have hcount : ∀ c ∈ (toString count).toList, 0x20 ≤ c.toNat := fun c hc =>
    Nat.le_trans (by decide) (Char.isDigit_iff_toNat.1 (isDigit_of_mem_toString hc)).1
  have hall : ∀ c ∈ ("HTML Response length: " ++ toString count ++ " chars").toList,
      0x20 ≤ c.toNat := by
    simp only [String.toList_append, List.forall_mem_append]
    exact ⟨⟨forall_mem_of_all (by decide), hcount⟩, forall_mem_of_all (by decide)⟩
  have ht : ("HTML Response length: " ++ toString count ++ " chars").toList =
      'H' :: ("TML Response length: " ++ toString count ++ " chars").toList := by
    simp only [String.toList_append]
    rfl
  rw [ht] at hall ⊢
  exact isPlain_cons (by decide) hall

theorem isPlain_response {opening : List Char} (hv : ∀ c ∈ opening, 0x20 ≤ c.toNat) :
    IsPlain ("Response: ".toList ++ opening) :=
  have hword : ∀ c ∈ "Response: ".toList, 0x20 ≤ c.toNat := forall_mem_of_all (by decide)
  isPlain_cons (by decide) (List.forall_mem_append.2 ⟨hword, hv⟩)

theorem isPlain_of_lays {n : Nesting} (h : n.Lays line) (hv : ∀ c ∈ line, 0x20 ≤ c.toNat) :
    IsPlain line := by
  obtain ⟨c, rest, rfl, hc⟩ := h.head
  refine isPlain_cons ?_ hv
  obtain rfl | rfl | rfl := hc <;> decide

end Plain

theorem toList_outcome (contentType : Option String) (body : Body) :
    (outcome (.response 200 contentType body)).toList =
      "Status: 200".toList ++ '\n' :: ((detail body).toList ++ ['\n']) := by
  have hstatus : status 200 = "Status: 200" ++ "\n" := by decide
  simp only [outcome, hstatus, String.toList_append, List.append_assoc]
  rfl

-- A printed document takes up whole lines. The first stands behind what announces it, and each
-- further one is laid out by what the document has opened before it.
theorem exists_lines {n : Nat} {document : Json} (h : Canonical n document) :
    ∃ opening more, document.pretty.toList ++ ['\n'] = unlines (opening :: more) ∧
      (∀ line ∈ opening :: more, ∀ c ∈ line, 0x20 ≤ c.toNat) ∧
      ∀ before line after, more = before ++ line :: after →
        (Nesting.outermost.behind (unlines (opening :: before))).Lays line := by
  have hstands := stands_pretty h 0
  have hgoes := hstands.goes [] (fun _ => rfl) trivial
  rw [List.append_nil] at hgoes
  obtain ⟨more, hm⟩ := exists_splitAt '\n' (document.prettyChars 0)
  refine ⟨_, more, ?_, fun line hl c hc => ?_, fun before line after hb =>
    lays_of_goes hgoes hm hb⟩
  · rw [← hm, unlines_splitAt, pretty, String.toList_ofList]
  · rw [← hm] at hl
    obtain ⟨hd, hn⟩ := of_mem_splitAt hl hc
    exact (hstands.visible c hd).resolve_left hn

end Report

-- Whatever a successful answer holds, it gets one line for its status, one that says what came, and
-- for a document the further lines of the document, which show by how they are laid out that they
-- are its lines. None of them is empty, none begins a section, and none holds a control character.
theorem execute_lays_lines [Url.Idna] [Text.Decoders] {network : Http.Network}
    {address : String} {probe : Probe} {contentType : Option String} {body : Body}
    (h : (execute network address probe).result = .ok (.response 200 contentType body)) :
    ∃ (first : List Char) (more : List (List Char)),
      (Report.outcome (.response 200 contentType body)).toList =
        Text.unlines ("Status: 200".toList :: first :: more) ∧
      (∀ line ∈ "Status: 200".toList :: first :: more, Report.IsPlain line) ∧
      ((∃ count : Nat, body = .length count ∧ more = [] ∧
          first = ("HTML Response length: " ++ toString count ++ " chars").toList) ∨
        ∃ (document : Json) (opening : List Char), body = .json document ∧
          first = "Response: ".toList ++ opening ∧
          ∀ before line after, more = before ++ line :: after →
            (Json.Nesting.outermost.behind (Text.unlines (opening :: before))).Lays line) := by
  have hline : Report.IsPlain "Status: 200".toList :=
    Report.isPlain_cons (by decide) (Text.forall_mem_of_all (by decide))
  obtain ⟨answer, -, hs, -, ht⟩ := execute_eq_response_iff.1 h
  cases ht with
  | error hn _ => exact absurd hs.symm hn
  | length _ _ _ =>
      refine ⟨_, [], ?_, ?_, .inl ⟨_, rfl, rfl, rfl⟩⟩
      · rw [Report.toList_outcome, Text.unlines_cons, Text.unlines_cons]
        rfl
      · exact List.forall_mem_cons.2 ⟨hline, List.forall_mem_cons.2
          ⟨Report.isPlain_length _, List.forall_mem_nil _⟩⟩
  | @json _ document _ _ _ hd =>
      obtain ⟨opening, more, hlines, hvisible, hlays⟩ :=
        Report.exists_lines (Json.canonical_of_document hd)
      obtain ⟨hopening, hmore⟩ := List.forall_mem_cons.1 hvisible
      refine ⟨"Response: ".toList ++ opening, more, ?_, ?_,
        .inr ⟨document, opening, rfl, rfl, hlays⟩⟩
      · have hdetail : Report.detail (.json document) = "Response: " ++ document.pretty := rfl
        simp only [Report.toList_outcome, hdetail, String.toList_append, List.append_assoc, hlines,
          Text.unlines_cons]
      · refine List.forall_mem_cons.2 ⟨hline, List.forall_mem_cons.2
          ⟨Report.isPlain_response hopening, fun line hl => ?_⟩⟩
        obtain ⟨before, after, hb⟩ := List.append_of_mem hl
        exact Report.isPlain_of_lays (hlays before line after hb) (hmore line hl)

-- A document that would begin a section stays on a line of its own.
theorem execute_lays_lines_header :
    let answer : Http.Answer :=
      ⟨200, [utf8 "application/json"], none, utf8 "[\"\\n=== A ===\\n\"]"⟩
    let network : Http.Network := ⟨.standard, true, true, fun _ => ⟨answer, none⟩⟩
    let told : Outcome :=
      .response 200 (some "application/json") (.json (.array [.string "\n=== A ===\n"]))
    (execute network "http://h" ⟨"/x", "X"⟩).result = .ok told ∧
      ∃ first more,
        (Report.outcome told).toList = Text.unlines ("Status: 200".toList :: first :: more) ∧
        ∀ line ∈ "Status: 200".toList :: first :: more, Report.IsPlain line := by
  intro answer network told
  let probe : Probe := ⟨"/x", "X"⟩
  have hf : (Http.fetch network (probe.url "http://h")).result = .ok answer :=
    Http.toOption_eq_some_iff.1 (by decide +kernel)
  have ht : answer.text = "[\"\\n=== A ===\\n\"]" := by decide +kernel
  have hc : answer.contentType = some "application/json" := by decide +kernel
  have hr : (execute network "http://h" probe).result = .ok told := by
    rw [execute_of_text hf ht, hc]
    rfl
  obtain ⟨first, more, hlines, hplain, -⟩ := execute_lays_lines hr
  exact ⟨hr, first, more, hlines, hplain⟩

end ProbeReport
