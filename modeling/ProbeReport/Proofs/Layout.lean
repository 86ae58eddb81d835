import ProbeReport.Error
import ProbeReport.Proofs.Text.Quoted

-- Errors are laid out on one line, and their texts can be read from it.
namespace ProbeReport

-- The texts that an error holds, each under the name of its field. What a document was refused for
-- has no name, and the texts of the client are its own.
def Error.texts : Error → List (String × String)
  | .settings (.unparsable key value why) => [("key", key), ("value", value), ("error", why)]
  | .settings (.invalid key message) => [("key", key), ("message", message)]
  | .client _ => []
  | .decode error => [("path", error.path), ("", error.fault.cause.text)]
  | .io (.custom _ message) => [("error", message)]
  | .io (.system _ _ message) => [("message", message)]
  | .io .shortWrite => [("message", IoError.shortWrite.message)]

namespace Layout

def isNameChar (c : Char) : Bool := c.isAlphanum || c = '_'

-- The name in front of a value, from the characters before the value, the nearest first.
def labelOf : List Char → String
  | ' ' :: ':' :: before => String.ofList (before.takeWhile isNameChar).reverse
  | _ => ""

-- Reads all texts in quotes, each with the name in front of it. What stands between them may be
-- anything.
def textsBehind (before : List Char) : List Char → Option (List (String × String))
  | [] => some []
  | '"' :: rest =>
    match _h : Text.Quoted.inside? rest with
    | some (s, rest) => (textsBehind [] rest).map ((labelOf before, String.ofList s) :: ·)
    | none => none
  | c :: rest => textsBehind (c :: before) rest
termination_by t => t.length
decreasing_by
  · have := Text.Quoted.length_of_inside? _h
    simp only [List.length_cons]
    omega
  · exact Nat.lt_succ_self _

def texts? (line : String) : Option (List (String × String)) := textsBehind [] line.toList

-- A part of a line, wherever it stands, tells these texts, be they named in it or in front of it.
structure Tells (t : String) (told : String → List (String × String)) : Prop where
  isOneLine : Text.IsOneLine t
  reads : ∀ before, ∃ after, ∀ rest,
    textsBehind before (t.toList ++ rest) =
      (textsBehind after rest).map (told (labelOf before) ++ ·)

-- Parts without quotes tell nothing.
def IsPlain (t : String) : Prop := ∀ c ∈ t.toList, c ≠ '"' ∧ ¬Text.IsControl c

instance (t : String) : Decidable (IsPlain t) := List.decidableBAll _ _

section Parts

variable {t u value : String} {told : String → List (String × String)}
  {more : List (String × String)}

theorem isPlain_toString (n : Nat) : IsPlain (toString n) := by
  intro c hc
  refine ⟨?_, Text.isOneLine_toString n c hc⟩
  rintro rfl
  have hd := Text.isDigit_of_mem_toString hc
  revert hd
  decide

theorem textsBehind_plain {t : List Char} (h : ∀ c ∈ t, c ≠ '"') (before rest : List Char) :
    textsBehind before (t ++ rest) = textsBehind (t.reverse ++ before) rest := by
  induction t generalizing before with
  | nil => rfl
  | cons c t ih =>
      rw [List.forall_mem_cons] at h
      rw [List.cons_append, textsBehind, ih h.2, List.reverse_cons, List.append_assoc,
        List.singleton_append]
      exact h.1

theorem tells_plain (h : IsPlain t) : Tells t fun _ => [] where
  isOneLine c hc := (h c hc).2
  reads before := by
    refine ⟨t.toList.reverse ++ before, fun rest => ?_⟩
    rw [textsBehind_plain fun c hc => (h c hc).1]
    simp

theorem tells_encode (s : String) : Tells (Text.Quoted.encode s) fun label => [(label, s)] where
  isOneLine := Text.Quoted.isOneLine_encode s
  reads before := by
    refine ⟨[], fun rest => ?_⟩
    rw [Text.Quoted.encode, String.toList_ofList, List.cons_append, List.cons_append,
      List.append_assoc, List.singleton_append, textsBehind]
    split
    · rename_i heq
      rw [Text.Quoted.inside?_flatMap] at heq
      cases heq
      rw [String.ofList_toList]
      rfl
    · rename_i heq
      rw [Text.Quoted.inside?_flatMap] at heq
      cases heq

theorem Tells.append (h : Tells t told) (hu : Tells u fun _ => more) :
    Tells (t ++ u) fun label => told label ++ more where
  isOneLine := Text.isOneLine_append.2 ⟨h.isOneLine, hu.isOneLine⟩
  reads before := by
    obtain ⟨middle, hm⟩ := h.reads before
    obtain ⟨after, ha⟩ := hu.reads middle
    refine ⟨after, fun rest => ?_⟩
    rw [String.toList_append, List.append_assoc, hm, ha, Option.map_map]
    simp [Function.comp_def]

-- What is in front of a value is plain and gives it a name.
theorem Tells.behind (h : Tells value told) {label : String} (hp : IsPlain t)
    (hl : ∀ before, labelOf (t.toList.reverse ++ before) = label) :
    Tells (t ++ value) fun _ => told label where
  isOneLine := Text.isOneLine_append.2 ⟨fun c hc => (hp c hc).2, h.isOneLine⟩
  reads before := by
    obtain ⟨after, ha⟩ := h.reads (t.toList.reverse ++ before)
    refine ⟨after, fun rest => ?_⟩
    rw [String.toList_append, List.append_assoc, textsBehind_plain fun c hc => (hp c hc).1, ha, hl]

theorem isPlain_append : IsPlain (t ++ u) ↔ IsPlain t ∧ IsPlain u := by
  simp only [IsPlain, String.toList_append, List.mem_append, or_imp, forall_and]
  exact and_and_and_comm

-- The names of fields.
def IsName (name : String) : Prop := IsPlain name ∧ name.toList.all isNameChar = true

instance (name : String) : Decidable (IsName name) := inferInstanceAs (Decidable (_ ∧ _))

theorem labelOf_name {name : String} (h : name.toList.all isNameChar = true)
    (before : List Char) :
    labelOf ((" " ++ (name ++ ": ")).toList.reverse ++ before) = name := by
  have hl : (" " ++ (name ++ ": ")).toList.reverse ++ before =
      ' ' :: ':' :: (name.toList.reverse ++ ' ' :: before) := by
    simp
  have hr : ∀ c ∈ name.toList.reverse, isNameChar c = true :=
    fun c hc => List.all_eq_true.1 h c (List.mem_reverse.1 hc)
  rw [hl, labelOf, List.takeWhile_append_of_pos hr, List.takeWhile_cons_of_neg (by decide),
    List.append_nil, List.reverse_reverse, String.ofList_toList]

theorem Tells.field (h : Tells value told) (name : String) (hn : IsName name) :
    Tells (" " ++ field name value) fun _ => told name := by
  have hp : IsPlain (" " ++ (name ++ ": ")) :=
    isPlain_append.2 ⟨by decide, isPlain_append.2 ⟨hn.1, by decide⟩⟩
  have ht : " " ++ Layout.field name value = " " ++ (name ++ ": ") ++ value := by
    simp only [Layout.field, String.append_assoc]
  rw [ht]
  exact h.behind hp (labelOf_name hn.2)

-- Fields one after another, each behind a blank.
inductive AllTell : List String → List (String × String) → Prop where
  | nil : AllTell [] []
  | cons {field : String} {told : List (String × String)} {fields : List String}
      {more : List (String × String)} :
      Tells (" " ++ field) (fun _ => told) → AllTell fields more →
      AllTell (field :: fields) (told ++ more)

theorem AllTell.intercalate {fields : List String} {told : List (String × String)}
    (h : AllTell fields told) (hn : fields ≠ []) :
    Tells (" " ++ ", ".intercalate fields) fun _ => told := by
  induction h with
  | nil => exact absurd rfl hn
  | @cons field told fields more hf hfs ih =>
      cases fields with
      | nil =>
          cases hfs
          rw [String.intercalate_singleton, List.append_nil]
          exact hf
      | cons next rest =>
          have ht : " " ++ ", ".intercalate (field :: next :: rest) =
              " " ++ field ++ ("," ++ (" " ++ ", ".intercalate (next :: rest))) := by
            rw [String.intercalate_cons_cons]
            simp only [String.append_assoc]
            rfl
          rw [ht]
          exact hf.append ((tells_plain (by decide)).append (ih (List.cons_ne_nil _ _)))

theorem AllTell.record {fields : List String} {told : List (String × String)}
    (h : AllTell fields told) (hn : fields ≠ []) (name : String) (hname : IsPlain name) :
    Tells (record name fields) fun _ => told := by
  have hopen : IsPlain (name ++ " \x7b") := isPlain_append.2 ⟨hname, by decide⟩
  have hclose : IsPlain " \x7d" := by decide
  have ht : Layout.record name fields =
      name ++ " \x7b" ++ (" " ++ ", ".intercalate fields ++ " \x7d") := by
    simp only [Layout.record, String.append_assoc]
    rfl
  have hbody := (h.intercalate hn).append (tells_plain hclose)
  rw [List.append_nil] at hbody
  rw [ht]
  exact (tells_plain hopen).append hbody

end Parts

section Errors

theorem isPlain_ofKind (kind : IoKind) : IsPlain (ofKind kind) := by
  cases kind <;> decide

theorem tells_ofFault (fault : Json.Fault) :
    Tells (ofFault fault) fun _ => [("", fault.cause.text)] := by
  have hcause : Tells ("Error(" ++ Text.Quoted.encode fault.cause.text)
      fun _ => [("", fault.cause.text)] :=
    (tells_encode _).behind (by decide) fun _ => rfl
  have hplace : IsPlain
      (", " ++ (field "line" (toString fault.position.line) ++
        (", " ++ (field "column" (toString fault.position.column) ++ ")")))) := by
    simp only [isPlain_append, field, isPlain_toString, and_true]
    decide
  have h := hcause.append (tells_plain hplace)
  simpa only [ofFault, String.append_assoc, List.append_nil] using h

theorem tells_ofSettings (error : SettingsError) :
    Tells (ofSettings error) fun _ => (Error.settings error).texts := by
  cases error with
  | unparsable key value why =>
      have hkey := (tells_encode key).field "key" (by decide)
      have hvalue := (tells_encode value).field "value" (by decide)
      have hwhy := (tells_encode why).field "error" (by decide)
      exact (AllTell.cons hkey (.cons hvalue (.cons hwhy .nil))).record (List.cons_ne_nil _ _)
        "Parse" (by decide)
  | invalid key message =>
      have hkey := (tells_encode key).field "key" (by decide)
      have hmessage := (tells_encode message).field "message" (by decide)
      exact (AllTell.cons hkey (.cons hmessage .nil)).record (List.cons_ne_nil _ _)
        "Invalid" (by decide)

theorem tells_ofIo (error : IoError) : Tells (ofIo error) fun _ => (Error.io error).texts := by
  cases error with
  | custom kind message =>
      have hkind := (tells_plain (isPlain_ofKind kind)).field "kind" (by decide)
      have hmessage := (tells_encode message).field "error" (by decide)
      exact (AllTell.cons hkind (.cons hmessage .nil)).record (List.cons_ne_nil _ _)
        "Custom" (by decide)
  | system code kind message =>
      have hcode := (tells_plain (isPlain_toString code)).field "code" (by decide)
      have hkind := (tells_plain (isPlain_ofKind kind)).field "kind" (by decide)
      have hmessage := (tells_encode message).field "message" (by decide)
      exact (AllTell.cons hcode (.cons hkind (.cons hmessage .nil))).record (List.cons_ne_nil _ _)
        "Os" (by decide)
  | shortWrite =>
      have hkind := (tells_plain (isPlain_ofKind .writeZero)).field "kind" (by decide)
      have hmessage := (tells_encode IoError.shortWrite.message).field "message" (by decide)
      exact (AllTell.cons hkind (.cons hmessage .nil)).record (List.cons_ne_nil _ _)
        "Error" (by decide)

theorem tells_ofDecode (error : DecodeError) :
    Tells (ofDecode error) fun _ => (Error.decode error).texts := by
  have hpath := (tells_encode error.path).field "path" (by decide)
  have hstatus := (tells_plain (isPlain_toString error.status)).field "status" (by decide)
  have hsource := (tells_ofFault error.fault).field "source" (by decide)
  exact (AllTell.cons hpath (.cons hstatus (.cons hsource .nil))).record (List.cons_ne_nil _ _)
    "Decode" (by decide)

theorem Tells.enclosed {t value : String} {told : List (String × String)}
    (h : Tells value fun _ => told) (ht : IsPlain t) : Tells (t ++ value ++ ")") fun _ => told := by
  have hclosed := ((tells_plain ht).append h).append (tells_plain (by decide : IsPlain ")"))
  rwa [List.append_nil] at hclosed

-- Whatever is known to have a layout tells its texts.
theorem tells_of_ofError? {error : Error} {layout : String} (h : ofError? error = some layout) :
    Tells layout fun _ => error.texts := by
  cases error with
  | settings error =>
      cases h
      exact (tells_ofSettings error).enclosed (by decide)
  | client causes => cases h
  | decode error =>
      cases h
      exact tells_ofDecode error
  | io error =>
      cases h
      exact (tells_ofIo error).enclosed (by decide)

theorem Tells.texts?_eq {line : String} {told : List (String × String)}
    (h : Tells line fun _ => told) : texts? line = some told := by
  obtain ⟨after, ha⟩ := h.reads []
  have h := ha []
  rw [List.append_nil] at h
  rw [texts?, h, textsBehind, Option.map_some, List.append_nil]

end Errors

end Layout

end ProbeReport
