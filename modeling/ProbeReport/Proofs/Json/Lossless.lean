import ProbeReport.Proofs.Json.Tokens

namespace ProbeReport

namespace Json

open Grammar Reader Token

section Numbers

-- The characters that a number is written with.
def IsNumeric (c : Char) : Prop := IsDigit c ∨ c ∈ ['-', '+', '.', 'e', 'E']

theorem isNumeric_of_digits {t : List Char} (h : Digits t) : ∀ c ∈ t, IsNumeric c :=
  fun c hc => .inl (h.2 c hc)

theorem isNumeric_of_whole {t : List Char} (h : Whole t) : t ≠ [] ∧ ∀ c ∈ t, IsNumeric c := by
  cases h with
  | zero => exact ⟨by simp, by simp [IsNumeric, IsDigit]⟩
  | digits hc _ ht => exact ⟨by simp, isNumeric_of_digits (Numeral.digits_cons hc ht)⟩

theorem isNumeric_of_fraction {t : List Char} (h : Fraction t) : ∀ c ∈ t, IsNumeric c := by
  cases h with
  | absent => simp
  | present ht =>
      rw [List.forall_mem_cons]
      exact ⟨.inr (by simp), isNumeric_of_digits ht⟩

theorem isNumeric_of_exponent {t told : List Char} (h : Exponent t told) :
    ∀ c ∈ t, IsNumeric c := by
  cases h with
  | absent => simp
  | unsigned hm ht =>
      rw [List.forall_mem_cons]
      exact ⟨.inr (by rcases hm with rfl | rfl <;> simp), isNumeric_of_digits ht⟩
  | signed hm hs ht =>
      rw [List.forall_mem_cons, List.forall_mem_cons]
      exact ⟨.inr (by rcases hm with rfl | rfl <;> simp),
        .inr (by rcases hs with rfl | rfl <;> simp), isNumeric_of_digits ht⟩

theorem isNumeric_of_number {t told : List Char} (h : Number t told) :
    t ≠ [] ∧ ∀ c ∈ t, IsNumeric c := by
  obtain ⟨hm, hw, hf, hx⟩ := h
  rename_i minus whole fraction exponent told
  obtain ⟨hne, hwhole⟩ := isNumeric_of_whole hw
  have hminus : ∀ c ∈ minus, IsNumeric c := by
    cases hm with
    | absent => simp
    | present => simp [IsNumeric]
  refine ⟨by simp [hne], ?_⟩
  simp only [List.forall_mem_append]
  exact ⟨⟨⟨hminus, hwhole⟩, isNumeric_of_fraction hf⟩, isNumeric_of_exponent hx⟩

theorem isBare_of_isNumeric {c : Char} (h : IsNumeric c) : isBare c = true := by
  rcases h with h | h
  · have hne (d : Char) (hd : ¬IsDigit d) : c ≠ d := Numeral.ne_of_isDigit h hd
    have hblank : isBlank c = false := by
      simp [isBlank, hne ' ' (by decide), hne '\n' (by decide), hne '\r' (by decide),
        hne '\t' (by decide)]
    have hmark : c ∉ marks := by
      intro hc
      have hmarks : marks.all (fun d => !decide (IsDigit d)) = true := by decide
      have hn := List.all_eq_true.1 hmarks c hc
      simp [h] at hn
    simp [isBare, hblank, hmark, hne '"' (by decide)]
  · have hall : ['-', '+', '.', 'e', 'E'].all isBare = true := by decide
    exact List.all_eq_true.1 hall c h

-- No word is spelled like a number.
theorem ofBare_number {t told : List Char} (h : Number t told) : ofBare t = .number t := by
  have hwords : words.all (·.any fun c => c = 'u' ∨ c = 'l') = true := by decide
  have hnot : t ∉ words := by
    intro ht
    obtain ⟨c, hc, hletter⟩ := List.any_eq_true.1 (List.all_eq_true.1 hwords t ht)
    have hnumeric := (isNumeric_of_number h).2 c hc
    rcases of_decide_eq_true hletter with rfl | rfl <;> simp [IsNumeric, IsDigit] at hnumeric
  rw [ofBare, if_neg hnot]

theorem scan_number {t told rest : List Char} (h : Number t told) (hr : Delimited rest) :
    scan .between (t ++ rest) = (scan .between rest).map (.number t :: ·) := by
  obtain ⟨hne, hchars⟩ := isNumeric_of_number h
  rw [scan_run hne (fun c hc => isBare_of_isNumeric (hchars c hc)) hr, ofBare_number h]

end Numbers

section Keys

variable {opened : List (List String)} {keys : List String} {more : List Token}

-- A string before such tokens is no key.
def NoColon (more : List Token) : Prop := more.head? ≠ some (.mark ':')

theorem keyLists_word (letters : List Char) :
    keyLists opened (.word letters :: more) = keyLists opened more := by
  cases opened <;> rfl

theorem keyLists_number (spelling : List Char) :
    keyLists opened (.number spelling :: more) = keyLists opened more := by
  cases opened <;> rfl

theorem keyLists_string (value : String) (h : NoColon more) :
    keyLists opened (.string value :: more) = keyLists opened more := by
  have hnot : ∀ rest, more ≠ .mark ':' :: rest := by
    rintro rest rfl
    exact h rfl
  rw [keyLists] <;> simp [hnot]

theorem keyLists_mark {c : Char} (hc : c ≠ '\x7b' ∧ c ≠ '\x7d') :
    keyLists opened (.mark c :: more) = keyLists opened more := by
  cases opened <;> simp [keyLists, hc]

theorem keyLists_key (key : String) :
    keyLists opened (.string key :: .mark ':' :: more) =
      keyLists (opened.modifyHead (· ++ [key])) more := by
  cases opened <;> rfl

theorem keyLists_open :
    keyLists opened (.mark '\x7b' :: more) = keyLists ([] :: opened) more := by
  cases opened <;> rfl

theorem keyLists_close :
    keyLists (keys :: opened) (.mark '\x7d' :: more) = keys :: keyLists opened more := rfl

theorem noColon_cons {token : Token} (h : token ≠ .mark ':') : NoColon (token :: more) := by
  simpa [NoColon] using h

end Keys

section Reading

-- The tokens of a piece of a text, whatever stands behind it: with these keys of the object
-- around it, and with the keys of the objects in it.
structure Spells (t : List Char) (found : List Token) (names : List String)
    (lists : List (List String)) : Prop where
  scan : ∀ rest, Delimited rest →
    scan .between (t ++ rest) = (scan .between rest).map (found ++ ·)
  keys : ∀ opened more, NoColon more →
    keyLists opened (found ++ more) = lists ++ keyLists (opened.modifyHead (· ++ names)) more

theorem modifyHead_append_nil (opened : List (List String)) :
    opened.modifyHead (· ++ []) = opened := by
  cases opened <;> simp

namespace Spells

variable {t u b b' : List Char} {found after : List Token} {names others : List String}
  {lists later : List (List String)}

theorem word {letters : List Char} (h : letters ∈ words) :
    Spells letters [.word letters] [] [] where
  scan _ hr := scan_word h hr
  keys opened more _ := by
    rw [modifyHead_append_nil, List.singleton_append, keyLists_word, List.nil_append]

theorem number {told : List Char} (h : Number t told) : Spells t [.number t] [] [] where
  scan _ hr := scan_number h hr
  keys opened more _ := by
    rw [modifyHead_append_nil, List.singleton_append, keyLists_number, List.nil_append]

theorem string {s : String} (h : Quoted t s) : Spells t [.string s] [] [] where
  scan rest _ := scan_string h rest
  keys opened more hm := by
    rw [modifyHead_append_nil, List.singleton_append, keyLists_string s hm, List.nil_append]

theorem blank (hb : Blanks b) : Spells b [] [] [] where
  scan rest _ := by simp [scan_blanks hb]
  keys opened more _ := by rw [modifyHead_append_nil, List.nil_append, List.nil_append]

theorem padded (h : Spells t found names lists) (hb : Blanks b) (hb' : Blanks b') :
    Spells (b ++ t ++ b') found names lists where
  scan rest hr := by
    rw [List.append_assoc, List.append_assoc, scan_blanks hb, h.scan _ (delimited_blanks hb' hr),
      scan_blanks hb']
  keys := h.keys

-- An array tells nothing of the keys around it.
theorem array (h : Spells t found [] lists) :
    Spells ('[' :: t ++ [']']) (.mark '[' :: found ++ [.mark ']']) [] lists where
  scan rest _ := by
    simp only [List.cons_append, List.append_assoc, List.nil_append]
    rw [scan_mark (by decide), h.scan _ (delimited_arrayEnd rest), scan_mark (by decide)]
    simp [Function.comp_def]
  keys opened more _ := by
    rw [List.cons_append, List.cons_append, List.append_assoc, List.singleton_append,
      keyLists_mark (by decide), h.keys _ _ (noColon_cons (by decide)), keyLists_mark (by decide)]

-- An object keeps its keys to itself.
theorem object (h : Spells t found names lists) :
    Spells ('\x7b' :: t ++ ['\x7d']) (.mark '\x7b' :: found ++ [.mark '\x7d']) []
      (lists ++ [names]) where
  scan rest _ := by
    simp only [List.cons_append, List.append_assoc, List.nil_append]
    rw [scan_mark (by decide), h.scan _ (delimited_objectEnd rest), scan_mark (by decide)]
    simp [Function.comp_def]
  keys opened more _ := by
    rw [List.cons_append, List.cons_append, List.append_assoc, List.singleton_append,
      keyLists_open, h.keys _ _ (noColon_cons (by decide)), List.modifyHead_cons,
      List.nil_append, keyLists_close, modifyHead_append_nil, List.append_assoc]
    rfl

theorem member {key : String} {k : List Char} (h : Spells t found [] lists) (hb : Blanks b)
    (hk : Quoted k key) (hb' : Blanks b') :
    Spells (b ++ k ++ b' ++ ':' :: t) (.string key :: .mark ':' :: found) [key] lists where
  scan rest hr := by
    simp only [List.append_assoc, List.cons_append]
    rw [scan_blanks hb, scan_string hk, scan_blanks hb', scan_mark (by decide), h.scan rest hr]
    simp [Function.comp_def]
  keys opened more hm := by
    rw [List.cons_append, List.cons_append, keyLists_key, h.keys _ _ hm, modifyHead_append_nil]

theorem comma (h : Spells t found names lists) (hu : Spells u after others later) :
    Spells (t ++ ',' :: u) (found ++ .mark ',' :: after) (names ++ others) (lists ++ later) where
  scan rest hr := by
    rw [List.append_assoc, List.cons_append, h.scan _ (delimited_comma _), scan_mark (by decide),
      hu.scan rest hr]
    simp [Function.comp_def]
  keys opened more hm := by
    have hboth : (opened.modifyHead (· ++ names)).modifyHead (· ++ others) =
        opened.modifyHead (· ++ (names ++ others)) := by
      cases opened <;> simp
    rw [List.append_assoc, List.cons_append, h.keys _ _ (noColon_cons (by decide)),
      keyLists_mark (by decide), hu.keys _ _ hm, hboth, List.append_assoc]

end Spells

mutual

-- A value is spelled with its tokens, up to exponents, when its objects have plain keys.
theorem spells_value {n : Nat} {t : List Char} {value : Json} (h : Value n t value) :
    ∃ found lists, Spells t found [] lists ∧
      ((∀ keys ∈ lists, PlainKeys keys) → found.map signed = value.tokens) := by
  match h with
  | .null => exact ⟨_, _, .word (by decide), fun _ => rfl⟩
  | .true => exact ⟨_, _, .word (by decide), fun _ => rfl⟩
  | .false => exact ⟨_, _, .word (by decide), fun _ => rfl⟩
  | .number hd =>
      refine ⟨_, _, .number hd, fun _ => ?_⟩
      simp [signed, tokens, signExponent_number hd]
  | .string hq => exact ⟨_, _, .string hq, fun _ => rfl⟩
  | .emptyArray hb => exact ⟨_, _, .array (.blank hb), fun _ => rfl⟩
  | .array hi =>
      obtain ⟨found, lists, hs, ht⟩ := spells_items hi
      refine ⟨_, _, hs.array, fun hplain => ?_⟩
      obtain ⟨item, rest, rfl, htokens⟩ := ht hplain
      simpa [tokens, signed] using htokens
  | .emptyObject hb => exact ⟨_, _, .object (.blank hb), fun _ => rfl⟩
  | .object hm _ =>
      obtain ⟨found, lists, hs, ht⟩ := spells_members hm
      refine ⟨_, _, hs.object, fun hplain => ?_⟩
      rw [List.forall_mem_append, List.forall_mem_singleton] at hplain
      obtain ⟨key, value, rest, rfl, htokens⟩ := ht hplain.1
      simpa [merged_of_nodup hplain.2.1, tokens, signed] using htokens
  | .numberObject hb hk hb' hv hq hl _ =>
      have hs := (((Spells.string hq).padded hv hl).member hb hk hb').object
      simp only [List.append_assoc, List.cons_append] at hs ⊢
      refine ⟨_, _, hs, fun hplain => ?_⟩
      have hkey := (hplain [numberKey] (by simp)).2
      exact absurd rfl hkey

theorem spells_padded {n : Nat} {t : List Char} {value : Json} (h : Padded n t value) :
    ∃ found lists, Spells t found [] lists ∧
      ((∀ keys ∈ lists, PlainKeys keys) → found.map signed = value.tokens) := by
  match h with
  | .mk hb hv hb' =>
      obtain ⟨found, lists, hs, ht⟩ := spells_value hv
      exact ⟨found, lists, hs.padded hb hb', ht⟩

theorem spells_items {n : Nat} {t : List Char} {items : List Json} (h : Items n t items) :
    ∃ found lists, Spells t found [] lists ∧
      ((∀ keys ∈ lists, PlainKeys keys) → ∃ item rest, items = item :: rest ∧
        found.map signed ++ [.mark ']'] = item.tokens ++ itemTokens rest) := by
  match h with
  | .one hp =>
      obtain ⟨found, lists, hs, ht⟩ := spells_padded hp
      exact ⟨found, lists, hs, fun hplain => ⟨_, [], rfl, by rw [ht hplain]; rfl⟩⟩
  | .more hp hmore =>
      obtain ⟨found, lists, hs, ht⟩ := spells_padded hp
      obtain ⟨after, later, hs', ht'⟩ := spells_items hmore
      refine ⟨_, _, hs.comma hs', fun hplain => ?_⟩
      rw [List.forall_mem_append] at hplain
      obtain ⟨item, rest, rfl, htokens⟩ := ht' hplain.2
      refine ⟨_, _, rfl, ?_⟩
      simpa [signed, itemTokens, ht hplain.1] using htokens

theorem spells_members {n : Nat} {t : List Char} {members : List (String × Json)}
    (h : Members n t members) :
    ∃ found lists, Spells t found (members.map Prod.fst) lists ∧
      ((∀ keys ∈ lists, PlainKeys keys) → ∃ key value rest, members = (key, value) :: rest ∧
        found.map signed ++ [.mark '\x7d'] =
          .string key :: .mark ':' :: value.tokens ++ memberTokens rest) := by
  match h with
  | .one hb hk hb' hp =>
      obtain ⟨found, lists, hs, ht⟩ := spells_padded hp
      refine ⟨_, _, hs.member hb hk hb', fun hplain => ⟨_, _, [], rfl, ?_⟩⟩
      rw [List.map_cons, List.map_cons, ht hplain]
      rfl
  | .more hb hk hb' hp hmore =>
      obtain ⟨found, lists, hs, ht⟩ := spells_padded hp
      obtain ⟨after, later, hs', ht'⟩ := spells_members hmore
      refine ⟨_, _, (hs.member hb hk hb').comma hs', fun hplain => ?_⟩
      rw [List.forall_mem_append] at hplain
      obtain ⟨key, value, rest, rfl, htokens⟩ := ht' hplain.2
      refine ⟨_, _, _, rfl, ?_⟩
      simpa [signed, memberTokens, ht hplain.1] using htokens

end

end Reading

section Printing

-- A printed value has the tokens of the value, whatever stands behind it.
def Prints (level : Nat) (value : Json) : Prop :=
  ∀ rest, Delimited rest →
    scan .between (value.prettyChars level ++ rest) =
      (scan .between rest).map (value.tokens ++ ·)

variable (level : Nat)

theorem delimited_newline (rest : List Char) : Delimited (newline level ++ rest) :=
  delimited_cons _ (.inl rfl)

theorem delimited_prettyItems (items : List Json) (rest : List Char) :
    Delimited (prettyItems level items ++ rest) := by
  cases items with
  | nil => simpa [prettyItems] using delimited_newline level _
  | cons => exact delimited_comma _

theorem delimited_prettyMembers (members : List (String × Json)) (rest : List Char) :
    Delimited (prettyMembers level members ++ rest) := by
  match members with
  | [] => simpa [prettyMembers] using delimited_newline level _
  | (_, _) :: _ => exact delimited_comma _

variable {level : Nat}

theorem scan_prettyItems (items : List Json) (hp : ∀ item ∈ items, Prints (level + 1) item)
    (rest : List Char) :
    scan .between (prettyItems level items ++ rest) =
      (scan .between rest).map (itemTokens items ++ ·) := by
  induction items with
  | nil =>
      rw [prettyItems, List.append_assoc, scan_blanks (blanks_newline level), List.singleton_append,
        scan_mark (by decide)]
      rfl
  | cons item more ih =>
      rw [List.forall_mem_cons] at hp
      simp only [prettyItems, List.cons_append, List.append_assoc]
      rw [scan_mark (by decide), scan_blanks (blanks_newline (level + 1)),
        hp.1 _ (delimited_prettyItems level more rest), ih hp.2]
      simp [itemTokens, Function.comp_def]

theorem scan_member (key : String) {value : Json} (hp : Prints level value) (rest : List Char)
    (hr : Delimited rest) :
    scan .between (quote key ++ ':' :: ' ' :: value.prettyChars level ++ rest) =
      (scan .between rest).map (.string key :: .mark ':' :: value.tokens ++ ·) := by
  have hgap : Blanks [' '] := blanks_cons.mpr ⟨rfl, .nil⟩
  have hblank (u : List Char) : scan .between (' ' :: u) = scan .between u := scan_blanks hgap u
  rw [List.append_assoc, scan_string (quoted_quote key), List.cons_append, scan_mark (by decide),
    List.cons_append, hblank, hp _ hr]
  simp [Function.comp_def]

theorem scan_prettyMembers (members : List (String × Json))
    (hp : ∀ member ∈ members, Prints (level + 1) member.2) (rest : List Char) :
    scan .between (prettyMembers level members ++ rest) =
      (scan .between rest).map (memberTokens members ++ ·) := by
  induction members with
  | nil =>
      rw [prettyMembers, List.append_assoc, scan_blanks (blanks_newline level),
        List.singleton_append, scan_mark (by decide)]
      rfl
  | cons member more ih =>
      obtain ⟨key, value⟩ := member
      rw [List.forall_mem_cons] at hp
      have hmember := scan_member key hp.1 _ (delimited_prettyMembers level more rest)
      simp only [prettyMembers, List.cons_append, List.append_assoc] at hmember ⊢
      rw [scan_mark (by decide), scan_blanks (blanks_newline (level + 1)), hmember, ih hp.2]
      simp [memberTokens, Function.comp_def]

theorem prints_pretty {n : Nat} {value : Json} (h : Canonical n value) (level : Nat) :
    Prints level value := by
  induction h generalizing level with
  | null => exact fun rest hr => scan_word (by decide : ['n', 'u', 'l', 'l'] ∈ words) hr
  | @bool _ b =>
      have hword : ∀ b, Json.word b ∈ words := by decide
      exact fun rest hr => scan_word (hword b) hr
  | number hd =>
      intro rest hr
      rw [prettyChars, tokens, String.toList_ofList]
      exact scan_number hd hr
  | string => exact fun rest hr => scan_string (quoted_quote _) rest
  | @array _ items _ ih =>
      intro rest hr
      cases items with
      | nil => exact (Spells.array (.blank .nil)).scan rest hr
      | cons item more =>
          have hitem := ih item (by simp) (level + 1)
          have hmore : ∀ i ∈ more, Prints (level + 1) i :=
            fun i hi => ih i (List.mem_cons_of_mem item hi) (level + 1)
          simp only [prettyChars, List.cons_append, List.append_assoc]
          rw [scan_mark (by decide), scan_blanks (blanks_newline (level + 1)),
            hitem _ (delimited_prettyItems level more rest), scan_prettyItems more hmore]
          simp [tokens, Function.comp_def]
  | @object _ members _ _ _ ih =>
      intro rest hr
      cases members with
      | nil => exact (Spells.object (.blank .nil)).scan rest hr
      | cons member more =>
          obtain ⟨key, value⟩ := member
          have hvalue := ih (key, value) (by simp) (level + 1)
          have hmore : ∀ m ∈ more, Prints (level + 1) m.2 :=
            fun m hm => ih m (List.mem_cons_of_mem _ hm) (level + 1)
          have hmember := scan_member key hvalue _ (delimited_prettyMembers level more rest)
          simp only [prettyChars, List.cons_append, List.append_assoc] at hmember ⊢
          rw [scan_mark (by decide), scan_blanks (blanks_newline (level + 1)), hmember,
            scan_prettyMembers more hmore]
          simp [tokens, Function.comp_def]

end Printing

theorem tokens?_pretty {n : Nat} {value : Json} (h : Canonical n value) :
    tokens? value.pretty = some value.tokens := by
  have hp := prints_pretty h 0 [] delimited_nil
  rw [List.append_nil] at hp
  rw [tokens?, pretty, String.toList_ofList, hp]
  simp [scan, Token.finish]

-- A document has the tokens of its value, up to exponents, when its objects have plain keys.
theorem tokens?_document {text : String} {value : Json} (h : Document text value) :
    ∃ found, tokens? text = some found ∧
      (HasPlainKeys text → found.map signed = value.tokens) := by
  obtain ⟨found, lists, hs, ht⟩ := spells_padded h
  have hscan := hs.scan [] delimited_nil
  have hkeys := hs.keys [] [] (by simp [NoColon])
  have htext : tokens? text = some found := by
    rw [List.append_nil] at hscan
    rw [tokens?, hscan]
    simp [scan, Token.finish]
  refine ⟨found, htext, fun hplain => ht ?_⟩
  have hfound : keyLists [] found = lists := by simpa [keyLists] using hkeys
  exact hfound ▸ hplain found htext

end Json

namespace Body

open Json

-- What a document is reported with has the same tokens in the same order, but that each exponent
-- is told as `e` with a sign. Numbers without an exponent stay digit for digit.
theorem outcome_keeps_tokens {contentType text : String} {value : Json}
    (h : classify 200 (some contentType) text = .ok (.json value)) (hplain : HasPlainKeys text) :
    ∃ found printed, tokens? text = some found ∧ tokens? printed = some (found.map Token.signed) ∧
      Report.outcome (.response 200 (some contentType) (.json value)) =
        Report.status 200 ++ ("Response: " ++ printed) ++ "\n" ∧
      ∀ (i : Nat) (spelling : List Char), found[i]? = some (.number spelling) →
        'e' ∉ spelling → 'E' ∉ spelling →
        (found.map Token.signed)[i]? = some (.number spelling) := by
  have hd := document_of_classify h
  obtain ⟨found, htext, htokens⟩ := tokens?_document hd
  refine ⟨found, value.pretty, htext, ?_, rfl, fun i spelling hi he hE => ?_⟩
  · rw [tokens?_pretty (canonical_of_document hd), htokens hplain]
  · rw [List.getElem?_map, hi, Option.map_some, Token.signed, signExponent_of_plain he hE]

theorem outcome_keeps_tokens_nested :
    classify 200 (some jsonType) "[9007199254740993.10, \x7b\"b\":1E5,\"a\":\"\\u0041\"\x7d]" =
        .ok (.json (.array [.number "9007199254740993.10",
          .object [("b", .number "1e+5"), ("a", .string "A")]])) ∧
      HasPlainKeys "[9007199254740993.10, \x7b\"b\":1E5,\"a\":\"\\u0041\"\x7d]" ∧
      ∃ printed, tokens? printed =
          some [.mark '[', .number "9007199254740993.10".toList, .mark ',', .mark '\x7b',
            .string "b", .mark ':', .number "1e+5".toList, .mark ',', .string "a", .mark ':',
            .string "A", .mark '\x7d', .mark ']'] ∧
        Report.outcome (.response 200 (some jsonType) (.json (.array [.number "9007199254740993.10",
            .object [("b", .number "1e+5"), ("a", .string "A")]]))) =
          Report.status 200 ++ ("Response: " ++ printed) ++ "\n" := by
  have h : classify 200 (some jsonType)
      "[9007199254740993.10, \x7b\"b\":1E5,\"a\":\"\\u0041\"\x7d]" =
        .ok (.json (.array [.number "9007199254740993.10",
          .object [("b", .number "1e+5"), ("a", .string "A")]])) := rfl
  have htokens : tokens? "[9007199254740993.10, \x7b\"b\":1E5,\"a\":\"\\u0041\"\x7d]" =
      some [.mark '[', .number "9007199254740993.10".toList, .mark ',', .mark '\x7b', .string "b",
        .mark ':', .number "1E5".toList, .mark ',', .string "a", .mark ':', .string "A",
        .mark '\x7d', .mark ']'] := rfl
  have hplain : HasPlainKeys "[9007199254740993.10, \x7b\"b\":1E5,\"a\":\"\\u0041\"\x7d]" := by
    intro tokens ht
    cases htokens.symm.trans ht
    decide
  obtain ⟨found, printed, hfound, hprinted, houtcome, -⟩ := outcome_keeps_tokens h hplain
  cases htokens.symm.trans hfound
  exact ⟨h, hplain, printed, hprinted, houtcome⟩

end Body

end ProbeReport
