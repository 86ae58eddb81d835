import Mathlib.Data.List.Chain
import ProbeReport.Proofs.Text.Search
import ProbeReport.Text.Charset

-- Which labels stand for an encoding.
namespace ProbeReport.Text.Charset

-- The names of each encoding, the shorter ones first.
def names : Charset → List String
  | .utf8 =>
    ["utf8", "utf-8", "unicode11utf8", "unicode20utf8", "x-unicode20utf8", "unicode-1-1-utf-8"]
  | .legacy .ibm866 => ["866", "cp866", "ibm866", "csibm866"]
  | .legacy .iso8859_2 =>
    ["l2", "latin2", "iso88592", "iso8859-2", "iso-8859-2", "iso-ir-101", "iso_8859-2",
     "csisolatin2", "iso_8859-2:1987"]
  | .legacy .iso8859_3 =>
    ["l3", "latin3", "iso88593", "iso8859-3", "iso-8859-3", "iso-ir-109", "iso_8859-3",
     "csisolatin3", "iso_8859-3:1988"]
  | .legacy .iso8859_4 =>
    ["l4", "latin4", "iso88594", "iso8859-4", "iso-8859-4", "iso-ir-110", "iso_8859-4",
     "csisolatin4", "iso_8859-4:1988"]
  | .legacy .iso8859_5 =>
    ["cyrillic", "iso88595", "iso8859-5", "iso-8859-5", "iso-ir-144", "iso_8859-5",
     "iso_8859-5:1988", "csisolatincyrillic"]
  | .legacy .iso8859_6 =>
    ["arabic", "asmo-708", "ecma-114", "iso88596", "iso8859-6", "iso-8859-6", "iso-ir-127",
     "iso_8859-6", "csiso88596e", "csiso88596i", "iso-8859-6-e", "iso-8859-6-i",
     "iso_8859-6:1987", "csisolatinarabic"]
  | .legacy .iso8859_7 =>
    ["greek", "greek8", "ecma-118", "elot_928", "iso88597", "iso8859-7", "iso-8859-7",
     "iso-ir-126", "iso_8859-7", "sun_eu_greek", "csisolatingreek", "iso_8859-7:1987"]
  | .legacy .iso8859_8 =>
    ["hebrew", "visual", "iso88598", "iso8859-8", "iso-8859-8", "iso-ir-138", "iso_8859-8",
     "csiso88598e", "iso-8859-8-e", "iso_8859-8:1988", "csisolatinhebrew"]
  | .legacy .iso8859_8i => ["logical", "csiso88598i", "iso-8859-8-i"]
  | .legacy .iso8859_10 =>
    ["l6", "latin6", "iso885910", "iso-ir-157", "iso8859-10", "csisolatin6", "iso-8859-10"]
  | .legacy .iso8859_13 => ["iso885913", "iso8859-13", "iso-8859-13"]
  | .legacy .iso8859_14 => ["iso885914", "iso8859-14", "iso-8859-14"]
  | .legacy .iso8859_15 =>
    ["l9", "iso885915", "iso8859-15", "csisolatin9", "iso-8859-15", "iso_8859-15"]
  | .legacy .iso8859_16 => ["iso-8859-16"]
  | .legacy .koi8r => ["koi", "koi8", "koi8-r", "koi8_r", "cskoi8r"]
  | .legacy .koi8u => ["koi8-u", "koi8-ru"]
  | .legacy .macintosh => ["mac", "macintosh", "csmacintosh", "x-mac-roman"]
  | .legacy .windows874 =>
    ["dos-874", "tis-620", "iso885911", "iso8859-11", "iso-8859-11", "windows-874"]
  | .legacy .windows1250 => ["cp1250", "x-cp1250", "windows-1250"]
  | .legacy .windows1251 => ["cp1251", "x-cp1251", "windows-1251"]
  | .windows1252 =>
    ["l1", "ascii", "cp819", "cp1252", "ibm819", "latin1", "iso88591", "us-ascii", "x-cp1252",
     "iso8859-1", "iso-8859-1", "iso-ir-100", "iso_8859-1", "csisolatin1", "windows-1252",
     "ansi_x3.4-1968", "iso_8859-1:1987"]
  | .legacy .windows1253 => ["cp1253", "x-cp1253", "windows-1253"]
  | .legacy .windows1254 =>
    ["l5", "cp1254", "latin5", "iso88599", "x-cp1254", "iso8859-9", "iso-8859-9", "iso-ir-148",
     "iso_8859-9", "csisolatin5", "windows-1254", "iso_8859-9:1989"]
  | .legacy .windows1255 => ["cp1255", "x-cp1255", "windows-1255"]
  | .legacy .windows1256 => ["cp1256", "x-cp1256", "windows-1256"]
  | .legacy .windows1257 => ["cp1257", "x-cp1257", "windows-1257"]
  | .legacy .windows1258 => ["cp1258", "x-cp1258", "windows-1258"]
  | .legacy .macCyrillic => ["x-mac-cyrillic", "x-mac-ukrainian"]
  | .legacy .gbk =>
    ["gbk", "x-gbk", "gb2312", "chinese", "gb_2312", "csgb2312", "iso-ir-58", "gb_2312-80",
     "csiso58gb231280"]
  | .legacy .gb18030 => ["gb18030"]
  | .legacy .big5 => ["big5", "csbig5", "cn-big5", "x-x-big5", "big5-hkscs"]
  | .legacy .eucJp => ["euc-jp", "x-euc-jp", "cseucpkdfmtjapanese"]
  | .legacy .iso2022Jp => ["csiso2022jp", "iso-2022-jp"]
  | .legacy .shiftJis =>
    ["sjis", "ms932", "x-sjis", "ms_kanji", "shift-jis", "shift_jis", "csshiftjis", "windows-31j"]
  | .legacy .eucKr =>
    ["euc-kr", "korean", "cseuckr", "ksc5601", "ksc_5601", "iso-ir-149", "windows-949",
     "csksc56011987", "ks_c_5601-1987", "ks_c_5601-1989"]
  | .replacement =>
    ["hz-gb-2312", "csiso2022kr", "iso-2022-cn", "iso-2022-kr", "replacement", "iso-2022-cn-ext"]
  | .utf16 .big => ["utf-16be", "unicodefffe"]
  | .utf16 .little =>
    ["ucs-2", "utf-16", "unicode", "utf-16le", "csunicode", "unicodefeff", "iso-10646-ucs-2"]
  | .userDefined => ["x-user-defined"]

-- Blanks may stand around a label.
def IsLabelBlank (c : Char) : Prop := c = ' ' ∨ c = '\t' ∨ c = '\n' ∨ c = '\x0c' ∨ c = '\r'

-- A label stands for an encoding when it is a name of it, in any case, without the blanks around
-- it.
inductive Names (charset : Charset) (label : String) : Prop where
  | mk {front spelled back : List Char} {name : String} :
      label.toList = front ++ spelled ++ back → (∀ c ∈ front ++ back, IsLabelBlank c) →
      (∀ c ∈ spelled.head?, ¬IsLabelBlank c) → (∀ c ∈ spelled.getLast?, ¬IsLabelBlank c) →
      name ∈ names charset → spelled.map Char.toLower = name.toList → Names charset label

section Labels

variable {charset : Charset} {label : String}

theorem names_eq (charset : Charset) :
    names charset = (labels.filter fun entry => entry.2 = charset).map Prod.fst := by
  cases charset with
  | utf16 order => cases order <;> decide +kernel
  | legacy encoding => cases encoding <;> decide +kernel
  | _ => decide +kernel

theorem mem_names_iff {name : String} : name ∈ names charset ↔ (name, charset) ∈ labels := by
  rw [names_eq, List.mem_map]
  constructor
  · rintro ⟨⟨name, charset'⟩, hm, rfl⟩
    obtain ⟨hm, hc⟩ := List.mem_filter.1 hm
    rwa [← of_decide_eq_true hc]
  · intro hm
    exact ⟨(name, charset), List.mem_filter.2 ⟨hm, decide_eq_true rfl⟩, rfl⟩

-- The characters of a label as the digits of a number.
def code (label : String) : Nat := label.toList.foldl (fun total c => total * 256 + c.toNat) 1

theorem labels_sorted : (labels.map fun entry => code entry.1).Pairwise (· < ·) := by
  rw [← List.isChain_iff_pairwise]
  decide +kernel

-- So no label stands there twice, and the first entry for it is the only one.
theorem lookup_labels_eq_some_iff {name : String} :
    labels.lookup name = some charset ↔ name ∈ names charset := by
  rw [mem_names_iff]
  constructor
  · intro h
    obtain ⟨front, back, hl, -⟩ := List.lookup_eq_some_iff.1 h
    rw [hl]
    exact List.mem_append_right _ List.mem_cons_self
  · intro h
    have hp := List.pairwise_map.1 labels_sorted
    obtain ⟨front, back, hl⟩ := List.append_of_mem h
    rw [hl, List.pairwise_append] at hp
    refine List.lookup_eq_some_iff.2 ⟨front, back, hl, fun entry hm => ?_⟩
    have hlt := hp.2.2 entry hm (name, charset) List.mem_cons_self
    rw [bne_iff_ne]
    rintro rfl
    exact Nat.lt_irrefl _ hlt

theorem isLabelBlank_iff {c : Char} : isLabelBlank c = true ↔ IsLabelBlank c := by
  simp [isLabelBlank, IsLabelBlank, or_assoc]

-- The reader finds the encoding that a label stands for.
theorem ofLabel?_eq_some_iff : ofLabel? label = some charset ↔ Names charset label := by
  rw [ofLabel?, lookup_labels_eq_some_iff]
  constructor
  · intro h
    obtain ⟨front, back, hl, hf, hb, hh, ht⟩ := exists_trim isLabelBlank label.toList
    refine .mk hl (fun c hc => ?_) (fun c hc => ?_) (fun c hc => ?_) h
      (by rw [String.toList_ofList])
    · rw [← isLabelBlank_iff]
      exact (List.mem_append.1 hc).elim (hf c) (hb c)
    · rw [← isLabelBlank_iff, hh c hc]
      exact Bool.false_ne_true
    · rw [← isLabelBlank_iff, ht c hc]
      exact Bool.false_ne_true
  · rintro ⟨hl, hblank, hh, ht, hn, hs⟩
    rw [hl, trim_append fun c hc => isLabelBlank_iff.2 (hblank c hc), hs, String.ofList_toList]
    · exact hn
    · intro c hc
      rw [Bool.eq_false_iff, Ne, isLabelBlank_iff]
      exact hh c hc
    · intro c hc
      rw [Bool.eq_false_iff, Ne, isLabelBlank_iff]
      exact ht c hc

end Labels

end ProbeReport.Text.Charset
