import ProbeReport.Http.RequestLine
import ProbeReport.Proofs.Url.Host
import ProbeReport.Proofs.Url.Origin

-- Which web addresses a request can name.
namespace ProbeReport

namespace Http.RequestLine

-- Characters that may stand anywhere in an authority and change nothing there.
def isPlain (c : Char) : Bool := isHostChar c && !":[]@".toList.contains c

-- Characters that a name may hold and a request may not.
def unsendable : List Char := ['"', '\x60', '\x7b', '\x7d']

def Met.start : Met := ⟨0, false, false, false⟩

section Step

variable {c : Char} {s : List Char}

theorem step_of_isPlain (h : isPlain c = true) (m : Met) : m.step c = some m := by
  have hn {d : Char} (hd : isPlain d = false) : c ≠ d := by
    rintro rfl
    rw [h] at hd
    cases hd
  have hh : isHostChar c = true := (Bool.and_eq_true_iff.1 h).1
  rw [Met.step, if_neg (hn (by decide)), if_neg (hn (by decide)), if_neg (hn (by decide)),
    if_neg (hn (by decide)), if_neg (hn (by decide)), if_pos hh]

theorem foldlM_of_isPlain (h : ∀ c ∈ s, isPlain c = true) (m : Met) :
    s.foldlM Met.step m = some m := by
  induction s with
  | nil => rfl
  | cons c s ih =>
      rw [List.foldlM_cons, step_of_isPlain (h c List.mem_cons_self)]
      exact ih fun d hd => h d (List.mem_cons_of_mem _ hd)

-- Percent signs are only remembered.
theorem foldlM_userinfo (h : ∀ c ∈ s, isPlain c = true ∨ c = '%') (m : Met) :
    ∃ percent, s.foldlM Met.step m = some { m with percent := percent } := by
  induction s generalizing m with
  | nil => exact ⟨m.percent, rfl⟩
  | cons c s ih =>
      have hs : ∀ d ∈ s, isPlain d = true ∨ d = '%' := fun d hd => h d (List.mem_cons_of_mem _ hd)
      rw [List.foldlM_cons]
      obtain hc | rfl := h c List.mem_cons_self
      · rw [step_of_isPlain hc]
        exact ih hs m
      · obtain ⟨percent, hp⟩ := ih hs { m with percent := true }
        exact ⟨percent, hp⟩

theorem isPlain_of_isLowerHex (h : Text.isLowerHex c = true) : isPlain c = true :=
  Text.of_isLowerHex (P := fun c => isPlain c = true) (by decide +kernel) h

theorem isPlain_of_isDigit (h : c.isDigit = true) : isPlain c = true :=
  isPlain_of_isLowerHex (by rw [Text.isLowerHex, h, Bool.true_or])

-- Eight colons may stand between brackets.
theorem foldlM_ipv6 (h : ∀ c ∈ s, c = ':' ∨ Text.isLowerHex c = true) (m : Met)
    (hm : m.colons + s.count ':' ≤ 8) :
    s.foldlM Met.step m = some { m with colons := m.colons + s.count ':' } := by
  induction s generalizing m with
  | nil => rfl
  | cons c s ih =>
      have hs : ∀ d ∈ s, d = ':' ∨ Text.isLowerHex d = true :=
        fun d hd => h d (List.mem_cons_of_mem _ hd)
      rw [List.foldlM_cons]
      obtain rfl | hc := h c List.mem_cons_self
      · rw [List.count_cons_self] at hm ⊢
        have hstep : m.step ':' = some { m with colons := m.colons + 1 } := by
          rw [Met.step, if_pos rfl, if_pos (by omega)]
        rw [hstep, ← Nat.add_assoc, Nat.add_right_comm]
        exact ih hs { m with colons := m.colons + 1 } (by dsimp only; omega)
      · have hn : c ≠ ':' := by
          rintro rfl
          exact absurd hc (by decide)
        rw [List.count_cons_of_ne hn] at hm ⊢
        rw [step_of_isPlain (isPlain_of_isLowerHex hc)]
        exact ih hs m hm

end Step

end Http.RequestLine

namespace Url

open Http.RequestLine

-- A character that needs no encoding has no meaning of its own.
theorem mem_encode_userinfo {s : List Char} {c : Char}
    (h : c ∈ Percent.encode Percent.userinfo s) : isPlain c = true ∨ c = '%' := by
  have hplain : ∀ n : Fin 128, Percent.isControl (Char.ofNat n) = false →
      Percent.userinfo (Char.ofNat n) = false →
      isPlain (Char.ofNat n) = true ∨ Char.ofNat n = '%' := by
    decide +kernel
  have hhex : ∀ n : Fin 16, isPlain (Text.hexDigitUpper n) = true := by decide +kernel
  exact Percent.forall_mem_encode (P := fun c => isPlain c = true ∨ c = '%') (.inr rfl)
    (fun n => .inl (hhex n)) hplain h

theorem Authority.exists_userinfo [Idna] {scheme : String} (hs : isSpecial scheme = true)
    {s : List Char} {a : Authority} (h : Authority.parse scheme s = .ok a) :
    ∃ user password, a.user = String.ofList (Percent.encode Percent.userinfo user) ∧
      a.password = String.ofList (Percent.encode Percent.userinfo password) := by
  have hc (s : List Char) : ∃ user password,
      credentialsOf s = (String.ofList (Percent.encode Percent.userinfo user),
        String.ofList (Percent.encode Percent.userinfo password)) := by
    rw [credentialsOf]
    split
    · exact ⟨_, _, rfl⟩
    · exact ⟨s, [], rfl⟩
  unfold Authority.parse at h
  simp only [hs, if_true, true_or, and_true] at h
  split at h
  · cases h
  · obtain ⟨host, -, h⟩ := bind_eq_ok_iff.1 h
    obtain ⟨port, -, h⟩ := bind_eq_ok_iff.1 h
    cases h
    obtain ⟨user, password, he⟩ := hc ((cutLast? '@' s).getD ([], s)).1
    exact ⟨user, password, congrArg Prod.fst he, congrArg Prod.snd he⟩

-- What is known of a web address that was read.
structure Formed (u : Url) : Prop where
  user : ∀ c ∈ u.user.toList, isPlain c = true ∨ c = '%'
  password : ∀ c ∈ u.password.toList, isPlain c = true ∨ c = '%'
  host : ∃ host, u.host = some host ∧ host.IsWire

theorem formed_of_authority [Idna] {scheme : String} (hs : isSpecial scheme = true) {s : List Char}
    {a : Authority} (ha : Authority.parse scheme s = .ok a) (path : Path) (p : Parts) :
    (ofAuthority scheme a path p).Formed := by
  obtain ⟨user, password, huser, hpassword⟩ := Authority.exists_userinfo hs ha
  obtain ⟨host, -, -, -, hhost, -⟩ := Authority.parse_eq_ok hs ha
  refine ⟨fun c hc => ?_, fun c hc => ?_, a.host, rfl, Host.isWire_of_parse hhost⟩
  · rw [ofAuthority, huser, String.toList_ofList] at hc
    exact mem_encode_userinfo hc
  · rw [ofAuthority, hpassword, String.toList_ofList] at hc
    exact mem_encode_userinfo hc

theorem formed_of_parse [Idna] {address : String} {u : Url} (h : parse address = .ok u)
    (hw : u.isWeb = true) : u.Formed := by
  obtain ⟨rest, -, hu⟩ := exists_scheme h
  obtain ⟨a, path, ha, hu⟩ := exists_authority hu hw
  rw [hu]
  exact formed_of_authority (isSpecial_of_isWeb hw) ha path _

theorem hasHost_of_formed {u : Url} (h : u.Formed) : u.hasHost = true := by
  obtain ⟨host, hh, hw⟩ := h.host
  rw [hasHost, hh]
  exact decide_eq_true hw.text_ne_empty

end Url

namespace Http.RequestLine

open Url

section Carries

variable {u : Url} {host : Host}

-- Whatever stands before the last at sign is forgotten behind it.
theorem foldlM_userinfoText (hu : u.Formed) :
    u.userinfoText.toList.foldlM Met.step .start = some .start := by
  have hat (percent : Bool) (colons : Nat) :
      Met.step ⟨colons, false, false, percent⟩ '@' = some .start := rfl
  rw [userinfoText]
  split
  · rfl
  · obtain ⟨percent, hp⟩ := foldlM_userinfo hu.user .start
    split
    · rw [String.toList_append, List.foldlM_append, hp]
      exact hat percent 0
    · obtain ⟨percent', hp'⟩ := foldlM_userinfo hu.password ⟨1, false, false, percent⟩
      rw [String.toList_append, String.toList_append, String.toList_append, List.foldlM_append,
        List.foldlM_append, List.foldlM_append, hp]
      have hcolon : ":".toList.foldlM Met.step { Met.start with percent := percent } =
          some ⟨1, false, false, percent⟩ := rfl
      rw [Option.bind_eq_bind, Option.bind_some, hcolon, Option.bind_some, hp']
      exact hat percent' 1

-- A character of a name is plain or cannot be sent.
theorem isPlain_or_unsendable {c : Char} (h : Domain.IsNameChar c) :
    (isPlain c = true ∧ c ∉ unsendable) ∨ c ∈ unsendable := by
  have hall : ∀ n : Fin 128, Domain.isForbidden (Char.ofNat n) = false →
      (isPlain (Char.ofNat n) = true ∧ Char.ofNat n ∉ unsendable) ∨
        Char.ofNat n ∈ unsendable := by
    decide +kernel
  obtain ⟨n, rfl⟩ := Text.exists_ofNat h.1
  exact hall n h.2

theorem step_of_unsendable {c : Char} (h : c ∈ unsendable) (m : Met) : m.step c = none := by
  have hc : c = '"' ∨ c = '\x60' ∨ c = '\x7b' ∨ c = '\x7d' := by simpa [unsendable] using h
  obtain rfl | rfl | rfl | rfl := hc <;> rfl

theorem foldlM_name {s : List Char} (h : ∀ c ∈ s, Domain.IsNameChar c) (m : Met) :
    ((∀ c ∈ s, c ∉ unsendable) → s.foldlM Met.step m = some m) ∧
      ((¬∀ c ∈ s, c ∉ unsendable) → s.foldlM Met.step m = none) := by
  induction s with
  | nil => simp
  | cons c s ih =>
      have ih := ih fun d hd => h d (List.mem_cons_of_mem _ hd)
      rw [List.foldlM_cons]
      obtain ⟨hc, hn⟩ | hc := isPlain_or_unsendable (h c List.mem_cons_self)
      · rw [step_of_isPlain hc]
        simpa [hn] using ih
      · rw [step_of_unsendable hc]
        simp [hc]

theorem not_unsendable_of_isPlain {c : Char} (h : isPlain c = true) : c ∉ unsendable := by
  intro hc
  have hs := step_of_isPlain h .start
  rw [step_of_unsendable hc] at hs
  cases hs

-- A host passes unless a character of it cannot be sent. Brackets are closed behind it.
theorem foldlM_host (hw : host.IsWire) :
    ((∀ c ∈ host.text.toList, c ∉ unsendable) →
      ∃ bracketed, host.text.toList.foldlM Met.step .start =
        some ⟨0, bracketed, bracketed, false⟩) ∧
    ((¬∀ c ∈ host.text.toList, c ∉ unsendable) →
      host.text.toList.foldlM Met.step .start = none) := by
  cases hw with
  | @domain name _ hname =>
      have hf := foldlM_name hname .start
      exact ⟨fun hs => ⟨false, hf.1 hs⟩, hf.2⟩
  | @ipv4 address =>
      have hp : ∀ c ∈ (Host.ipv4 address).text.toList, isPlain c = true := by
        intro c hc
        rw [Host.text, String.toList_ofList] at hc
        obtain rfl | hc := isDigit_of_mem_ipv4 hc
        · decide
        · exact isPlain_of_isDigit hc
      have hs : ∀ c ∈ (Host.ipv4 address).text.toList, c ∉ unsendable :=
        fun c hc => not_unsendable_of_isPlain (hp c hc)
      exact ⟨fun _ => ⟨false, foldlM_of_isPlain hp _⟩, fun hn => absurd hs hn⟩
  | @ipv6 pieces hl =>
      have ht : (Host.ipv6 pieces).text.toList = '[' :: (Ipv6.text pieces ++ [']']) := by
        rw [Host.text, String.toList_ofList]
        rfl
      have hs : ∀ c ∈ (Host.ipv6 pieces).text.toList, c ∉ unsendable := by
        intro c hc
        rw [ht, List.mem_cons, List.mem_append, List.mem_singleton] at hc
        obtain rfl | hc | rfl := hc
        · decide
        · obtain rfl | hc := isLowerHex_of_mem_text hc
          · decide
          · exact not_unsendable_of_isPlain (isPlain_of_isLowerHex hc)
        · decide
      refine ⟨fun _ => ?_, fun hn => absurd hs hn⟩
      have hcount := count_colon_text hl
      rw [ht, List.foldlM_cons]
      have hopen : Met.step .start '[' = some ⟨0, true, false, false⟩ := rfl
      rw [hopen, Option.bind_eq_bind, Option.bind_some, List.foldlM_append,
        foldlM_ipv6 (fun c hc => isLowerHex_of_mem_text hc) _ (by dsimp only; omega)]
      exact ⟨true, rfl⟩

theorem foldlM_portText (bracketed : Bool) :
    ∃ colons ≤ 1, u.portText.toList.foldlM Met.step ⟨0, bracketed, bracketed, false⟩ =
      some ⟨colons, bracketed, bracketed, false⟩ := by
  rw [portText]
  split
  · exact ⟨0, Nat.zero_le 1, rfl⟩
  · rename_i port _
    refine ⟨1, Nat.le_refl 1, ?_⟩
    rw [String.toList_append, List.foldlM_append]
    have hcolon : ":".toList.foldlM Met.step ⟨0, bracketed, bracketed, false⟩ =
        some ⟨1, bracketed, bracketed, false⟩ := rfl
    rw [hcolon]
    exact foldlM_of_isPlain (fun c hc => isPlain_of_isDigit (Text.isDigit_of_mem_toString hc)) _

theorem at_not_mem_host (hw : host.IsWire) : '@' ∉ host.text.toList := by
  intro h
  cases hw with
  | domain _ hname => exact absurd (hname _ h).2 (by decide)
  | ipv4 =>
      rw [Host.text, String.toList_ofList] at h
      obtain h | h := isDigit_of_mem_ipv4 h
      · exact absurd h (by decide)
      · exact absurd h (by decide)
  | ipv6 =>
      rw [Host.text, String.toList_ofList, List.mem_append, List.mem_cons, List.mem_singleton] at h
      obtain (h | h) | h := h
      · exact absurd h (by decide)
      · obtain h | h := isLowerHex_of_mem_text h
        · exact absurd h (by decide)
        · exact absurd h (by decide)
      · exact absurd h (by decide)

theorem at_not_mem_portText : '@' ∉ u.portText.toList := by
  intro h
  rw [portText] at h
  split at h
  · cases h
  · rw [String.toList_append, List.mem_append] at h
    obtain h | h := h
    · exact absurd h (by decide)
    · exact absurd (Text.isDigit_of_mem_toString h) (by decide)

-- The last character is one of the host or the port.
theorem getLast?_authority (hw : host.IsWire) :
    (u.userinfoText ++ host.text ++ u.portText).toList.getLast? ≠ some '@' := by
  have hn : host.text.toList ++ u.portText.toList ≠ [] := by
    intro he
    exact hw.text_ne_empty (String.toList_eq_nil_iff.1 (List.append_eq_nil_iff.1 he).1)
  rw [String.toList_append, String.toList_append, List.append_assoc, List.getLast?_append,
    List.getLast?_eq_some_getLast hn, Option.some_or]
  intro he
  have hm := List.getLast_mem hn
  rw [Option.some.inj he, List.mem_append] at hm
  exact hm.elim (at_not_mem_host hw) at_not_mem_portText

theorem carriesAuthority_iff (hu : u.Formed) (hw : host.IsWire) :
    carriesAuthority (u.userinfoText ++ host.text ++ u.portText).toList = true ↔
      ∀ c ∈ host.text.toList, c ∉ unsendable := by
  have hlast := getLast?_authority (u := u) hw
  have hne : (u.userinfoText ++ host.text ++ u.portText).toList ≠ [] := by
    intro he
    rw [String.toList_append, String.toList_append] at he
    exact hw.text_ne_empty (String.toList_eq_nil_iff.1
      (List.append_eq_nil_iff.1 (List.append_eq_nil_iff.1 he).1).2)
  have hfold : (u.userinfoText ++ host.text ++ u.portText).toList.foldlM Met.step .start =
      (host.text.toList.foldlM Met.step .start).bind fun m =>
        u.portText.toList.foldlM Met.step m := by
    rw [String.toList_append, String.toList_append, List.foldlM_append, List.foldlM_append,
      foldlM_userinfoText hu]
    rfl
  generalize (u.userinfoText ++ host.text ++ u.portText).toList = s at hlast hne hfold
  by_cases hs : ∀ c ∈ host.text.toList, c ∉ unsendable
  · obtain ⟨bracketed, hb⟩ := (foldlM_host hw).1 hs
    obtain ⟨colons, hc, hp⟩ := foldlM_portText (u := u) bracketed
    rw [hb, Option.bind_some, hp, Met.start] at hfold
    rw [carriesAuthority, hfold, iff_true_right hs]
    simp [hne, hc, hlast]
  · rw [(foldlM_host hw).2 hs, Option.bind_none, Met.start] at hfold
    rw [carriesAuthority, hfold]
    simpa using hs

-- A request can name a web address that is not too long and whose host it can spell.
theorem carries_iff (hu : u.Formed) :
    carries u = true ↔
      u.text.utf8ByteSize ≤ maxLength ∧ ∀ c ∈ u.hostText.toList, c ∉ unsendable := by
  obtain ⟨host, hh, hw⟩ := hu.host
  have ht : u.hostText = host.text := by rw [hostText, hh]; rfl
  rw [carries, hh, Bool.and_eq_true, decide_eq_true_eq, ht]
  exact and_congr_right fun _ => carriesAuthority_iff hu hw

end Carries

end Http.RequestLine

end ProbeReport
