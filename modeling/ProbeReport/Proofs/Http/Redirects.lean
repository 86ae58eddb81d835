import Mathlib.Data.List.Chain
import Mathlib.Data.List.TakeWhile
import ProbeReport.Http.Redirect
import ProbeReport.Proofs.Http.Course
import ProbeReport.Proofs.Text.Utf8

-- What a client documents of the redirects that it follows, and where asking for an address leads
-- through such a client.
namespace ProbeReport.Http

-- What a location names to somebody who asked for an address. A fragment is never sent.
def Resolves [Url.Idna] (u : Url) (value : List UInt8) (v : Url) : Prop :=
  ∃ reference target, Text.Utf8.decode? (Answer.trimHeader value) = some reference ∧
    u.resolve reference = .ok target ∧ v = { target with fragment := none }

-- Characters that stand for themselves in every reference.
def IsReferenceChar (c : Char) : Prop :=
  c.isAlphanum = true ∨ c ∈ "-._~:/?#@!$&'()*+,;=".toList

instance (c : Char) : Decidable (IsReferenceChar c) := inferInstanceAs (Decidable (_ ∨ _))

-- A reference that leaves nothing to be read in two ways: it names a web address in the words of
-- that address, in full or without its authority.
structure NamesPlainly [Url.Idna] (u : Url) (reference : String) (v : Url) : Prop where
  plain : ∀ c ∈ reference.toList, IsReferenceChar c
  text : reference = v.text ∨ reference = v.resource
  resolves : u.resolve reference = .ok v
  isWeb : v.isWeb = true
  carried : RequestLine.carries v = true

-- An answer redirects whoever asked for an address to another one. Which locations can be used,
-- and what they name, is for the client to say.
structure Answer.Redirects (a : Answer) (usable? : Url → List UInt8 → Option Url) (u v : Url) :
    Prop where
  status : a.status ∈ [301, 302, 303, 307, 308]
  location : ∃ value, a.location = some value ∧ usable? u value = some v

-- What is documented of a client that follows redirects: ten at most, each to what its location
-- names as seen from the address that was asked for, as long as that is a web address. It gives up
-- when it would have to go on elsewhere or once more, and takes every other answer.
structure Client.FollowsLocations [Url.Idna] (client : Client)
    (usable? : Url → List UInt8 → Option Url) : Prop where
  patience : client.patience = 10
  resolves {u v : Url} {value : List UInt8} : usable? u value = some v → Resolves u value v
  plain {u v : Url} {reference : String} :
    NamesPlainly u reference v → usable? u (utf8 reference) = some { v with fragment := none }
  takes (left : Nat) {hop : Hop} (trail : List Hop) {a : Answer} :
    (∀ v, ¬a.Redirects usable? hop.url v) → client.heed left (hop :: trail) a = .take
  asks (left : Nat) {hop : Hop} (trail : List Hop) {a : Answer} {v : Url} :
    a.Redirects usable? hop.url v → v.isWeb = true →
    ∃ authorization, client.heed (left + 1) (hop :: trail) a = .ask ⟨v, authorization⟩
  refuses (left : Nat) {hop : Hop} (trail : List Hop) {a : Answer} {v : Url} :
    a.Redirects usable? hop.url v → v.isWeb = false →
    ∃ causes, client.heed left (hop :: trail) a = .giveUp causes
  tires {hop : Hop} (trail : List Hop) {a : Answer} {v : Url} :
    a.Redirects usable? hop.url v → ∃ causes, client.heed 0 (hop :: trail) a = .giveUp causes

theorem toOption_eq_some_iff {ε α : Type} {x : Except ε α} {value : α} :
    x.toOption = some value ↔ x = .ok value := by
  cases x <;> simp [Except.toOption]

-- Nothing is trimmed off such a reference.
theorem trimHeader_utf8 {reference : String} (h : ∀ c ∈ reference.toList, IsReferenceChar c) :
    Answer.trimHeader (utf8 reference) = utf8 reference := by
  have hnot {c : Char} (hc : c.toNat < 0x80) (hn : ¬IsReferenceChar c) :
      UInt8.ofNat c.toNat ∉ utf8 reference := by
    intro hb
    obtain ⟨d, hd, hb⟩ := List.mem_flatMap.1 hb
    rw [Text.Utf8.eq_of_mem_utf8EncodeChar hc hb] at hd
    exact hn (h c hd)
  have hblank : ∀ b ∈ utf8 reference, Answer.isHeaderBlank b = false := by
    intro b hb
    have hs : b ≠ 0x20 := by
      rintro rfl
      exact hnot (c := ' ') (by decide) (by decide) hb
    have ht : b ≠ 0x09 := by
      rintro rfl
      exact hnot (c := '\t') (by decide) (by decide) hb
    simp [Answer.isHeaderBlank, hs, ht]
  have hdrop {bytes : List UInt8} (hb : ∀ b ∈ bytes, Answer.isHeaderBlank b = false) :
      bytes.dropWhile Answer.isHeaderBlank = bytes :=
    List.dropWhile_eq_self_iff.2 fun hl => by simp [hb _ (List.getElem_mem hl)]
  rw [Answer.trimHeader, hdrop hblank, hdrop fun b hb => hblank b (List.mem_reverse.1 hb),
    List.reverse_reverse]

section Standard

variable [Url.Idna] {u v : Url} {a : Answer}

theorem locate?_eq_some_iff {value : List UInt8} :
    Client.locate? u value = some v ↔
      ∃ reference target, Text.Utf8.decode? (Answer.trimHeader value) = some reference ∧
        u.resolve reference = .ok target ∧ RequestLine.carries target = true ∧
        v = { target with fragment := none } := by
  rw [Client.locate?]
  simp only [Option.bind_eq_bind, Option.bind_eq_some_iff, toOption_eq_some_iff,
    Option.ite_none_right_eq_some, Option.some.injEq]
  constructor
  · rintro ⟨reference, hf, target, ht, hc, rfl⟩
    exact ⟨reference, target, hf, ht, hc, rfl⟩
  · rintro ⟨reference, target, hf, ht, hc, rfl⟩
    exact ⟨reference, hf, target, ht, hc, rfl⟩

theorem target?_eq_some_iff :
    Client.target? u a = some v ↔ a.Redirects Client.locate? u v := by
  rw [Client.target?, Option.ite_none_right_eq_some, Option.bind_eq_some_iff,
    List.contains_iff_mem]
  exact ⟨fun ⟨hs, hl⟩ => ⟨hs, hl⟩, fun ⟨hs, hl⟩ => ⟨hs, hl⟩⟩

theorem heed_of_target? (left : Nat) {hop : Hop} (trail : List Hop)
    (h : Client.target? hop.url a = some v) :
    Client.standard.heed left (hop :: trail) a =
      match left with
      | 0 => .giveUp (Client.tooManyRedirects hop.url.requestText)
      | _ + 1 =>
        if v.isWeb then .ask (hop.next v) else .giveUp (Failure.foreign v.text) := by
  cases left <;> simp only [Client.standard, h]

-- The standard client does what is documented.
theorem standard_followsLocations : Client.standard.FollowsLocations Client.locate? where
  patience := rfl
  resolves h := by
    obtain ⟨reference, target, hf, ht, -, rfl⟩ := locate?_eq_some_iff.1 h
    exact ⟨reference, target, hf, ht, rfl⟩
  plain {u v reference} h := by
    refine locate?_eq_some_iff.2 ⟨reference, v, ?_, h.resolves, h.carried, rfl⟩
    rw [trimHeader_utf8 h.plain]
    exact Text.Utf8.decode?_eq_some_iff.2 rfl
  takes left hop trail a h := by
    have ht : Client.target? hop.url a = none := by
      rw [Option.eq_none_iff_forall_ne_some]
      exact fun v hv => h v (target?_eq_some_iff.1 hv)
    simp only [Client.standard, ht]
  asks left hop trail a v h hw := by
    rw [heed_of_target? (left + 1) trail (target?_eq_some_iff.2 h)]
    exact ⟨_, if_pos hw⟩
  refuses left hop trail a v h hw := by
    rw [heed_of_target? left trail (target?_eq_some_iff.2 h)]
    cases left with
    | zero => exact ⟨_, rfl⟩
    | succ left => exact ⟨_, if_neg (by simp [hw])⟩
  tires trail _ _ h := ⟨_, heed_of_target? 0 trail (target?_eq_some_iff.2 h)⟩

end Standard

end ProbeReport.Http
