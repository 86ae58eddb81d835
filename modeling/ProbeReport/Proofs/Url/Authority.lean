import ProbeReport.Proofs.Url.Domain
import ProbeReport.Proofs.Url.Percent
import ProbeReport.Url.Parser

-- Blanks behind an authority are not passed over: they make it unreadable.
namespace ProbeReport.Url

def AreBlanks (w : List Char) : Prop := ∀ c ∈ w, c.toNat ≤ 0x20

section Blanks

variable {w : List Char}

theorem AreBlanks.not_mem (hw : AreBlanks w) {c : Char} (hc : 0x20 < c.toNat) : c ∉ w :=
  fun h => by
    have := hw c h
    omega

-- A mark that the front does not hold is looked for behind it.
theorem cut?_append {mark : Char} {front : List Char} (hf : mark ∉ front) (s : List Char) :
    cut? mark (front ++ s) = (cut? mark s).map fun (before, after) => (front ++ before, after) := by
  have hn : ∀ c ∈ front, (decide (c ≠ mark)) = true := fun c hc =>
    decide_eq_true fun he => hf (he ▸ hc)
  rw [cut?, cut?, List.dropWhile_append_of_pos hn, List.takeWhile_append_of_pos hn]
  cases s.dropWhile (· ≠ mark) <;> rfl

theorem cutLast?_append {mark : Char} (hw : mark ∉ w) (s : List Char) :
    cutLast? mark (s ++ w) = (cutLast? mark s).map fun (before, after) => (before, after ++ w) := by
  have hr : mark ∉ w.reverse := fun h => hw (List.mem_reverse.1 h)
  rw [cutLast?, cutLast?, List.reverse_append, cut?_append hr]
  cases cut? mark s.reverse with
  | none => rfl
  | some parts => simp

theorem splitPort_of_not_mem (hw : ':' ∉ w) (inside : Bool) : splitPort inside w = (w, none) := by
  induction w generalizing inside with
  | nil => rfl
  | cons c w ih =>
      rw [List.mem_cons, not_or] at hw
      rw [splitPort, if_neg (by simp [Ne.symm hw.1])]
      dsimp only
      rw [ih hw.2]

-- What stands behind belongs to the port, and to the host when there is no port.
theorem splitPort_append (hw : ':' ∉ w) (inside : Bool) (s : List Char) :
    splitPort inside (s ++ w) =
      match splitPort inside s with
      | (host, none) => (host ++ w, none)
      | (host, some port) => (host, some (port ++ w)) := by
  induction s generalizing inside with
  | nil => exact splitPort_of_not_mem hw inside
  | cons c s ih =>
      rw [List.cons_append, splitPort, splitPort]
      split
      · rfl
      · dsimp only
        rw [ih]
        cases splitPort (if c = '[' then true else if c = ']' then false else inside) s with
        | mk host port => cases port <;> rfl

theorem parsePort_append (hw : AreBlanks w) (hn : w ≠ []) (scheme : String) (s : List Char) :
    parsePort scheme (s ++ w) = .error .invalidPort := by
  obtain ⟨c, hc⟩ := List.exists_mem_of_ne_nil w hn
  have hd : Text.isDigit c = false := by
    have hl : ¬('0' ≤ c) := fun h => by
      have h : 0x30 ≤ c.toNat := h
      have := hw c hc
      omega
    simp [Text.isDigit, hl]
  rw [parsePort, if_neg]
  rintro ⟨ha, -⟩
  have := List.all_eq_true.1 ha c (List.mem_append_right s hc)
  rw [hd] at this
  cases this

-- A blank is neither a closing bracket nor part of a name.
theorem Host.parse_append [Idna] (hw : AreBlanks w) (hn : w ≠ []) (s : List Char) (host : Host) :
    Host.parse (s ++ w) ≠ .ok host := by
  obtain ⟨c, hc⟩ := List.exists_mem_of_ne_nil w hn
  have hm : c ∈ s ++ w := List.mem_append_right s hc
  rw [Host.parse]
  split
  · have hl : (s ++ w).getLast? ≠ some ']' := by
      rw [List.getLast?_append, List.getLast?_eq_some_getLast hn, Option.some_or]
      intro he
      exact hw.not_mem (by decide) (Option.some.inj he ▸ List.getLast_mem hn)
    rw [Host.ofBracketed?, if_neg hl]
    intro h
    cases h
  · have hd : (Text.Utf8.decode? (Percent.decode (s ++ w))).bind
        (fun name => Domain.toAscii? name.toList) = none := by
      rw [Option.bind_eq_none_iff]
      intro name hname
      have hb := Percent.mem_decode (hw c hc) hm
      rw [← Text.Utf8.decode?_eq_some_iff.1 hname, utf8, List.mem_flatMap] at hb
      obtain ⟨d, hd, he⟩ := hb
      have hlt := hw c hc
      have hdc := Text.Utf8.eq_of_mem_utf8EncodeChar (by omega) he
      exact Domain.toAscii?_of_blank hlt (hdc ▸ hd)
    rw [hd]
    intro h
    cases h

end Blanks

theorem bind_eq_ok_iff {ε α β : Type} {x : Except ε α} {f : α → Except ε β} {r : β} :
    (x >>= f) = .ok r ↔ ∃ a, x = .ok a ∧ f a = .ok r := by
  cases x with
  | error e => exact ⟨nofun, nofun⟩
  | ok a =>
      refine ⟨fun h => ⟨a, rfl, h⟩, ?_⟩
      rintro ⟨b, h, hf⟩
      cases h
      exact hf

section Reading

variable [Idna]

-- What makes up an authority that can be read.
theorem Authority.parse_eq_ok {scheme : String} (hs : isSpecial scheme = true) {s : List Char}
    {a : Authority} (h : Authority.parse scheme s = .ok a) :
    ∃ host port, splitPort false ((cutLast? '@' s).getD ([], s)).2 = (host, port) ∧
      host ≠ [] ∧ Host.parse host = .ok a.host ∧ parsePort scheme (port.getD []) = .ok a.port := by
  unfold Authority.parse at h
  simp only [hs, if_true, true_or, and_true] at h
  split at h
  · cases h
  · rename_i hn
    obtain ⟨host, hh, h⟩ := bind_eq_ok_iff.1 h
    obtain ⟨port, hp, h⟩ := bind_eq_ok_iff.1 h
    cases h
    exact ⟨_, _, rfl, hn, hh, hp⟩

theorem Authority.parse_append {scheme : String} (hs : isSpecial scheme = true) {w : List Char}
    (hw : AreBlanks w) (hn : w ≠ []) (s : List Char) (a : Authority) :
    Authority.parse scheme (s ++ w) ≠ .ok a := by
  intro h
  obtain ⟨host, port, hp, -, hh, hport⟩ := Authority.parse_eq_ok hs h
  have hc : ((cutLast? '@' (s ++ w)).getD ([], s ++ w)).2 =
      ((cutLast? '@' s).getD ([], s)).2 ++ w := by
    rw [cutLast?_append (hw.not_mem (by decide))]
    cases cutLast? '@' s <;> rfl
  rw [hc, splitPort_append (hw.not_mem (by decide))] at hp
  cases hsp : splitPort false ((cutLast? '@' s).getD ([], s)).2 with
  | mk front back =>
      rw [hsp] at hp
      cases back with
      | none =>
          cases hp
          exact Host.parse_append hw hn front _ hh
      | some digits =>
          cases hp
          rw [Option.getD_some, parsePort_append hw hn] at hport
          cases hport

end Reading

end ProbeReport.Url
