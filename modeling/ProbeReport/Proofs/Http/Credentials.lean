import ProbeReport.Http.Fetch
import ProbeReport.Proofs.Sink
import ProbeReport.Proofs.Url.Percent

-- What becomes of the user and the password in an address that is asked for.
namespace ProbeReport

namespace Url

def withoutUserinfo (u : Url) : Url := { u with user := "", password := "" }

-- User and password go into the authorization. They cannot when the user is no text, and a
-- password that is none does not count.
def ShedsUserinfo (u : Url) : Prop :=
  IsReadable u.user ∧ (u.user ≠ "" ∨ IsReadable u.password)

theorem withoutUserinfo_eq_self {u : Url} (hu : u.user = "") (hp : u.password = "") :
    u.withoutUserinfo = u := by
  cases u
  cases hu
  cases hp
  rfl

end Url

namespace Http

open Credentials

section Credentials

variable {u : Url} {c : Credentials}

theorem ofUrl?_eq_some_iff :
    ofUrl? u = some c ↔
      Url.Encodes u.user c.user ∧
        c.password = (if u.password = "" then none
          else Text.Utf8.decode? (Url.Percent.decode u.password.toList)) ∧
        (c.user ≠ "" ∨ c.password.isSome) := by
  rw [← Url.decode?_eq_some_iff, ofUrl?]
  generalize (if u.password = "" then none
    else Text.Utf8.decode? (Url.Percent.decode u.password.toList)) = password
  cases Text.Utf8.decode? (Url.Percent.decode u.user.toList) with
  | none => simp
  | some user =>
      obtain ⟨user', password'⟩ := c
      simp only [Option.ite_none_right_eq_some, Option.some.injEq, Credentials.mk.injEq]
      constructor
      · rintro ⟨hc, rfl, rfl⟩
        exact ⟨rfl, rfl, hc⟩
      · rintro ⟨rfl, rfl, hc⟩
        exact ⟨hc, rfl, rfl⟩

theorem isSome_password_iff :
    (if u.password = "" then none
      else Text.Utf8.decode? (Url.Percent.decode u.password.toList)).isSome ↔
      u.password ≠ "" ∧ Url.IsReadable u.password := by
  split <;> simp_all [Url.isSome_decode?_iff]

theorem isSome_ofUrl?_iff :
    (ofUrl? u).isSome ↔ u.ShedsUserinfo ∧ (u.user ≠ "" ∨ u.password ≠ "") := by
  have hc {user : String} (hu : Url.Encodes u.user user) :
      user ≠ "" ∨ (if u.password = "" then none
        else Text.Utf8.decode? (Url.Percent.decode u.password.toList)).isSome ↔
      u.user ≠ "" ∨ u.password ≠ "" ∧ Url.IsReadable u.password := by
    rw [isSome_password_iff, Ne, hu.eq_empty_iff]
  rw [Option.isSome_iff_exists, Url.ShedsUserinfo]
  simp only [ofUrl?_eq_some_iff]
  constructor
  · rintro ⟨c, hu, hp, hs⟩
    have hs := (hc hu).1 (hp ▸ hs)
    exact ⟨⟨⟨c.user, hu⟩, hs.imp_right And.right⟩, hs.imp_right And.left⟩
  · rintro ⟨⟨⟨user, hu⟩, hs⟩, hn⟩
    refine ⟨⟨user, _⟩, hu, rfl, (hc hu).2 ?_⟩
    exact hn.elim .inl fun hp => hs.imp_right fun hr => ⟨hp, hr⟩

-- The address that is asked for first.
theorem firstHop_url (u : Url) :
    (u.ShedsUserinfo → (firstHop u).url = u.withoutUserinfo) ∧
      (¬u.ShedsUserinfo → (firstHop u).url = u) := by
  rw [firstHop]
  cases h : ofUrl? u with
  | some c =>
      have hs : (ofUrl? u).isSome := by rw [h]; rfl
      exact ⟨fun _ => rfl, fun hn => absurd (isSome_ofUrl?_iff.1 hs).1 hn⟩
  | none =>
      have hn : ¬(ofUrl? u).isSome := by simp [h]
      refine ⟨fun hs => ?_, fun _ => rfl⟩
      rw [isSome_ofUrl?_iff] at hn
      have hu : u.user = "" := Decidable.not_not.1 fun hu => hn ⟨hs, .inl hu⟩
      have hp : u.password = "" := Decidable.not_not.1 fun hp => hn ⟨hs, .inr hp⟩
      exact (Url.withoutUserinfo_eq_self hu hp).symm

end Credentials

end Http

end ProbeReport
