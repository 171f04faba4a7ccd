import IdentityLifecycle.Proofs.Issuing
import IdentityLifecycle.Proofs.Mailing

/-!
# Tokens in links

The value of a token is the whole last part of the link that it is mailed in, letter by letter, and
so the value that the holder of the link presents is the one in the table.
-/

namespace IdentityLifecycle.Ledger

/-- A value has four letters, digits, `-` or `_` for each three bytes, rounded up, and is another
one for other bytes. In every link that is made with it, it is all that stands behind the last
slash, and it is the value of the row that is stored. -/
theorem values_survive_links {ledger : Ledger} (hbytes : 1 ≤ ledger.tokenBytes)
    (random : ByteSource) :
    (∀ c ∈ (ledger.generateValue random).toList,
      ('A' ≤ c ∧ c ≤ 'Z') ∨ ('a' ≤ c ∧ c ≤ 'z') ∨ ('0' ≤ c ∧ c ≤ '9') ∨ c = '-' ∨ c = '_') ∧
    (ledger.generateValue random).length = (4 * ledger.tokenBytes + 2) / 3 ∧
    (∀ other : ByteSource, other.take ledger.tokenBytes ≠ random.take ledger.tokenBytes →
      ledger.generateValue other ≠ ledger.generateValue random) ∧
    (∀ (site : SiteDomain) (email name : String),
      let signup := Mail.signup site email name (ledger.generateValue random)
      let reset := Mail.passwordReset site email name (ledger.generateValue random)
      signup.link = site.url [] ++ "auth/signup/" ++ ledger.generateValue random ∧
      reset.link = site.url [] ++ "auth/reset-password/" ++ ledger.generateValue random ∧
      Text.afterLast '/' signup.link = ledger.generateValue random ∧
      Text.afterLast '/' reset.link = ledger.generateValue random) ∧
    ∀ {email : String} {type : TokenType} {now : Instant} {desk after : Desk} {token : Token},
      ledger.issue email type now random desk = (.ok token, after) →
      token.value = ledger.generateValue random ∧ after.store.database.HasToken token := by
  have hne := generateValue_ne_empty hbytes random
  have hfree := ledger.slash_not_mem_generateValue random
  refine ⟨?_, ledger.length_generateValue random, ?_, ?_, ?_⟩
  · intro c hc
    rw [toList_generateValue] at hc
    exact Text.Base64.isDigit_iff.mp (Text.Base64.isDigit_of_mem_encode _ c hc)
  · intro other hother hsame
    exact hother (generateValue_eq_iff.mp hsame)
  · intro site email name
    exact ⟨Mail.link_forToken site .signup email name hne hfree,
      Mail.link_forToken site .passwordReset email name hne hfree,
      Mail.afterLast_link_forToken site .signup email name hne hfree,
      Mail.afterLast_link_forToken site .passwordReset email name hne hfree⟩
  · intro email type now desk after token hissue
    obtain ⟨rfl, -⟩ := issue_eq_ok hissue
    exact ⟨rfl, hasToken_of_issue hissue⟩

theorem values_survive_links_of_two_bytes :
    let ledger : Ledger := ⟨2, 5, 5⟩
    let mail := Mail.passwordReset ⟨"localhost"⟩ "a@b" "n" (ledger.generateValue fun _ => 255)
    1 ≤ ledger.tokenBytes ∧ mail.link = "http://localhost/auth/reset-password/__8" ∧
      ∃ token after, ledger.issue "a@b" .passwordReset 1 (fun _ => 255)
          { store := { database := { tokens := some [] } } } = (.ok token, after) ∧
        after.store.database.HasToken token ∧ Text.afterLast '/' mail.link = token.value := by
  intro ledger mail
  have hbytes : 1 ≤ ledger.tokenBytes := by decide
  obtain ⟨-, -, -, hlinks, hstored⟩ := values_survive_links hbytes fun _ => 255
  obtain ⟨-, hlink, -, hlast⟩ := hlinks ⟨"localhost"⟩ "a@b" "n"
  obtain ⟨after, hissue, -⟩ := @issue_of_room ledger "a@b" .passwordReset 1 (fun _ => 255)
    { store := { database := { tokens := some [] } } } [] rfl rfl (by simp [TokenRow.RoomFor])
  obtain ⟨hvalue, hhas⟩ := hstored hissue
  refine ⟨hbytes, ?_, _, after, hissue, hhas, hlast.trans hvalue.symm⟩
  rw [hlink]
  decide

end IdentityLifecycle.Ledger
