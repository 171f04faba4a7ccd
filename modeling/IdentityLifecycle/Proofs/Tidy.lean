import IdentityLifecycle.Proofs.Reachable

/-!
# Tidy tables

Ids and emails tell users apart, values and slots tell tokens apart, and every token is for the
email of a user. Unlike soundness, this does not depend on what the clock reads.
-/

namespace IdentityLifecycle

structure Tables.Tidy (tables : Tables) : Prop where
  ids_nodup : (tables.users.map (·.id)).Nodup
  emails_nodup : (tables.users.map (·.email)).Nodup
  slots_nodup : (tables.tokens.map fun token => (token.email, token.type)).Nodup
  values_nodup : (tables.tokens.map (·.value)).Nodup
  owned : ∀ token ∈ tables.tokens, ∃ user ∈ tables.users, user.email = token.email

namespace Tables

variable {tables : Tables}

theorem userWithEmail?_isSome_iff {email : String} :
    (tables.userWithEmail? email).isSome ↔ ∃ user ∈ tables.users, user.email = email := by
  simp [userWithEmail?]

namespace Tidy

theorem empty : Tidy {} where
  ids_nodup := List.nodup_nil
  emails_nodup := List.nodup_nil
  slots_nodup := List.nodup_nil
  values_nodup := List.nodup_nil
  owned := by simp

theorem owner (h : tables.Tidy) {token : Token} (htoken : token ∈ tables.tokens) :
    ∃ user, tables.userWithEmail? token.email = some user :=
  Option.isSome_iff_exists.mp (userWithEmail?_isSome_iff.mpr (h.owned token htoken))

theorem value_unique (h : tables.Tidy) {a b : Token} (ha : a ∈ tables.tokens)
    (hb : b ∈ tables.tokens) (hvalue : a.value = b.value) : a = b :=
  List.inj_on_of_nodup_map h.values_nodup ha hb hvalue

theorem slot_unique (h : tables.Tidy) {a b : Token} (ha : a ∈ tables.tokens)
    (hb : b ∈ tables.tokens) (hemail : a.email = b.email) (htype : a.type = b.type) : a = b :=
  List.inj_on_of_nodup_map h.slots_nodup ha hb (Prod.ext hemail htype)

theorem dropTokens (h : tables.Tidy) (drop : Token → Bool) : (tables.dropTokens drop).Tidy where
  ids_nodup := h.ids_nodup
  emails_nodup := h.emails_nodup
  slots_nodup := h.slots_nodup.sublist (List.filter_sublist.map _)
  values_nodup := h.values_nodup.sublist (List.filter_sublist.map _)
  owned := fun token htoken => h.owned token (mem_dropTokens.mp htoken).1

theorem addUser (h : tables.Tidy) {user : User}
    (hemail : tables.userWithEmail? user.email = none)
    (hid : tables.userWithId? user.id = none) : (tables.addUser user).Tidy where
  ids_nodup := by
    rw [addUser_users, List.map_append, List.nodup_append]
    refine ⟨h.ids_nodup, List.nodup_singleton _, ?_⟩
    simpa [userWithId?] using hid
  emails_nodup := by
    rw [addUser_users, List.map_append, List.nodup_append]
    refine ⟨h.emails_nodup, List.nodup_singleton _, ?_⟩
    simpa [userWithEmail?] using hemail
  slots_nodup := h.slots_nodup
  values_nodup := h.values_nodup
  owned := by
    intro token htoken
    obtain ⟨owner, howner, howns⟩ := h.owned token htoken
    exact ⟨owner, List.mem_append_left _ howner, howns⟩

/-- A column of the tokens stays without repetitions if the new entry is not in the rest of it. -/
theorem nodup_replaceToken {α : Type} {column : Token → α} {new : Token}
    (hold : (tables.tokens.map column).Nodup)
    (hnew : ∀ token ∈ (tables.dropTokens (·.isFor new.email new.type)).tokens,
      column token ≠ column new) :
    ((tables.replaceToken new).tokens.map column).Nodup := by
  rw [replaceToken, addToken, List.map_append, List.nodup_append]
  refine ⟨hold.sublist (List.filter_sublist.map _), List.nodup_singleton _, ?_⟩
  intro entry hentry other hother
  obtain ⟨token, htoken, rfl⟩ := List.mem_map.mp hentry
  rw [List.map_singleton, List.mem_singleton] at hother
  rw [hother]
  exact hnew token htoken

theorem replaceToken (h : tables.Tidy) {new : Token}
    (howner : ∃ user ∈ tables.users, user.email = new.email) (hroom : tables.HasRoomFor new) :
    (tables.replaceToken new).Tidy where
  ids_nodup := h.ids_nodup
  emails_nodup := h.emails_nodup
  slots_nodup := by
    -- the token that had the slot is the one that was dropped
    refine nodup_replaceToken h.slots_nodup ?_
    intro token htoken
    simpa [Token.isFor] using (mem_dropTokens.mp htoken).2
  values_nodup := nodup_replaceToken h.values_nodup hroom.value_ne
  owned := by
    intro token htoken
    rcases mem_replaceToken.mp htoken with ⟨htoken, -⟩ | rfl
    · exact h.owned token htoken
    · exact howner

theorem changeUser (h : tables.Tidy) {change : User → User} (email : String)
    (hid : ∀ user, (change user).id = user.id)
    (hemail : ∀ user, (change user).email = user.email) :
    (tables.changeUser email change).Tidy where
  ids_nodup := by
    rw [map_changeUser _ hid]
    exact h.ids_nodup
  emails_nodup := by
    rw [map_changeUser _ hemail]
    exact h.emails_nodup
  slots_nodup := h.slots_nodup
  values_nodup := h.values_nodup
  owned := by
    intro token htoken
    have howner := userWithEmail?_isSome_iff.mpr (h.owned token htoken)
    refine userWithEmail?_isSome_iff.mp ?_
    rw [userWithEmail?_changeUser hemail, Option.isSome_map]
    exact howner

theorem withPassword (h : tables.Tidy) (email : String) (hashed : HashedPassword) :
    (tables.changeUser email (·.withPassword hashed)).Tidy :=
  h.changeUser email (fun _ => rfl) (fun _ => rfl)

end Tidy

end Tables

/-- Step of the invariant: a call that succeeds keeps the tables tidy, at any instant. -/
theorem Effect.tidy {service : Service} {around : Surroundings} {before after : Tables}
    {call : Call} {answer : Answer} {mails : List Posting}
    (heffect : Effect service around before call answer mails after) (h : before.Tidy) :
    after.Tidy := by
  cases heffect with
  | read hcall => exact h
  | @registered email name password user hnew hemail hid hroom =>
    exact (h.addUser hemail hid).replaceToken ⟨user, by simp, rfl⟩ hroom
  | issued hnormal huser hsuits hroom =>
    exact h.replaceToken ⟨_, Tables.of_userWithEmail?_eq_some huser⟩ hroom
  | confirmed hvalue htoken huser => exact (h.dropTokens _).changeUser _ (by simp) (by simp)
  | recovered hnew htoken huser => exact (h.dropTokens _).withPassword _ _
  | changed hnew huser => exact (h.withPassword _ _).dropTokens _
  | purged => exact h.dropTokens _

/-- The id and the token value that were drawn are nobody's yet. -/
structure Surroundings.Fresh (around : Surroundings) (service : Service) (tables : Tables) :
    Prop where
  userId : tables.userWithId? around.userId = none
  value : ∀ token ∈ tables.tokens, token.value ≠ service.ledger.generateValue around.token

theorem Surroundings.Fresh.id_ne {around : Surroundings} {service : Service} {tables : Tables}
    (h : around.Fresh service tables) {user : User} (huser : user ∈ tables.users) :
    user.id ≠ around.userId := by
  have hnone := h.userId
  simp only [Tables.userWithId?, List.find?_eq_none, decide_eq_true_eq] at hnone
  exact hnone user huser

theorem Call.ending_tidy (service : Service) (around : Surroundings) (call : Call) {view : View}
    (h : view.tables.Tidy) : (call.ending service around view).2.tables.Tidy := by
  obtain hsame | ⟨answer, mails, heffect⟩ := call.ending_tables service around view
  · rwa [hsame]
  · exact heffect.tidy h

/-- The tables of every reachable session are tidy. -/
theorem Session.Reachable.tidy {s : Session} (hs : s.Reachable) : s.view.tables.Tidy := by
  induction hs with
  | fresh cache =>
    rw [(Session.fresh_shows cache).view_eq]
    exact .empty
  | @served s service hs hchecked request ih =>
    rw [(service.serve_shows request hs.shows).view_eq]
    exact request.call.ending_tidy service request.around ih
  | cached hs cache ih => exact ih

end IdentityLifecycle
