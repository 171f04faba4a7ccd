import IdentityLifecycle.Proofs.CacheEntries
import IdentityLifecycle.Proofs.Effects
import IdentityLifecycle.Proofs.Failure
import Mathlib.Data.List.Nodup

/-!
# Users that a table knows

Rows may hold anything, but what callers see of a user whose row can be read stays as it is from
then on: statements add rows and change passwords and stamps, and they never make a key ambiguous.
-/

namespace IdentityLifecycle

/-! ### Rows -/

theorem Cell.readText_eq_ok {column : String} {cell : Cell} {s : String} :
    cell.readText column = .ok s ↔ cell = .text s ∨ (cell = .null ∧ s = "") := by
  cases cell <;> simp [readText, eq_comm]

namespace UserRow

def public? (row : UserRow) : Option PublicUser := row.decode.toOption.map User.toPublic

/-- Every user has an id, and no two users have the same id or the same email. -/
structure Keyed (rows : List UserRow) : Prop where
  ids_present : ∀ row ∈ rows, row.id ≠ .null
  ids_nodup : (rows.map (·.id)).Nodup
  emails_nodup : (rows.map (·.email)).Nodup

structure Keeps (change : UserRow → UserRow) : Prop where
  id : ∀ row, (change row).id = row.id
  email : ∀ row, (change row).email = row.email
  public? : ∀ row, (change row).public? = row.public?

variable {row : UserRow} {user : User} {seen : PublicUser} {rows : List UserRow}

theorem decode_eq_ok :
    row.decode = .ok user ↔
      row.id.readText "id" = .ok user.id ∧ row.email.readText "email" = .ok user.email ∧
        row.name.readText "name" = .ok user.name ∧ row.password = user.password ∧
          row.verifiedAt.readInteger "verified_at" = .ok user.verifiedAt := by
  obtain ⟨id, email, name, password, verifiedAt⟩ := user
  simp only [decode, bind_eq_ok, pure, Except.pure, Except.ok.injEq, User.mk.injEq]
  constructor
  · rintro ⟨_, hid, _, hemail, _, hname, _, hverified, rfl, rfl, rfl, rfl, rfl⟩
    exact ⟨hid, hemail, hname, rfl, hverified⟩
  · rintro ⟨hid, hemail, hname, hpassword, hverified⟩
    exact ⟨_, hid, _, hemail, _, hname, _, hverified, rfl, rfl, rfl, hpassword, rfl⟩

theorem public?_of_decode (hdecode : row.decode = .ok user) : row.public? = some user.toPublic := by
  rw [public?, hdecode]
  rfl

theorem decode_of_public? (hseen : row.public? = some seen) :
    ∃ user, row.decode = .ok user ∧ user.toPublic = seen := by
  unfold public? at hseen
  cases hdecode : row.decode with
  | error e =>
    rw [hdecode] at hseen
    cases hseen
  | ok user =>
    rw [hdecode] at hseen
    exact ⟨user, rfl, Option.some.inj hseen⟩

theorem cells_of_public? (hseen : row.public? = some seen) :
    row.id.readText "id" = .ok seen.id ∧ row.email.readText "email" = .ok seen.email := by
  obtain ⟨user, hdecode, rfl⟩ := decode_of_public? hseen
  obtain ⟨hid, hemail, -⟩ := decode_eq_ok.mp hdecode
  exact ⟨hid, hemail⟩

theorem keeps_password (password : HashedPassword) : Keeps fun row => { row with password } where
  id := fun _ => rfl
  email := fun _ => rfl
  public? := by
    intro row
    unfold UserRow.public? decode
    cases row.id.readText "id" <;> cases row.email.readText "email" <;>
      cases row.name.readText "name" <;> cases row.verifiedAt.readInteger "verified_at" <;> rfl

theorem keeps_stamp (now : Instant) : Keeps (·.stamp now) where
  id := by
    intro row
    unfold stamp
    split <;> rfl
  email := by
    intro row
    unfold stamp
    split <;> rfl
  public? := by
    intro row
    unfold stamp
    -- Only a stamp that can be read, zero, is ever changed.
    split
    · next hzero =>
      unfold UserRow.public? decode
      rw [hzero]
      cases row.id.readText "id" <;> cases row.email.readText "email" <;>
        cases row.name.readText "name" <;> rfl
    · rfl

/-- A change of some of the rows. -/
theorem Keeps.ite {change : UserRow → UserRow} (h : Keeps change) (p : UserRow → Bool) :
    Keeps fun row => if p row then change row else row := by
  refine ⟨?_, ?_, ?_⟩ <;> intro row <;> by_cases hp : p row = true
  · simp [hp, h.id]
  · simp [hp]
  · simp [hp, h.email]
  · simp [hp]
  · simp [hp, h.public?]
  · simp [hp]

theorem Keyed.map {change : UserRow → UserRow} (h : Keyed rows) (hkeeps : Keeps change) :
    Keyed (rows.map change) where
  ids_present := by
    intro row hrow
    obtain ⟨old, hold, rfl⟩ := List.mem_map.mp hrow
    rw [hkeeps.id]
    exact h.ids_present old hold
  ids_nodup := by
    have hids : (rows.map change).map (·.id) = rows.map (·.id) := by simp [hkeeps.id]
    rw [hids]
    exact h.ids_nodup
  emails_nodup := by
    have hemails : (rows.map change).map (·.email) = rows.map (·.email) := by simp [hkeeps.email]
    rw [hemails]
    exact h.emails_nodup

/-- A row without a fault repeats no key. -/
theorem keys_free_of_fault? (hfault : fault? rows user.row = none) :
    (∀ row ∈ rows, row.email ≠ user.row.email) ∧ ∀ row ∈ rows, row.id ≠ user.row.id := by
  have hemail : user.row.email ≠ .null := Cell.noConfusion
  have hname : user.row.name ≠ .null := Cell.noConfusion
  have hverified : user.row.verifiedAt ≠ .null := Cell.noConfusion
  have hid : user.row.id ≠ .null := Cell.noConfusion
  rw [fault?, if_neg hemail, if_neg hname, if_neg hverified] at hfault
  by_cases hemails : rows.any (·.email = user.row.email) = true
  · rw [if_pos hemails] at hfault
    cases hfault
  · rw [if_neg hemails] at hfault
    by_cases hids : (decide (user.row.id ≠ .null) && rows.any (·.id = user.row.id)) = true
    · rw [if_pos hids] at hfault
      cases hfault
    · exact ⟨by simpa using hemails, by simpa [hid] using hids⟩

/-- A new user who breaks no constraint has keys of its own. -/
theorem Keyed.append (h : Keyed rows) (hfault : fault? rows user.row = none) :
    Keyed (rows ++ [user.row]) := by
  obtain ⟨hemails, hids⟩ := keys_free_of_fault? hfault
  refine ⟨?_, ?_, ?_⟩
  · intro row hrow
    rcases List.mem_append.mp hrow with hrow | hrow
    · exact h.ids_present row hrow
    · rw [List.mem_singleton.mp hrow]
      exact Cell.noConfusion
  · rw [List.map_append, List.nodup_append]
    refine ⟨h.ids_nodup, List.nodup_singleton _, ?_⟩
    simpa using hids
  · rw [List.map_append, List.nodup_append]
    refine ⟨h.emails_nodup, List.nodup_singleton _, ?_⟩
    simpa using hemails

end UserRow

/-! ### Tables -/

namespace Database

/-- Every user in the table of users has an id, and ids as well as emails are distinct. A row
without an id would be read as one with the empty id, though no look-up finds it under that. -/
def Keyed (db : Database) : Prop := ∀ rows, db.users = some rows → UserRow.Keyed rows

def Knows (db : Database) (seen : PublicUser) : Prop :=
  ∃ rows, db.users = some rows ∧ ∃ row ∈ rows, row.public? = some seen

variable {db : Database} {seen other : PublicUser}

theorem Keyed.id_of_knows (hkeyed : db.Keyed) {rows : List UserRow} (hrows : db.users = some rows)
    {row : UserRow} (hrow : row ∈ rows) (hseen : row.public? = some seen) :
    row.id = .text seen.id := by
  rcases Cell.readText_eq_ok.mp (UserRow.cells_of_public? hseen).1 with hid | ⟨hnull, -⟩
  · exact hid
  · exact absurd hnull ((hkeyed rows hrows).ids_present row hrow)

/-- An id belongs to one known user. -/
theorem Keyed.eq_of_id (hkeyed : db.Keyed) (hseen : db.Knows seen) (hother : db.Knows other)
    (hid : other.id = seen.id) : other = seen := by
  obtain ⟨rows, hrows, row, hrow, hpublic⟩ := hseen
  obtain ⟨rows', hrows', row', hrow', hpublic'⟩ := hother
  obtain rfl : rows = rows' := Option.some.inj (hrows.symm.trans hrows')
  have hcells : row'.id = row.id := by
    rw [hkeyed.id_of_knows hrows hrow hpublic, hkeyed.id_of_knows hrows hrow' hpublic', hid]
  obtain rfl := List.inj_on_of_nodup_map (hkeyed rows hrows).ids_nodup hrow' hrow hcells
  exact Option.some.inj (hpublic'.symm.trans hpublic)

end Database

/-- What statements do to a store, as far as looking users up is concerned. -/
structure Store.Evolves (before after : Store) : Prop where
  closed : after.closed = before.closed
  keyed : before.database.Keyed → after.database.Keyed
  knows : ∀ seen, before.database.Knows seen → after.database.Knows seen

namespace Store.Evolves

variable {a b c : Store}

theorem refl (a : Store) : a.Evolves a := ⟨rfl, id, fun _ => id⟩

theorem trans (hab : a.Evolves b) (hbc : b.Evolves c) : a.Evolves c :=
  ⟨hbc.closed.trans hab.closed, hbc.keyed ∘ hab.keyed, fun seen => hbc.knows seen ∘ hab.knows seen⟩

/-- A change of other tables. -/
theorem of_users (hclosed : b.closed = a.closed) (husers : b.database.users = a.database.users) :
    a.Evolves b where
  closed := hclosed
  keyed := by
    unfold Database.Keyed
    rw [husers]
    exact id
  knows := by
    unfold Database.Knows
    rw [husers]
    exact fun _ => id

/-- A change of rows that keeps whatever identifies users. -/
theorem of_map {rows : List UserRow} (hrows : a.database.users = some rows)
    {change : UserRow → UserRow} (hkeeps : UserRow.Keeps change) :
    a.Evolves { a with database.users := some (rows.map change) } where
  closed := rfl
  keyed := by
    rintro hkeyed _ ⟨⟩
    exact (hkeyed rows hrows).map hkeeps
  knows := by
    rintro seen ⟨rows', hrows', row, hrow, hseen⟩
    obtain rfl : rows = rows' := Option.some.inj (hrows.symm.trans hrows')
    refine ⟨_, rfl, change row, List.mem_map_of_mem hrow, ?_⟩
    rw [hkeeps.public?, hseen]

theorem of_append {rows : List UserRow} (hrows : a.database.users = some rows) {user : User}
    (hfault : UserRow.fault? rows user.row = none) :
    a.Evolves { a with database.users := some (rows ++ [user.row]) } where
  closed := rfl
  keyed := by
    rintro hkeyed _ ⟨⟩
    exact (hkeyed rows hrows).append hfault
  knows := by
    rintro seen ⟨rows', hrows', row, hrow, hseen⟩
    obtain rfl : rows = rows' := Option.some.inj (hrows.symm.trans hrows')
    exact ⟨_, rfl, row, List.mem_append_left _ hrow, hseen⟩

end Store.Evolves

/-! ### Statements -/

namespace Query

variable {α β : Type} {desk : Desk}

def Evolves (q : Query α) : Prop := ∀ desk : Desk, desk.store.Evolves (q desk).2.store

theorem ReadsOnly.evolves {q : Query α} (hq : q.ReadsOnly) : q.Evolves := by
  intro desk
  rw [hq desk]
  exact .refl _

theorem Evolves.bind {q : Query α} {next : α → Query β} (hq : q.Evolves)
    (hnext : ∀ a, (next a).Evolves) : (q >>= next).Evolves := by
  intro desk
  have hfirst := hq desk
  rw [Step.bind_apply]
  generalize q desk = result at hfirst ⊢
  obtain ⟨e | a, after⟩ := result
  · exact hfirst
  · exact hfirst.trans (hnext a after)

theorem readsOnly_writing (context : String) : (writing context).ReadsOnly := by
  intro desk
  unfold writing
  split <;> rfl

/-- Changing users ends at once and leaves the store, or answers from the changed rows. -/
theorem updateUser_cases (context email : String) (change : UserRow → UserRow) (desk : Desk) :
    (∃ e, updateUser context email change desk = (.error e, desk)) ∨
      ∃ rows, desk.store.database.users = some rows ∧
        let rows := rows.map fun row => if row.hasEmail email then change row else row
        updateUser context email change desk =
          decodeUser (rows.find? (·.hasEmail email))
            { desk with store.database.users := some rows } := by
  unfold updateUser
  rw [Step.bind_apply]
  unfold usersFor
  cases hrows : desk.store.database.users with
  | none => exact .inl ⟨_, rfl⟩
  | some rows =>
    dsimp only
    rw [Step.bind_apply]
    unfold writing
    cases desk.store.writeBarrier with
    | some e => exact .inl ⟨_, rfl⟩
    | none => exact .inr ⟨rows, rfl, rfl⟩

/-- Either nothing has happened, or the new row is the last of the table. -/
theorem createUser_cases (user : User) (desk : Desk) :
    (∃ e, createUser user desk = (.error e, desk)) ∨
      ∃ rows, desk.store.database.users = some rows ∧ UserRow.fault? rows user.row = none ∧
        createUser user desk =
          (.ok (), { desk with store.database.users := some (rows ++ [user.row]) }) := by
  unfold createUser
  dsimp only
  rw [Step.bind_apply]
  unfold usersFor
  cases hrows : desk.store.database.users with
  | none => exact .inl ⟨_, rfl⟩
  | some rows =>
    dsimp only
    rw [Step.bind_apply]
    unfold writing
    cases desk.store.writeBarrier with
    | some e => exact .inl ⟨_, rfl⟩
    | none =>
      dsimp only
      unfold insert Database.insertUser
      rw [hrows]
      dsimp only
      cases hfault : UserRow.fault? rows user.row with
      | some e => exact .inl ⟨_, rfl⟩
      | none => exact .inr ⟨rows, rfl, hfault, rfl⟩

theorem evolves_updateUser (context email : String) {change : UserRow → UserRow}
    (hkeeps : UserRow.Keeps change) : (updateUser context email change).Evolves := by
  intro desk
  rcases updateUser_cases context email change desk with ⟨e, herror⟩ | ⟨rows, hrows, hdecode⟩
  · rw [herror]
    exact .refl _
  · dsimp only at hdecode
    rw [hdecode, readsOnly_decodeUser]
    exact .of_map hrows (hkeeps.ite _)

theorem evolves_createUser (user : User) : (createUser user).Evolves := by
  intro desk
  rcases createUser_cases user desk with ⟨e, herror⟩ | ⟨rows, hrows, hfault, hadd⟩
  · rw [herror]
    exact .refl _
  · rw [hadd]
    exact .of_append hrows hfault

theorem evolves_setTokens (rows : List TokenRow) : (setTokens rows).Evolves :=
  fun _ => .of_users rfl rfl

theorem evolves_insertToken (context : String) (row : TokenRow) :
    (insert context (Database.insertToken row)).Evolves := by
  intro desk
  unfold insert Database.insertToken
  cases desk.store.database.tokens with
  | none => exact .refl _
  | some rows =>
    dsimp only
    cases TokenRow.fault? rows row with
    | some e => exact .refl _
    | none => exact .of_users rfl rfl

theorem evolves_deleteTokens (context : String) (drop : TokenRow → Bool) :
    (deleteTokens context drop).Evolves :=
  (readsOnly_tokensFor _).evolves.bind fun _ => (readsOnly_writing _).evolves.bind fun _ =>
    (evolves_setTokens _).bind fun _ => (ReadsOnly.pure _).evolves

theorem evolves_createToken (token : Token) : (createToken token).Evolves :=
  (readsOnly_tokensFor _).evolves.bind fun _ => (readsOnly_writing _).evolves.bind fun _ =>
    evolves_insertToken _ _

theorem evolves_issue (ledger : Ledger) (email : String) (type : TokenType) (now : Instant)
    (random : ByteSource) : (ledger.issue email type now random).Evolves :=
  (evolves_deleteTokens _ _).bind fun _ => (evolves_createToken _).bind fun _ =>
    (readsOnly_report _).evolves.bind fun _ => (ReadsOnly.pure _).evolves

theorem evolves_consume (value : String) (type : TokenType) (now : Instant) :
    (Ledger.consume value type now).Evolves := by
  refine (readsOnly_peek value type now).evolves.bind fun found => ?_
  cases found with
  | none => exact (ReadsOnly.pure _).evolves
  | some token =>
    refine Evolves.bind ((evolves_deleteTokens _ _).bind fun _ => (ReadsOnly.pure _).evolves)
      fun _ => ?_
    exact (readsOnly_report _).evolves.bind fun _ => (ReadsOnly.pure _).evolves

/-! ### Looking known users up -/

theorem decodeUser_eq_ok {found : Option UserRow} {user : User}
    (hok : (decodeUser found desk).1 = .ok (some user)) :
    ∃ row, found = some row ∧ row.decode = .ok user := by
  cases found with
  | none => cases hok
  | some row =>
    simp only [decodeUser, Step.ofExcept_apply] at hok
    cases hdecode : row.decode with
    | error e =>
      rw [hdecode] at hok
      cases hok
    | ok found =>
      rw [hdecode] at hok
      cases hok
      exact ⟨row, rfl, hdecode⟩

/-- Whoever is read from a row is known. -/
theorem knows_of_decodeUser {rows : List UserRow} {p : UserRow → Bool} {user : User}
    (hrows : desk.store.database.users = some rows)
    (hok : (decodeUser (rows.find? p) desk).1 = .ok (some user)) :
    desk.store.database.Knows user.toPublic := by
  obtain ⟨row, hfound, hdecode⟩ := decodeUser_eq_ok hok
  exact ⟨rows, hrows, row, List.mem_of_find?_eq_some hfound, UserRow.public?_of_decode hdecode⟩

/-- Whoever a look-up finds is known. -/
theorem knows_of_select {context : String} {p : UserRow → Bool} {user : User}
    (hok : ((do decodeUser ((← usersFor context).find? p) : Query (Option User)) desk).1 =
      .ok (some user)) :
    desk.store.database.Knows user.toPublic := by
  rw [Step.bind_apply] at hok
  unfold usersFor at hok
  cases hrows : desk.store.database.users with
  | none =>
    rw [hrows] at hok
    cases hok
  | some rows =>
    simp only [hrows] at hok
    exact knows_of_decodeUser hrows hok

/-- A look-up whose condition holds of just one row finds the user of that row. -/
theorem select_of_unique {context : String} {p : UserRow → Bool} {rows : List UserRow}
    {row : UserRow} {seen : PublicUser} (hrows : desk.store.database.users = some rows)
    (hrow : row ∈ rows) (hp : p row = true) (hunique : ∀ other ∈ rows, p other = true → other = row)
    (hseen : row.public? = some seen) :
    ∃ user, (do decodeUser ((← usersFor context).find? p) : Query (Option User)) desk =
        (.ok (some user), desk) ∧ user.toPublic = seen := by
  obtain ⟨user, hdecode, hpublic⟩ := UserRow.decode_of_public? hseen
  have hfound : rows.find? p = some row := by
    cases hfound : rows.find? p with
    | none => exact absurd hp (by simpa using List.find?_eq_none.mp hfound row hrow)
    | some other =>
      rw [hunique other (List.mem_of_find?_eq_some hfound) (List.find?_some hfound)]
  refine ⟨user, ?_, hpublic⟩
  rw [Step.bind_apply]
  unfold usersFor
  rw [hrows]
  dsimp only
  rw [hfound]
  simp only [decodeUser, hdecode, Step.ofExcept_apply]
  rfl

theorem userById_of_knows {seen : PublicUser} (hkeyed : desk.store.database.Keyed)
    (hseen : desk.store.database.Knows seen) :
    ∃ user, userById seen.id desk = (.ok (some user), desk) ∧ user.toPublic = seen := by
  obtain ⟨rows, hrows, row, hrow, hpublic⟩ := hseen
  have hid := hkeyed.id_of_knows hrows hrow hpublic
  refine select_of_unique hrows hrow (decide_eq_true hid) ?_ hpublic
  intro other hother hsame
  refine List.inj_on_of_nodup_map (hkeyed rows hrows).ids_nodup hother hrow ?_
  rw [hid]
  exact of_decide_eq_true hsame

/-- A known user is found by the email. -/
theorem userByEmail_of_knows {seen : PublicUser} (hkeyed : desk.store.database.Keyed)
    (hseen : desk.store.database.Knows seen) (hne : seen.email ≠ "") :
    ∃ user, userByEmail seen.email desk = (.ok (some user), desk) ∧ user.toPublic = seen := by
  obtain ⟨rows, hrows, row, hrow, hpublic⟩ := hseen
  have hemail : row.email = .text seen.email := by
    rcases Cell.readText_eq_ok.mp (UserRow.cells_of_public? hpublic).2 with hemail | ⟨-, hempty⟩
    · exact hemail
    · exact absurd hempty hne
  refine select_of_unique hrows hrow (decide_eq_true hemail) ?_ hpublic
  intro other hother hsame
  refine List.inj_on_of_nodup_map (hkeyed rows hrows).emails_nodup hother hrow ?_
  rw [hemail]
  exact of_decide_eq_true hsame

structure Finds (read : Query (Option User)) (key : IdentityKey) : Prop where
  readsOnly : read.ReadsOnly
  known : ∀ desk user, (read desk).1 = .ok (some user) → desk.store.database.Knows user.toPublic
  found : ∀ (desk : Desk) seen, desk.store.database.Keyed → desk.store.database.Knows seen →
    key.Names seen → ∃ user, read desk = (.ok (some user), desk) ∧ user.toPublic = seen

theorem finds_userById (id : String) : Finds (userById id) (.id id) where
  readsOnly := readsOnly_userById id
  known := fun _ _ hok => knows_of_select hok
  found := by
    rintro desk seen hkeyed hseen rfl
    exact userById_of_knows hkeyed hseen

theorem finds_userByEmail {email : String} (hne : email ≠ "") :
    Finds (userByEmail email) (.email email) where
  readsOnly := readsOnly_userByEmail email
  known := fun _ _ hok => knows_of_select hok
  found := by
    rintro desk seen hkeyed hseen rfl
    exact userByEmail_of_knows hkeyed hseen hne

theorem onConnection_of_open {q : Query α} (hopen : desk.store.closed = false) :
    q.onConnection desk = q desk := by
  have hconnect : connect desk = (.ok (), desk) := by
    unfold connect
    rw [hopen]
    rfl
  unfold onConnection
  rw [Step.bind_apply, hconnect]

theorem onConnection_of_closed {q : Query α} (hclosed : desk.store.closed = true) :
    ∃ e, q.onConnection desk = (.error e, desk) := by
  have hconnect : ∃ e, connect desk = (.error e, desk) := by
    unfold connect
    rw [hclosed]
    exact ⟨_, rfl⟩
  obtain ⟨e, hconnect⟩ := hconnect
  unfold onConnection
  rw [Step.bind_apply, hconnect]
  exact ⟨e, rfl⟩

end Query

end IdentityLifecycle
