import IdentityLifecycle.Proofs.Redeeming
import IdentityLifecycle.Proofs.Sound

/-!
# Stamping a user

The statement that stamps a user writes the instant over a zero alone, while a user counts as
verified from an instant after zero on. The two agree on all stamps but those before zero.
-/

namespace IdentityLifecycle

/-! ### Who needs a stamp -/

/-- Who is verified after a stamp. -/
theorem User.stamp_isVerified_iff (user : User) (now : Instant) :
    (user.stamp now).isVerified = true ↔
      0 < user.verifiedAt ∨ user.verifiedAt = 0 ∧ 0 < now := by
  unfold stamp isVerified
  by_cases hzero : user.verifiedAt = 0
  · rw [if_pos hzero]
    simp [hzero]
  · rw [if_neg hzero]
    simp [hzero]

/-- That a user lacks a stamp and that the user is not verified are the same, unless the stamp is
before zero. -/
theorem User.lacks_stamp_iff (user : User) :
    (user.verifiedAt = 0 ↔ user.isVerified = false) ↔ 0 ≤ user.verifiedAt := by
  simp only [isVerified, decide_eq_false_iff_not, Int64.lt_iff_toInt_lt, Int64.le_iff_toInt_le,
    ← Int64.toInt_inj]
  omega

theorem User.stamp_of_stamped {user : User} (hstamped : user.verifiedAt ≠ 0) (now : Instant) :
    user.stamp now = user :=
  if_neg hstamped

/-! ### The row -/

theorem UserRow.verifiedAt_of_decode {row : UserRow} {user : User}
    (hdecode : row.decode = .ok user) (hpresent : row.verifiedAt ≠ .null) :
    row.verifiedAt = .integer user.verifiedAt := by
  obtain ⟨-, -, -, -, hverified⟩ := decode_eq_ok.mp hdecode
  rcases Cell.readInteger_eq_ok.mp hverified with hinteger | ⟨hnull, -⟩
  · exact hinteger
  · exact absurd hnull hpresent

theorem UserRow.stamp_eq {row : UserRow} {user : User} (hdecode : row.decode = .ok user)
    (hpresent : row.verifiedAt ≠ .null) (now : Instant) :
    row.stamp now = { row with verifiedAt := .integer (user.stamp now).verifiedAt } := by
  have hinteger := verifiedAt_of_decode hdecode hpresent
  unfold stamp User.stamp
  by_cases hzero : user.verifiedAt = 0
  · rw [if_pos hzero, if_pos (by rw [hinteger, hzero])]
  · have hcell : row.verifiedAt ≠ .integer 0 := by
      intro hcell
      exact hzero (Cell.integer.inj (hinteger.symm.trans hcell))
    rw [if_neg hzero, if_neg hcell, ← hinteger]

/-- A row is stamped as the user is. -/
theorem UserRow.decode_stamp {row : UserRow} {user : User} (hdecode : row.decode = .ok user)
    (hpresent : row.verifiedAt ≠ .null) (now : Instant) :
    (row.stamp now).decode = .ok (user.stamp now) := by
  obtain ⟨hid, hemail, hname, hpassword, -⟩ := decode_eq_ok.mp hdecode
  rw [stamp_eq hdecode hpresent]
  refine decode_eq_ok.mpr ⟨?_, ?_, ?_, ?_, rfl⟩
  · rw [User.stamp_id]
    exact hid
  · rw [User.stamp_email]
    exact hemail
  · rw [User.stamp_name]
    exact hname
  · rw [User.stamp_password]
    exact hpassword

/-! ### The table -/

namespace Database

/-- Where the keys are in order, changing the users with an email changes one row. -/
theorem KeysInOrder.changeOwner_eq {db : Database} (hkeys : db.KeysInOrder) {rows : List UserRow}
    {row : UserRow} {email : String} (hrows : db.users = some rows) (hrow : row ∈ rows)
    (hemail : row.email = .text email) (change : UserRow → UserRow) :
    db.changeOwner email change =
      { db with users := some (rows.map fun other => if other = row then change row else other) } := by
  have hone : (rows.map fun other => if other = row then change other else other) =
      rows.map fun other => if other = row then change row else other := by
    refine List.map_congr_left fun other _ => ?_
    split
    · next hsame => rw [hsame]
    · rfl
  rw [changeOwner, hrows, Option.map_some, hkeys.map_hasEmail hrows hrow hemail, hone]

theorem KeysInOrder.changeOwner {db : Database} (hkeys : db.KeysInOrder)
    {change : UserRow → UserRow}
    (hkeeps : UserRow.Keeps change) (email : String) :
    (db.changeOwner email change).KeysInOrder := by
  refine ⟨hkeys.values, hkeys.addressees, ?_⟩
  intro rows hrows a ha b hb hsame
  obtain ⟨before, hbefore, rfl⟩ := Option.map_eq_some_iff.mp hrows
  obtain ⟨old, hold, rfl⟩ := List.mem_map.mp ha
  obtain ⟨old', hold', rfl⟩ := List.mem_map.mp hb
  have hkept := (hkeeps.ite (·.hasEmail email)).email
  rw [hkept, hkept] at hsame
  rw [hkeys.emails before hbefore old hold old' hold' hsame]

end Database

namespace Query

variable {desk : Desk} {rows : List UserRow} {row : UserRow} {user : User} {email : String}

/-- What the statement does to the one row with the email. -/
theorem setUserVerified_of_row (hbarrier : desk.store.writeBarrier = none)
    (hkeys : desk.store.database.KeysInOrder) (hrows : desk.store.database.users = some rows)
    (hrow : row ∈ rows) (hemail : row.email = .text email) (hdecode : row.decode = .ok user)
    (hpresent : row.verifiedAt ≠ .null) (now : Instant) :
    setUserVerified email now desk = (.ok (some (user.stamp now)), { desk with
      store.database.users := some (rows.map fun other => if other = row then
        { row with verifiedAt := .integer (user.stamp now).verifiedAt } else other) }) := by
  have hfind : rows.find? (·.hasEmail email) = some row := by
    refine Database.find?_eq_some_of_unique hrow (decide_eq_true hemail) fun other hother hhas => ?_
    exact hkeys.emails rows hrows other hother row hrow
      ((of_decide_eq_true hhas).trans hemail.symm)
  rw [setUserVerified, updateUser_of_users hbarrier (UserRow.keeps_stamp now) hrows,
    hkeys.changeOwner_eq hrows hrow hemail, hfind, Option.map_some, decodeUser,
    Step.ofExcept_apply, UserRow.decode_stamp hdecode hpresent,
    UserRow.stamp_eq hdecode hpresent]
  rfl

/-- Whoever has a stamp keeps it. -/
theorem setUserVerified_of_stamped (hbarrier : desk.store.writeBarrier = none)
    (hkeys : desk.store.database.KeysInOrder) (hrows : desk.store.database.users = some rows)
    (hrow : row ∈ rows) (hemail : row.email = .text email) (hdecode : row.decode = .ok user)
    (hpresent : row.verifiedAt ≠ .null) (hstamped : user.verifiedAt ≠ 0) (now : Instant) :
    setUserVerified email now desk = (.ok (some user), desk) := by
  have hsame : (rows.map fun other => if other = row then
      { row with verifiedAt := .integer user.verifiedAt } else other) = rows := by
    refine (List.map_congr_left fun other _ => ?_).trans (List.map_id rows)
    split
    · next hother =>
      rw [hother, ← UserRow.verifiedAt_of_decode hdecode hpresent]
      rfl
    · rfl
  rw [setUserVerified_of_row hbarrier hkeys hrows hrow hemail hdecode hpresent,
    User.stamp_of_stamped hstamped, hsame, ← hrows]

/-- On any tables, the statement stamps the user with the email unless there is a stamp, and changes
nothing else; a stamp that is not zero is never changed again. The user is verified then if and only
if the stamp was after zero, or was zero and the instant is after it. That a user lacks a stamp is
that the user is not verified, unless the stamp is before zero. -/
theorem setUserVerified_exact (hbarrier : desk.store.writeBarrier = none)
    (hkeys : desk.store.database.KeysInOrder) (hrows : desk.store.database.users = some rows)
    (hrow : row ∈ rows) (hemail : row.email = .text email) (hdecode : row.decode = .ok user)
    (hpresent : row.verifiedAt ≠ .null) (now : Instant) :
    ∃ stamped after, setUserVerified email now desk = (.ok (some stamped), after) ∧
      stamped = { user with
        verifiedAt := if user.verifiedAt = 0 then now else user.verifiedAt } ∧
      after = { desk with store.database.users := some (rows.map fun other =>
        if other = row then { row with verifiedAt := .integer stamped.verifiedAt } else other) } ∧
      (stamped.verifiedAt ≠ 0 →
        ∀ later, setUserVerified email later after = (.ok (some stamped), after)) ∧
      (stamped.isVerified = true ↔ 0 < user.verifiedAt ∨ user.verifiedAt = 0 ∧ 0 < now) ∧
      ((user.verifiedAt = 0 ↔ user.isVerified = false) ↔ 0 ≤ user.verifiedAt) := by
  have hstamp : user.stamp now = { user with
      verifiedAt := if user.verifiedAt = 0 then now else user.verifiedAt } := by
    unfold User.stamp
    split <;> rfl
  have hchanged := setUserVerified_of_row hbarrier hkeys hrows hrow hemail hdecode hpresent now
  refine ⟨_, _, hchanged, hstamp, rfl, fun hstamped later => ?_, user.stamp_isVerified_iff now,
    user.lacks_stamp_iff⟩
  -- The stamped row stands where the old one stood, and the keys are as they were.
  have hkeys' := hkeys.changeOwner (UserRow.keeps_stamp now) email
  rw [hkeys.changeOwner_eq hrows hrow hemail] at hkeys'
  rw [UserRow.stamp_eq hdecode hpresent] at hkeys'
  have hdecode' : ({ row with verifiedAt := .integer (user.stamp now).verifiedAt } : UserRow).decode =
      .ok (user.stamp now) := by
    rw [← UserRow.stamp_eq hdecode hpresent]
    exact UserRow.decode_stamp hdecode hpresent now
  have hrow' : { row with verifiedAt := .integer (user.stamp now).verifiedAt } ∈
      rows.map fun other => if other = row then
        { row with verifiedAt := .integer (user.stamp now).verifiedAt } else other :=
    List.mem_map.mpr ⟨row, hrow, if_pos rfl⟩
  refine setUserVerified_of_stamped ?_ hkeys' rfl hrow' ?_ hdecode' Cell.noConfusion hstamped later
  · exact hbarrier
  · exact hemail

theorem setUserVerified_stamps_unconfirmed :
    let desk := (Service.ofStamp (.integer 0)).desk
    let row : UserRow := ⟨.text "u", .text "a@b", .text "n", ⟨[1], [2]⟩, .integer 0⟩
    let user : User := ⟨"u", "a@b", "n", ⟨[1], [2]⟩, 0⟩
    desk.store.writeBarrier = none ∧ desk.store.database.KeysInOrder ∧ row.decode = .ok user ∧
      ∃ stamped after, setUserVerified "a@b" 5 desk = (.ok (some stamped), after) ∧
        stamped.isVerified = true ∧
        setUserVerified "a@b" 7 after = (.ok (some { user with verifiedAt := 5 }), after) := by
  intro desk row user
  have hkeys : desk.store.database.KeysInOrder := by
    refine ⟨?_, ?_, ?_⟩ <;> rintro rows ⟨⟩ <;> decide
  have hbarrier : desk.store.writeBarrier = none := rfl
  have hdecode : row.decode = .ok user := rfl
  obtain ⟨stamped, after, hok, hstamped, -, hlater, hverified, -⟩ :=
    setUserVerified_exact hbarrier hkeys rfl (List.mem_singleton_self row) rfl hdecode
      Cell.noConfusion 5
  refine ⟨rfl, hkeys, rfl, stamped, after, hok, hverified.mpr (.inr ⟨rfl, by decide⟩), ?_⟩
  rw [hlater (by rw [hstamped]; decide) 7, hstamped]
  rfl

/-- An instant before zero is written once and for all, and does not make the user verified. -/
theorem setUserVerified_before_zero :
    let desk := (Service.ofStamp (.integer 0)).desk
    let early := setUserVerified "a@b" (-5) desk
    let user : User := ⟨"u", "a@b", "n", ⟨[1], [2]⟩, -5⟩
    early.1 = .ok (some user) ∧ user.isVerified = false ∧
      (setUserVerified "a@b" 7 early.2).1 = .ok (some user) := by
  decide +kernel

end Query

end IdentityLifecycle
