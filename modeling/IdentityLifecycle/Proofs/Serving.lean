import IdentityLifecycle.Proofs.Expiry
import IdentityLifecycle.Proofs.Mailing
import IdentityLifecycle.Proofs.Maintenance
import IdentityLifecycle.Proofs.Redemption

/-!
# Whether a configuration serves

The start checks what passwords cost to hash, and the domain of the links. It does not look at the
length of salts or of token values, so a configuration that was accepted serves just if these are in
range too.
-/

namespace IdentityLifecycle

/-! ### A database where nothing is stored yet -/

/-- There are no tables, or the engine has made them and they can be written. -/
inductive Location.Vacant (location : Location) : Database → Prop
  | blank : location.Vacant {}
  | migrated (hwritable : (location.readOnly || location.immutable) = false) :
      location.Vacant (Migration.migrate {}).2.store.database

namespace Migration

variable {log : Log} {readOnly scattered : Bool} {version : Option Int64} {desk : Desk}

/-- Where there are no tables, migrations only succeed if their changes are there to stay. -/
theorem holds_of_migrate_blank
    (hok : migrate { store := { readOnly, scattered }, log } = (.ok version, desk)) :
    desk.store.Holds {} := by
  have hreadOnly : ∀ scattered, (migrate { store := { readOnly := true, scattered }, log }).1 =
      .error (.query "failed to create the migrations table" .readOnly) := by
    with_unfolding_all exact fun _ => rfl
  have hscattered : (migrate { store := { scattered := true }, log }).1 =
      .error (.query "failed to check migration status" (.noSuchTable Database.historyName)) := by
    with_unfolding_all rfl
  have hlasting : (migrate { log }).2.store = (migrate {}).2.store := by
    with_unfolding_all rfl
  have houtcome := congrArg Prod.fst hok
  have hstore := congrArg (fun result => result.2.store) hok
  cases readOnly with
  | true => exact nomatch (hreadOnly scattered).symm.trans houtcome
  | false =>
    cases scattered with
    | true => exact nomatch hscattered.symm.trans houtcome
    | false => exact hstore ▸ hlasting ▸ Store.migrated_holds

/-- Where the engine has made its tables, migrations leave them. -/
theorem holds_of_migrate_migrated
    (hok : migrate { store := { database := (migrate {}).2.store.database, scattered }, log } =
      (.ok version, desk)) : desk.store.Holds {} := by
  have hsame : (migrate { store := {
      database := (migrate {}).2.store.database, scattered }, log }).2.store =
        { (migrate {}).2.store with scattered } := by
    cases scattered <;> with_unfolding_all rfl
  rw [hok] at hsame
  change desk.store = _ at hsame
  rw [hsame]
  exact { Store.migrated_holds with }

end Migration

namespace Startup

variable {settings : Settings} {folder : Folder} {service : Service} {desk desk' : Desk}

/-- To connect is to open the database and to migrate it. -/
theorem connect_ok {location : Location}
    (hok : connect settings folder desk = (.ok location, desk')) :
    ∃ database log version migrated, folder.openDatabase location = .ok database ∧
      Migration.migrate { store := {
        database
        readOnly := location.readOnly || location.immutable
        scattered := !location.shared && settings.database.maxConnections ≠ 1 }, log } =
          (.ok version, migrated) ∧ desk'.store = migrated.store := by
  obtain ⟨found, opened, hopen, hok⟩ := Step.bind_eq_ok.mp hok
  obtain ⟨⟨⟩, after, hmigrate, hok⟩ := Step.bind_eq_ok.mp hok
  cases hok
  obtain ⟨-, database, hdatabase, hstore⟩ := openStore_ok (during_ok hopen)
  obtain ⟨version, migrated, hversion, hreport⟩ := Step.bind_eq_ok.mp hmigrate
  cases hreport
  refine ⟨database, opened.log, version, migrated, hdatabase, ?_, rfl⟩
  rw [← hstore]
  exact during_ok hversion

structure Opens (settings : Settings) (folder : Folder) (service : Service) (desk : Desk) :
    Prop where
  built : buildService settings = .ok service
  connected : ∃ start location database, connect settings folder start = (.ok location, desk) ∧
    folder.openDatabase location = .ok database ∧ location.Vacant database

/-- On a blank database every configuration is accepted that builds a service. -/
theorem opens_of_blank {location : Location}
    (hconnect : (connect settings folder {}).1 = .ok location)
    (hblank : folder.openDatabase location = .ok {})
    (hbuilt : buildService settings = .ok service) :
    Opens settings folder service (connect settings folder {}).2 where
  built := hbuilt
  connected := ⟨{}, location, {}, Prod.ext hconnect rfl, hblank, .blank⟩

theorem Opens.shows (hopens : Opens settings folder service desk) :
    (session settings desk).Shows { tables := {}, cache := (session settings desk).cache } := by
  obtain ⟨start, location, database, hconnect, hdatabase, hvacant⟩ := hopens.connected
  obtain ⟨database', log, version, migrated, hdatabase', hmigrate, hstore⟩ := connect_ok hconnect
  cases hdatabase.symm.trans hdatabase'
  refine ⟨?_, rfl, rfl⟩
  change desk.store.Holds {}
  rw [hstore]
  cases hvacant with
  | blank => exact Migration.holds_of_migrate_blank hmigrate
  | migrated hwritable =>
    rw [hwritable] at hmigrate
    exact Migration.holds_of_migrate_migrated hmigrate

theorem buildService_ok (hok : buildService settings = .ok service) :
    service.hasher = ⟨settings.hasher⟩ ∧ service.ledger = .ofSettings settings.tokens := by
  obtain ⟨hasher, hhasher, hok⟩ := bind_eq_ok.mp hok
  obtain ⟨site, hsite, hok⟩ := bind_eq_ok.mp hok
  cases hok
  refine ⟨?_, rfl⟩
  have hchecked := mapError_eq_ok.mp hhasher
  unfold Hasher.ofSettings at hchecked
  repeat
    split at hchecked
    · cases hchecked
  cases hchecked
  rfl

end Startup

/-! ### Signing up and confirming -/

namespace Service

variable {service : Service} {around : Surroundings} {view : View}
  {email name password : String} {user : User}

/-- Somebody new is registered and sent a link. -/
theorem signupEnding_of_free {entries : List Log.Entry}
    (hnew : service.newUser around email name password = .ok user)
    (hemail : view.tables.userWithEmail? user.email = none)
    (hid : view.tables.userWithId? user.id = none)
    (hroom : (view.tables.addUser user).HasRoomFor (service.tokenFor around .signup user.email))
    (haccept : around.mailer (.forToken service.site .signup user.email user.name
      (service.ledger.generateValue around.token)) = .ok entries) :
    service.signupEnding around email name password view = (.ok (), {
      tables := (view.tables.addUser user).replaceToken
        (service.tokenFor around .signup user.email)
      cache := view.cache.store user.toPublic
      postings := view.postings ++ [⟨.forToken service.site .signup user.email user.name
        (service.ledger.generateValue around.token), true⟩] }) := by
  rw [signupEnding, hnew]
  dsimp only [Ending.given]
  rw [service.registering_of_free around hemail hid, mailing_of_room hroom haccept]
  rfl

/-- A live token with an owner confirms the owner. -/
theorem validateSignupTokenEnding_of_live {value : String} {token : Token} (hvalue : value ≠ "")
    (hlive : view.tables.liveToken? value .signup around.now = some token)
    (huser : view.tables.userWithEmail? token.email = some user) :
    (validateSignupTokenEnding around value view).1 = .ok user.toPublic := by
  have hkeep : ∀ user : User, (user.stamp around.now).email = user.email := by simp
  have hpublic : (user.stamp around.now).toPublic = user.toPublic := by
    simp [User.toPublic]
  rw [validateSignupTokenEnding, if_neg hvalue, redeeming_of_owner hkeep _ hlive huser]
  exact congrArg Except.ok hpublic

/-- Whoever signs up with valid details is sent a link, and what stands at its end is accepted until
the token expires. -/
def Serves (service : Service) (mailer : Mailer) (s : Session) : Prop :=
  ∀ (around : Surroundings) (email name password normal valid : String), around.mailer = mailer →
    normalizeEmail email = .ok normal → validateName name = .ok valid →
    validatePassword password = .ok () →
    (service.signup around email name password s).1 = .ok () ∧
      ∃ mail, (service.signup around email name password s).2.postings =
          s.postings ++ [⟨mail, true⟩] ∧
        ∀ later : Surroundings, later.now < around.now.after service.ledger.signupLifetime →
          ∃ user, (validateSignupToken later (Text.afterLast '/' mail.link)
            (service.signup around email name password s).2).1 = .ok user

variable {mailer : Mailer} {s : Session} {cache : Cache} {postings : List Posting}

/-- What is left after somebody has signed up as the first user. -/
theorem signup_first (hs : s.Shows { tables := {}, cache, postings })
    (haccepts : ∀ mail, ∃ entries, around.mailer mail = .ok entries)
    (hnew : service.newUser around email name password = .ok user) :
    let token := service.tokenFor around .signup user.email
    let mail := Mail.forToken service.site .signup user.email user.name token.value
    (service.signup around email name password s).1 = .ok () ∧
      (service.signup around email name password s).2.postings = s.postings ++ [⟨mail, true⟩] ∧
      (service.signup around email name password s).2.Shows {
        tables := (Tables.addUser {} user).replaceToken token
        cache := cache.store user.toPublic
        postings := postings ++ [⟨mail, true⟩] } := by
  intro token mail
  obtain ⟨entries, haccept⟩ := haccepts mail
  have hroom : (Tables.addUser {} user).HasRoomFor token := fun _ hother => nomatch hother
  obtain ⟨hok, hafter⟩ := service.signup_ends around email name password _ s hs
  rw [signupEnding_of_free hnew rfl rfl hroom haccept] at hok hafter
  have hpostings := hafter.postings
  rw [← show s.postings = postings from hs.postings] at hpostings
  exact ⟨hok, hpostings, hafter⟩

/-- The value of the only token, if it is not empty, confirms the address of the first user. -/
theorem confirm_first {later : Surroundings} {token : Token}
    (hs : s.Shows { tables := (Tables.addUser {} user).replaceToken token, cache, postings })
    (htype : token.type = .signup) (hemail : token.email = user.email) (hvalue : token.value ≠ "")
    (hlater : later.now < token.expiresAt) :
    (validateSignupToken later token.value s).1 = .ok user.toPublic := by
  have hroom : (Tables.addUser {} user).HasRoomFor token := fun _ hother => nomatch hother
  obtain ⟨-, hlive⟩ := (follows_nil hroom).liveToken?_eq_some
    (fun _ hevent => nomatch hevent) (fun _ hevent => nomatch hevent) hlater
  rw [htype] at hlive
  have huser : ((Tables.addUser {} user).replaceToken token).userWithEmail? token.email =
      some user := by
    rw [Tables.userWithEmail?_replaceToken, hemail]
    exact Tables.userWithEmail?_addUser_self rfl
  calc
    (validateSignupToken later token.value s).1 =
        (validateSignupTokenEnding later token.value _).1 :=
      (validateSignupToken_ends later token.value _ s hs).1
    _ = .ok user.toPublic := validateSignupTokenEnding_of_live hvalue hlive huser

/-- With sizes in range, whoever signs up can confirm. -/
theorem serves_of_inRange (hs : s.Shows { tables := {}, cache, postings })
    (haccepts : ∀ mail, ∃ entries, mailer mail = .ok entries)
    (hmin : Hasher.minSaltLength ≤ service.hasher.saltLength)
    (hmax : service.hasher.saltLength ≤ Hasher.maxInputLength)
    (hbytes : 1 ≤ service.ledger.tokenBytes) : service.Serves mailer s := by
  rintro around email name password normal valid rfl hnormal hvalid hpassword
  obtain ⟨hashed, hhashed⟩ := (hashing_succeeds_iff hpassword).mpr ⟨hmin, hmax⟩
  obtain ⟨user, hnew⟩ : ∃ user, service.newUser around email name password = .ok user :=
    ⟨.register around.userId normal valid hashed,
      newUser_eq_ok.mpr ⟨hnormal, hvalid, hpassword, hhashed, rfl, rfl⟩⟩
  obtain ⟨hok, hpostings, hafter⟩ := signup_first hs haccepts hnew
  refine ⟨hok, _, hpostings, fun later hlater => ⟨user.toPublic, ?_⟩⟩
  have hvalue := Ledger.generateValue_ne_empty hbytes around.token
  have hfree := service.ledger.slash_not_mem_generateValue around.token
  have hlink := Mail.afterLast_link_forToken service.site .signup user.email user.name hvalue hfree
  have hconfirm := confirm_first hafter rfl rfl hvalue hlater
  exact hlink.symm ▸ hconfirm

/-- The link to a token without a value ends in a word that is not its value. -/
theorem confirm_empty {later : Surroundings} (hbytes : service.ledger.tokenBytes = 0)
    (hs : s.Shows {
      tables := (Tables.addUser {} user).replaceToken (service.tokenFor around .signup user.email)
      cache, postings }) :
    (validateSignupToken later TokenType.signup.path s).1 = .error .invalidToken := by
  have hempty := Ledger.generateValue_eq_empty hbytes around.token
  have hdead : ((Tables.addUser {} user).replaceToken
      (service.tokenFor around .signup user.email)).liveToken? TokenType.signup.path .signup
        later.now = none := by
    refine List.find?_eq_none.mpr fun token hmem hlive => ?_
    rcases Tables.mem_replaceToken.mp hmem with ⟨hother, -⟩ | rfl
    · cases hother
    · obtain ⟨hvalue, -⟩ := Token.isLiveAs_iff.mp hlive
      exact absurd (hempty.symm.trans hvalue) (by decide)
  rw [(validateSignupToken_ends later _ _ s hs).1, validateSignupTokenEnding, if_neg (by decide),
    redeeming_of_none _ _ hdead]
  rfl

theorem newUser_of_signup (hs : s.Shows view)
    (hok : (service.signup around email name password s).1 = .ok ()) :
    ∃ user, service.newUser around email name password = .ok user := by
  have hends := (service.signup_ends around email name password view s hs).1
  cases hnew : service.newUser around email name password with
  | error e =>
    rw [hok, signupEnding, hnew] at hends
    cases hends
  | ok user => exact ⟨user, rfl⟩

/-- Conversely, if someone can sign up and confirm, the sizes are in range. -/
theorem Serves.inRange {settings : TokenSettings} (hserves : service.Serves mailer s)
    (hs : s.Shows { tables := {}, cache, postings })
    (haccepts : ∀ mail, ∃ entries, mailer mail = .ok entries)
    (hledger : service.ledger = .ofSettings settings) (httl : 1 ≤ settings.signupTtlSecs) :
    Hasher.minSaltLength ≤ service.hasher.saltLength ∧
      service.hasher.saltLength ≤ Hasher.maxInputLength ∧ 1 ≤ service.ledger.tokenBytes := by
  let around : Surroundings := {
    now := 0, later := 0, userId := "u", salt := fun _ => 0, token := fun _ => 0, mailer }
  have hvalid : normalizeEmail "a@b" = .ok "a@b" ∧ validateName "n" = .ok "n" ∧
      validatePassword "p" = .ok () := by
    decide +kernel
  obtain ⟨hemail, hname, hpassword⟩ := hvalid
  obtain ⟨hok, mail, hmail, hconfirm⟩ :=
    hserves around "a@b" "n" "p" "a@b" "n" rfl hemail hname hpassword
  obtain ⟨user, hnew⟩ := newUser_of_signup hs hok
  obtain ⟨-, -, -, hhashed, -⟩ := newUser_eq_ok.mp hnew
  obtain ⟨hmin, hmax⟩ := (hashing_succeeds_iff hpassword).mp ⟨_, hhashed⟩
  refine ⟨hmin, hmax, Nat.pos_of_ne_zero fun hzero => ?_⟩
  -- with no bytes to make a value from, the link that was mailed is not good for anything
  obtain ⟨-, hpostings, hafter⟩ := signup_first hs haccepts hnew
  have hposting := List.singleton_inj.mp (List.append_cancel_left (hmail.symm.trans hpostings))
  have hmailed : mail = .forToken service.site .signup user.email user.name
      (service.ledger.generateValue around.token) := congrArg Posting.mail hposting
  have hlink : Text.afterLast '/' mail.link = TokenType.signup.path := by
    rw [hmailed, Ledger.generateValue_eq_empty hzero]
    exact Mail.afterLast_link_forToken_empty service.site .signup _ _
  have hlater : (1 : Instant) < (0 : Instant).after service.ledger.signupLifetime := by
    have hsecs : 1 ≤ (settings.ttlSecs .signup).toNat := UInt64.le_iff_toNat_le.mp httl
    have hwithin : Int64.toInt 1 < Int64.toInt 0 + 1000 * (settings.ttlSecs .signup).toNat := by
      rw [Int64.toInt_zero, show Int64.toInt 1 = 1 from rfl]
      omega
    rw [hledger]
    exact (Ledger.lt_expiry_iff settings .signup (Int64.le_refl 0)).mpr ⟨hwithin, by decide⟩
  obtain ⟨confirmed, hconfirmed⟩ := hconfirm { around with now := 1 } hlater
  rw [hlink, confirm_empty hzero hafter] at hconfirmed
  cases hconfirmed

end Service

/-! ### Configurations that serve -/

/-- A configuration has been accepted on a database where nothing is stored yet. The service that is
built serves if and only if salts have an eligible length and token values are not empty. -/
theorem serves_iff_of_accepted (settings : Settings) (folder : Folder) (service : Service)
    (desk : Desk) (hopens : Startup.Opens settings folder service desk)
    (httl : 1 ≤ settings.tokens.signupTtlSecs) :
    service.Serves (.logging settings.mail.sender) (Startup.session settings desk) ↔
      8 ≤ settings.hasher.saltLength ∧ settings.hasher.saltLength ≤ 0xFFFFFFFF ∧
        1 ≤ settings.tokens.tokenBytes := by
  obtain ⟨hhasher, hledger⟩ := Startup.buildService_ok hopens.built
  have haccepts : ∀ mail, ∃ entries, Mailer.logging settings.mail.sender mail = .ok entries :=
    fun mail => ⟨_, rfl⟩
  have hlengths : 8 ≤ settings.hasher.saltLength ∧ settings.hasher.saltLength ≤ 0xFFFFFFFF ∧
        1 ≤ settings.tokens.tokenBytes ↔
      Hasher.minSaltLength ≤ service.hasher.saltLength ∧
        service.hasher.saltLength ≤ Hasher.maxInputLength ∧ 1 ≤ service.ledger.tokenBytes := by
    rw [hhasher, hledger]
    simp only [UInt64.le_iff_toNat_le]
    rfl
  rw [hlengths]
  constructor
  · exact fun hserves => hserves.inRange hopens.shows haccepts hledger httl
  · rintro ⟨hmin, hmax, hbytes⟩
    exact Service.serves_of_inRange hopens.shows haccepts hmin hmax hbytes

/-- Salts that are too short or too long are accepted, and so are empty token values. -/
theorem accepted_without_serving :
    let hasher (saltLength : UInt64) : HasherSettings :=
      { timeCost := 1, memoryKib := 8, parallelism := 1, saltLength, keyLength := 32 }
    let short : Settings := { hasher := hasher 4 }
    let long : Settings := { hasher := hasher 0x100000000 }
    let empty : Settings := { hasher := hasher 16, tokens := { tokenBytes := 0 } }
    ∀ settings ∈ [short, long, empty], ∃ service desk,
      Startup.Opens settings {} service desk ∧ 1 ≤ settings.tokens.signupTtlSecs ∧
        ¬service.Serves (.logging settings.mail.sender) (Startup.session settings desk) := by
  intro hasher short long empty
  have hstart : ∀ settings ∈ [short, long, empty],
      (Startup.connect settings {} {}).1 = .ok { path := some "authkeep.db" } ∧
        Startup.buildService settings = .ok {
          hasher := ⟨settings.hasher⟩
          ledger := .ofSettings settings.tokens
          site := ⟨"localhost:3000"⟩ } ∧
        1 ≤ settings.tokens.signupTtlSecs ∧
        ¬(Hasher.minSaltLength ≤ settings.hasher.saltLength.toNat ∧
          settings.hasher.saltLength.toNat ≤ Hasher.maxInputLength ∧
          1 ≤ settings.tokens.tokenBytes.toNat) := by
    decide +kernel
  intro settings hsettings
  obtain ⟨hconnect, hbuilt, httl, hlengths⟩ := hstart settings hsettings
  have hopens := Startup.opens_of_blank hconnect (by decide +kernel) hbuilt
  refine ⟨_, _, hopens, httl, fun hserves => hlengths ?_⟩
  exact hserves.inRange hopens.shows (fun mail => ⟨_, rfl⟩) rfl httl

/-- The shortest salts and token values that serve. -/
theorem serves_with_shortest_lengths :
    let settings : Settings := {
      hasher := { timeCost := 1, memoryKib := 8, parallelism := 1, saltLength := 8, keyLength := 4 }
      tokens := { signupTtlSecs := 1, tokenBytes := 1 } }
    ∃ service desk, Startup.Opens settings {} service desk ∧ 1 ≤ settings.tokens.signupTtlSecs ∧
      service.Serves (.logging settings.mail.sender) (Startup.session settings desk) := by
  intro settings
  have hstart : (Startup.connect settings {} {}).1 = .ok { path := some "authkeep.db" } ∧
      Folder.openDatabase {} { path := some "authkeep.db" } = .ok {} ∧
      Startup.buildService settings = .ok {
        hasher := ⟨settings.hasher⟩
        ledger := .ofSettings settings.tokens
        site := ⟨"localhost:3000"⟩ } := by
    decide +kernel
  obtain ⟨hconnect, hblank, hbuilt⟩ := hstart
  have hopens := Startup.opens_of_blank hconnect hblank hbuilt
  exact ⟨_, _, hopens, by decide,
    (serves_iff_of_accepted settings {} _ _ hopens (by decide)).mpr (by decide)⟩

end IdentityLifecycle
