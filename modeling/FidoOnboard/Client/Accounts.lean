import FidoOnboard.Base.Digits
import FidoOnboard.Base.Utf8
import FidoOnboard.Client.Setups

/-!
# The accounts of the device

`util/src/passwd_shadow.rs`, and the users and keys that the client sets up with it. The
third, fourth and sixth field of a line of `/etc/passwd` are taken without a look at how many
there are.
-/
namespace FidoOnboard.Client

/-- The files and programs that users are set up with. -/
structure System where
  State : Type
  createFile : State → String → Bytes → UInt32 → State × Bool
  output : State → String → List String → State × Option Output
  /-- `/etc/passwd`, when it can be read. -/
  passwd : State → Option String
  /-- `useradd` with these arguments, and whether it succeeds. -/
  useradd : State → List String → State × Bool
  /-- What `openssl passwd -6 -stdin` prints for a password. -/
  openssl : State → String → State × Option Bytes
  /-- The key goes behind what is in the file already, which then belongs to the user. -/
  appendKey : State → (uid gid : Nat) → (home key : String) → State × Bool
  performRhsm : State → (organizationId activationKey : String) → Bool → State × Bool
  rebindClevis : State → (diskLabel pin config : String) → Bool → State × Bool

variable {S : System}

/-! ## `/etc/passwd` -/

def stripReturn (line : List Char) : List Char := if line.getLast? = some '\r' then line.dropLast else line

/-- `str::lines`: what stands behind the last line break is a line unless it is empty. -/
def lines (text : String) : List (List Char) :=
  let parts := text.toList.splitOn '\n'
  parts.dropLast.map stripReturn ++ (parts.getLast?.filter (· ≠ [])).toList

def fields (line : List Char) : List (List Char) := line.splitOn ':'

/-- The fields of the first line with this name in front. -/
def findUser (text username : String) : Option (List (List Char)) :=
  ((lines text).map fields).find? fun contents => contents.head? = some username.toList

/-- `contents[i]`. -/
def index (contents : List (List Char)) (i : Nat) : Outcome Unit (List Char) :=
  match contents[i]? with
  | some field => .ok field
  | none => .panic

def isUserInPasswd (passwd : Option String) (username : String) : Outcome Unit Bool := do
  let text ← .ofOption () passwd
  .ok (findUser text username).isSome

def getUserUidGidHome (passwd : Option String) (username : String) : Outcome Unit (Nat × Nat × String) := do
  let text ← .ofOption () passwd
  let contents ← .ofOption () (findUser text username)
  let uid ← index contents 2
  let uid ← .ofOption () (u32FromStrRadix 10 uid)
  let gid ← index contents 3
  let gid ← .ofOption () (u32FromStrRadix 10 gid)
  let home ← index contents 5
  .ok (uid, gid, String.ofList home)

/-- The line of the user ends before a field that is asked for. -/
def CutShort (contents : List (List Char)) : Prop :=
  contents.length ≤ 2 ∨ ∃ uid, contents[2]? = some uid ∧ u32FromStrRadix 10 uid ≠ none ∧
    (contents.length ≤ 3 ∨ ∃ gid, contents[3]? = some gid ∧ u32FromStrRadix 10 gid ≠ none ∧ contents.length ≤ 5)

theorem index_eq_panic {contents : List (List Char)} {i : Nat} : index contents i = .panic ↔ contents.length ≤ i := by
  unfold index
  rw [← List.getElem?_eq_none_iff]
  cases contents[i]? with
  | none => simp
  | some field => simp

theorem index_eq_ok {contents : List (List Char)} {i : Nat} {field : List Char} :
    index contents i = .ok field ↔ contents[i]? = some field := by
  unfold index
  cases contents[i]? with
  | none => simp
  | some other => simp

/-- A field that is read as a number. -/
theorem number_eq_panic {α : Type} {field : List Char} {next : Nat → Outcome Unit α} {c : Prop}
    (h : ∀ n, next n = .panic ↔ c) :
    (Outcome.ofOption () (u32FromStrRadix 10 field) >>= next) = .panic ↔ u32FromStrRadix 10 field ≠ none ∧ c := by
  cases u32FromStrRadix 10 field with
  | none => simp [Outcome.ofOption]
  | some n => simpa [Outcome.ofOption] using h n

theorem getUserUidGidHome_panic {passwd : Option String} {username : String} :
    getUserUidGidHome passwd username = .panic ↔
      ∃ text contents, passwd = some text ∧ findUser text username = some contents ∧ CutShort contents := by
  unfold getUserUidGidHome CutShort
  cases passwd with
  | none => simp [Outcome.ofOption]
  | some text =>
  cases hfound : findUser text username with
  | none => simp [Outcome.ofOption, hfound]
  | some contents =>
      simp only [Outcome.ofOption, Outcome.ok_bind, hfound, Option.some.injEq, exists_and_left, exists_eq_left']
      rw [Outcome.bind_eq_panic, index_eq_panic]
      refine or_congr Iff.rfl (exists_congr fun uid => and_congr index_eq_ok ?_)
      refine number_eq_panic fun _ => ?_
      rw [Outcome.bind_eq_panic, index_eq_panic]
      refine or_congr Iff.rfl (exists_congr fun gid => and_congr index_eq_ok ?_)
      refine number_eq_panic fun _ => ?_
      rw [Outcome.bind_eq_panic, index_eq_panic]
      refine or_iff_left ?_
      rintro ⟨_, _, hok⟩
      cases hok

/-! ## Users and their keys -/

/-- A program is done when it succeeds. -/
def succeeded {State : Type} : State × Bool → State × Outcome Unit Unit
  | (s, true) => (s, .ok ())
  | (s, false) => (s, .err ())

def createUser (S : System) (s : S.State) (user : String) : S.State × Outcome Unit Unit :=
  match isUserInPasswd (S.passwd s) user with
  | .ok true => (s, .ok ())
  | .ok false => succeeded (S.useradd s ["-m", user])
  | .err () => (s, .err ())
  | .panic => (s, .panic)

def isPasswordEncrypted (s : String) : Bool :=
  "$2b$".toList <+: s.toList || "$6$".toList <+: s.toList || "$5$".toList <+: s.toList

/-- The white space of Unicode. -/
def isWhitespace (c : Char) : Bool :=
  (9 ≤ c.toNat && c.toNat ≤ 13) || (0x2000 ≤ c.toNat && c.toNat ≤ 0x200a) ||
    c.toNat ∈ [0x20, 0x85, 0xa0, 0x1680, 0x2028, 0x2029, 0x202f, 0x205f, 0x3000]

def trimEnd (s : List Char) : List Char := (s.reverse.dropWhile isWhitespace).reverse

/-- Output that is not UTF-8 stops the program. -/
def createUserWithPassword (S : System) (s : S.State) (user password : String) : S.State × Outcome Unit Unit :=
  match isUserInPasswd (S.passwd s) user with
  | .ok true => (s, .ok ())
  | .ok false =>
    if isPasswordEncrypted password then succeeded (S.useradd s ["-p", password, user])
    else match S.openssl s password with
    | (s, none) => (s, .err ())
    | (s, some stdout) =>
      match String.fromUTF8? stdout.toByteArray with
      | none => (s, .panic)
      | some encrypted => succeeded (S.useradd s ["-p", String.ofList (trimEnd encrypted.toList), user])
  | .err () => (s, .err ())
  | .panic => (s, .panic)

def installSshKey (S : System) (s : S.State) (user key : String) : S.State × Outcome Unit Unit :=
  match getUserUidGidHome (S.passwd s) user with
  | .ok (uid, gid, home) => succeeded (S.appendKey s uid gid home key)
  | .err () => (s, .err ())
  | .panic => (s, .panic)

/-- The machine that these files and programs make. -/
def System.machine (S : System) : Machine where
  State := S.State
  createFile := S.createFile
  output := S.output
  setup s
    | .createUserWithPassword user password => createUserWithPassword S s user password
    | .createUser user => createUser S s user
    | .installSshKey user key => installSshKey S s user key
    | .performRhsm organizationId activationKey performInsights =>
      succeeded (S.performRhsm s organizationId activationKey performInsights)
    | .rebindClevis diskLabel pin config reencrypt => succeeded (S.rebindClevis s diskLabel pin config reencrypt)

theorem succeeded_ne_panic {State : Type} (r : State × Bool) : (succeeded r).2 ≠ .panic := by
  obtain ⟨s, done⟩ := r
  cases done with
  | true => simp [succeeded]
  | false => simp [succeeded]

/-- A password that `openssl` does not give back as text. -/
def Garbled (S : System) (s : S.State) (user password : String) : Prop :=
  isUserInPasswd (S.passwd s) user = .ok false ∧ isPasswordEncrypted password = false ∧
    ∃ stdout, (S.openssl s password).2 = some stdout ∧ String.fromUTF8? stdout.toByteArray = none

theorem isUserInPasswd_ne_panic (passwd : Option String) (username : String) : isUserInPasswd passwd username ≠ .panic :=
  Outcome.bind_ne_panic (Outcome.ofOption_ne_panic _ _) fun _ _ h => by cases h

theorem createUser_ne_panic (s : S.State) (user : String) : (createUser S s user).2 ≠ .panic := by
  unfold createUser
  split
  · simp
  · exact succeeded_ne_panic _
  · simp
  next hpanic => exact absurd hpanic (isUserInPasswd_ne_panic _ _)

theorem createUserWithPassword_panic {s : S.State} {user password : String} :
    (createUserWithPassword S s user password).2 = .panic ↔ Garbled S s user password := by
  unfold createUserWithPassword Garbled
  cases hknown : isUserInPasswd (S.passwd s) user with
  | panic => exact absurd hknown (isUserInPasswd_ne_panic _ _)
  | err e => simp
  | ok known =>
  cases known with
  | true => simp
  | false =>
      simp only [true_and]
      cases hencrypted : isPasswordEncrypted password with
      | true => simpa using succeeded_ne_panic _
      | false =>
          simp only [Bool.false_eq_true, if_false, true_and]
          rcases S.openssl s password with ⟨s', _ | stdout⟩
          · simp
          · simp only [Option.some.injEq, exists_eq_left']
            cases htext : String.fromUTF8? stdout.toByteArray with
            | none => simp
            | some encrypted => simpa using succeeded_ne_panic _

/-- A set-up stops the program over a line that is cut short, or a password that is no text. -/
theorem System.setup_panic {s : S.State} {setup : Setup} : (S.machine.setup s setup).2 = .panic ↔
    (∃ user key text contents, setup = .installSshKey user key ∧ S.passwd s = some text ∧
      findUser text user = some contents ∧ CutShort contents) ∨
    ∃ user password, setup = .createUserWithPassword user password ∧ Garbled S s user password := by
  cases setup with
  | createUserWithPassword user password => simpa [machine] using createUserWithPassword_panic
  | createUser user => simpa [machine] using createUser_ne_panic s user
  | performRhsm organizationId activationKey performInsights => simpa [machine] using succeeded_ne_panic _
  | rebindClevis diskLabel pin config reencrypt => simpa [machine] using succeeded_ne_panic _
  | installSshKey user key =>
      have hpanic : (installSshKey S s user key).2 = .panic ↔ getUserUidGidHome (S.passwd s) user = .panic := by
        unfold installSshKey
        cases getUserUidGidHome (S.passwd s) user with
        | ok found => simpa using succeeded_ne_panic _
        | err e => simp
        | panic => simp
      simpa [machine, getUserUidGidHome_panic] using hpanic

/-- Where every line of `/etc/passwd` is whole and `openssl` prints text, nothing stops. -/
theorem System.not_setupStops (hpasswd : ∀ s text user contents, S.passwd s = some text →
      findUser text user = some contents → ¬ CutShort contents)
    (hopenssl : ∀ s user password, ¬ Garbled S s user password) (p : Progress S.machine) : ¬ SetupStops p := by
  have hsetup (s : S.State) (setup : Setup) : (S.machine.setup s setup).2 ≠ .panic := by
    intro hpanic
    rcases System.setup_panic.mp hpanic with ⟨user, _, text, contents, -, htext, hfound, hcut⟩ | ⟨_, _, -, hgarbled⟩
    · exact hpasswd s text user contents htext hfound hcut
    · exact hopenssl _ _ _ hgarbled
  have hsetups (wanted : List Setup) (s : S.State) : (S.machine.setups s wanted).2 ≠ .panic := by
    induction wanted generalizing s with
    | nil => simp [Machine.setups]
    | cons setup rest ih =>
        have hfirst := hsetup s setup
        simp only [Machine.setups]
        rcases hsetup : S.machine.setup s setup with ⟨s', ⟨⟩ | ⟨⟩ | _⟩
        · exact ih s'
        · simp
        · exact absurd (congrArg Prod.snd hsetup) hfirst
  rintro ⟨account, -, hpanic | ⟨subscription, -, hpanic⟩⟩
  · exact hsetups _ _ hpanic
  · exact hsetups _ _ hpanic

end FidoOnboard.Client
