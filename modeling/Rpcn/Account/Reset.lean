/-
  File:      Rpcn/Account/Reset.lean
  Subject:   DOES A RESET CODE WORK ONCE? `ResetPassword` and `SendResetToken` for one user.

  `reset_password` checks the code in one statement and writes the password in another. The second
  one tests the code again, in its `WHERE`, and draws a new one; so of two requests with one code
  only the first changes the row. But `update_user_password` does not look at the number of rows it
  changed: the second request is answered `NoError` as well, and its password is not set
  (`code_answered_twice`).
-/
import Mathlib.Data.List.Nodup
import Rpcn.Lib.Run
import Rpcn.Lib.Tasks
import Rpcn.Np2Structs

namespace Rpcn.Account.Reset

open Lib

/-! ## 1. The row of the user -/

structure ResetRow where
  username : String
  hash : List UInt8
  salt : List UInt8
  emailCheck : String
  resetToken : Option String
  resetEmit : Option UInt32
  deriving DecidableEq

structure Draw where
  token : String
  salt : List UInt8
  now : UInt32
  mailSent : Bool
  deriving DecidableEq

namespace ResetRow

def checkResetToken (row : ResetRow) (username token : String) : Bool :=
  row.username = username && row.resetToken = some token

/-- `update_user_password`: nothing happens where the token is no longer the account's. -/
def updateUserPassword (hashRaw : String → List UInt8 → List UInt8) (row : ResetRow)
    (oldToken newPassword : String) (d : Draw) : ResetRow :=
  if row.resetToken = some oldToken then
    { row with hash := hashRaw newPassword d.salt, salt := d.salt, resetToken := some d.token }
  else row

def updatePasswordToken (row : ResetRow) (d : Draw) : ResetRow :=
  { row with resetToken := some d.token }

def checkEmail (row : ResetRow) (username email : String) : Bool :=
  row.username = username && row.emailCheck = email

/-- **The password of the account**, as `check_user` tests it. -/
def HasPassword (hashRaw : String → List UInt8 → List UInt8) (row : ResetRow) (password : String) :
    Prop :=
  row.hash = hashRaw password row.salt

end ResetRow

/-! ## 2. Requests -/

structure ResetPasswordRequest where
  username : String
  token : String
  newPassword : String
  deriving DecidableEq

structure SendResetTokenRequest where
  username : String
  email : String
  deriving DecidableEq

/-- `strip_email`; an address without an `@` makes it panic. -/
def stripEmail (email : String) : Option String :=
  match (email.toList.map Char.toLower).splitOn '@' with
  | name :: domain :: _ => some (.ofList ((name.splitOn '+').headD [] ++ '@' :: domain))
  | _ => none

inductive ResetPlace where
  | check
  | update
  | replied (r : ErrorType)
  deriving DecidableEq

inductive SendPlace where
  | check
  | time
  | update
  | mail
  | stamp
  | replied (r : ErrorType)
  | panicked
  deriving DecidableEq

inductive Task where
  | reset (req : ResetPasswordRequest) (place : ResetPlace)
  | send (req : SendResetTokenRequest) (place : SendPlace)
  deriving DecidableEq

/-- The answer to a `ResetPassword`, where a step gives one. -/
abbrev Answer := Option (ResetPasswordRequest × ErrorType)

def ResetPasswordRequest.step (hashRaw : String → List UInt8 → List UInt8) (d : Draw)
    (row : ResetRow) (req : ResetPasswordRequest) : ResetPlace → Option (Answer × ResetRow × Task)
  | .check =>
    if row.checkResetToken req.username req.token then some (none, row, .reset req .update)
    else some (some (req, .loginError), row, .reset req (.replied .loginError))
  | .update =>
    some (some (req, .noError), row.updateUserPassword hashRaw req.token req.newPassword d,
      .reset req (.replied .noError))
  | .replied _ => none

def SendResetTokenRequest.step (d : Draw) (row : ResetRow) (req : SendResetTokenRequest) :
    SendPlace → Option (Answer × ResetRow × Task)
  | .check =>
    match stripEmail req.email with
    | none => some (none, row, .send req .panicked)
    | some email =>
      if row.checkEmail req.username email then some (none, row, .send req .time)
      else some (none, row, .send req (.replied .loginError))
  | .time =>
    -- at most one mail in 24 hours; the difference of two `u32`
    if row.resetEmit.any fun t => d.now - t < 24 * 60 * 60 then
      some (none, row, .send req (.replied .tooSoon))
    else some (none, row, .send req .update)
  | .update => some (none, row.updatePasswordToken d, .send req .mail)
  | .mail =>
    if d.mailSent then some (none, row, .send req .stamp)
    else some (none, row, .send req (.replied .emailFail))
  | .stamp => some (none, { row with resetEmit := some d.now }, .send req (.replied .noError))
  | .replied _ | .panicked => none

/-! ## 3. The server -/

structure Config where
  isEmailValidated : Bool
  hashRaw : String → List UInt8 → List UInt8

abbrev Server := Pool ResetRow Task

inductive ResetOp where
  | resetPassword (req : ResetPasswordRequest)
  | sendResetToken (req : SendResetTokenRequest)
  /-- The next step of request `i`. -/
  | next (i : Nat) (d : Draw)
  deriving DecidableEq

def Task.step (cfg : Config) (d : Draw) (row : ResetRow) : Task → Option (Answer × ResetRow × Task)
  | .reset req place => req.step cfg.hashRaw d row place
  | .send req place => req.step d row place

def Server.serve (cfg : Config) (p : Server) : ResetOp → Option (Answer × Server)
  | .resetPassword req =>
    if cfg.isEmailValidated then some (none, p.spawn (.reset req .check))
    else some (some (req, .invalid), p.spawn (.reset req (.replied .invalid)))
  | .sendResetToken req =>
    if cfg.isEmailValidated then some (none, p.spawn (.send req .check))
    else some (none, p.spawn (.send req (.replied .invalid)))
  | .next i d => p.act i (Task.step cfg d)

/-- **The server**, from any row of the user on. -/
def resetServer (cfg : Config) (row : ResetRow) : System Server ResetOp Answer :=
  .ofPartial ⟨row, []⟩ (Server.serve cfg)

/-! ## 4. Once -/

/-- The codes answered `NoError`, in order. -/
def usedTokens (es : List (ResetOp × Answer)) : List String :=
  es.filterMap fun e =>
    match e.2 with
    | some (req, .noError) => some req.token
    | _ => none

def Named (p : Server) (token : String) : Prop :=
  ∃ (i : Nat) (req : ResetPasswordRequest) (place : ResetPlace),
    p.tasks[i]? = some (.reset req place) ∧ req.token = token

/-- **The condition on a step**: when a request writes its password, its code is still the
    account's; and a token that is drawn is new, no request so far names it. -/
def CodeGuard (p : Server) : ResetOp → Prop
  | .next i d =>
    (∀ req, p.tasks[i]? = some (.reset req .update) →
      p.shared.resetToken = some req.token ∧ ¬ Named p d.token) ∧
    (∀ req, p.tasks[i]? = some (.send req .update) → ¬ Named p d.token)
  | _ => True

/-- **What a step does**: it writes a password under a code that is still valid, issues a code, or
    leaves the token alone and answers no `NoError`. -/
inductive Moves (cfg : Config) (p : Server) : Answer → Server → Prop where
  | written {i : Nat} {req : ResetPasswordRequest} {d : Draw} {row : ResetRow}
      (hi : p.tasks[i]? = some (.reset req .update))
      (valid : p.shared.resetToken = some req.token) (new : ¬ Named p d.token)
      (hrow : row = { p.shared with
        hash := cfg.hashRaw req.newPassword d.salt, salt := d.salt, resetToken := some d.token }) :
      Moves cfg p (some (req, .noError)) (p.update i row (.reset req (.replied .noError)))
  | issued {i : Nat} {d : Draw} {row : ResetRow} {t : Task} (new : ¬ Named p d.token)
      (hrow : row.resetToken = some d.token)
      (named : ∀ token, Named p token → Named (p.update i row t) token) :
      Moves cfg p none (p.update i row t)
  | other {a : Answer} {p' : Server} (ha : ∀ req, a ≠ some (req, .noError))
      (htoken : p'.shared.resetToken = p.shared.resetToken)
      (named : ∀ token, Named p token → Named p' token) : Moves cfg p a p'

variable {p : Server} {token : String}

theorem Named.spawn (h : Named p token) (t : Task) : Named (p.spawn t) token := by
  obtain ⟨i, req, place, hi, ht⟩ := h
  exact ⟨i, req, place, Pool.get_spawn_old hi, ht⟩

variable {i : Nat} {req : ResetPasswordRequest} {place : ResetPlace} {row : ResetRow}

theorem Named.update_reset (h : Named p token) {place' : ResetPlace}
    (hi : p.tasks[i]? = some (.reset req place)) :
    Named (p.update i row (.reset req place')) token := by
  obtain ⟨j, req', place₁, hj, ht⟩ := h
  by_cases e : j = i
  · rw [e, hi] at hj
    cases hj
    exact ⟨i, req, place', Pool.get_update_self hi, ht⟩
  · exact ⟨j, req', place₁, by rw [Pool.get_update_ne e, hj], ht⟩

variable {t : Task}

theorem Named.update_send (h : Named p token) {req : SendResetTokenRequest} {place : SendPlace}
    (hi : p.tasks[i]? = some (.send req place)) : Named (p.update i row t) token := by
  obtain ⟨j, req', place', hj, ht⟩ := h
  have hne : j ≠ i := by
    intro e
    rw [e, hi] at hj
    cases hj
  exact ⟨j, req', place', by rw [Pool.get_update_ne hne, hj], ht⟩

variable {cfg : Config} {d : Draw} {a : Answer}

theorem Server.next_reset_moves (hi : p.tasks[i]? = some (.reset req place))
    (hg : CodeGuard p (.next i d)) (h : req.step cfg.hashRaw d p.shared place = some (a, row, t)) :
    Moves cfg p a (p.update i row t) := by
  cases place with
  | check =>
    rw [ResetPasswordRequest.step] at h
    split at h
    · cases h
      exact .other (fun _ => by simp) rfl fun _ hn => hn.update_reset hi
    · cases h
      exact .other (fun _ => by simp) rfl fun _ hn => hn.update_reset hi
  | update =>
    obtain ⟨valid, new⟩ := hg.1 req hi
    rw [ResetPasswordRequest.step, ResetRow.updateUserPassword, if_pos valid] at h
    cases h
    exact .written hi valid new rfl
  | replied r => cases h

theorem Server.next_send_moves {req : SendResetTokenRequest} {place : SendPlace}
    (hi : p.tasks[i]? = some (.send req place)) (hg : CodeGuard p (.next i d))
    (h : req.step d p.shared place = some (a, row, t)) : Moves cfg p a (p.update i row t) := by
  have hnamed : ∀ token, Named p token → Named (p.update i row t) token :=
    fun _ hn => hn.update_send hi
  cases place with
  | check =>
    rw [SendResetTokenRequest.step] at h
    split at h
    · cases h
      exact .other (fun _ => by simp) rfl hnamed
    · split at h
      all_goals
        cases h
        exact .other (fun _ => by simp) rfl hnamed
  | time =>
    rw [SendResetTokenRequest.step] at h
    split at h
    all_goals
      cases h
      exact .other (fun _ => by simp) rfl hnamed
  | update =>
    cases h
    exact .issued (hg.2 req hi) rfl hnamed
  | mail =>
    rw [SendResetTokenRequest.step] at h
    split at h
    all_goals
      cases h
      exact .other (fun _ => by simp) rfl hnamed
  | stamp =>
    cases h
    exact .other (fun _ => by simp) rfl hnamed
  | replied r => cases h
  | panicked => cases h

variable {p' : Server}

theorem Server.serve_moves {op : ResetOp} (hg : CodeGuard p op)
    (h : p.serve cfg op = some (a, p')) : Moves cfg p a p' := by
  cases op with
  | resetPassword req =>
    rw [serve] at h
    split at h
    all_goals
      cases h
      exact .other (fun _ => by simp) rfl fun _ hn => hn.spawn _
  | sendResetToken req =>
    rw [serve] at h
    split at h
    all_goals
      cases h
      exact .other (fun _ => by simp) rfl fun _ hn => hn.spawn _
  | next i d =>
    obtain ⟨t, row, t', hi, ht, rfl⟩ := Pool.act_eq_some h
    cases t with
    | reset req place => exact next_reset_moves hi hg ht
    | send req place => exact next_send_moves hi hg ht

/-- **A code that was answered `NoError` is dead**: it is not the account's, and as the request that
    used it stays known, it is not drawn again. -/
structure Once (es : List (ResetOp × Answer)) (p : Server) : Prop where
  nodup : (usedTokens es).Nodup
  dead : ∀ token ∈ usedTokens es, p.shared.resetToken ≠ some token
  named : ∀ token ∈ usedTokens es, Named p token

variable (es : List (ResetOp × Answer))

variable (op : ResetOp)

theorem usedTokens_snoc_other (ha : ∀ req, a ≠ some (req, .noError)) :
    usedTokens (es ++ [(op, a)]) = usedTokens es := by
  unfold usedTokens
  rw [List.filterMap_append]
  refine (congrArg _ ?_).trans (List.append_nil _)
  cases a with
  | none => rfl
  | some x =>
    obtain ⟨req, r⟩ := x
    cases r with
    | noError => exact absurd rfl (ha req)
    | _ => rfl

theorem usedTokens_snoc_noError (req : ResetPasswordRequest) :
    usedTokens (es ++ [(op, some (req, .noError))]) = usedTokens es ++ [req.token] := by
  unfold usedTokens
  rw [List.filterMap_append]
  rfl

theorem Once.step {cfg : Config} {es : List (ResetOp × Answer)} {p p' : Server} {op : ResetOp}
    {a : Answer} (h : Once es p) (hm : Moves cfg p a p') : Once (es ++ [(op, a)]) p' := by
  cases hm with
  | @written i req d row hi valid new hrow =>
    rw [hrow]
    have hown : Named p req.token := ⟨i, req, .update, hi, rfl⟩
    have hunused : req.token ∉ usedTokens es := fun hm => h.dead _ hm valid
    -- the code drawn is none of those used, nor the one used now
    have hnew : ∀ token, Named p token → some d.token ≠ some token := by
      intro token hn e
      exact new ((Option.some.inj e) ▸ hn)
    constructor
    case nodup =>
      rw [usedTokens_snoc_noError]
      refine List.nodup_append.mpr ⟨h.nodup, List.nodup_singleton _, ?_⟩
      intro x hx y hy e
      rw [List.mem_singleton.mp hy] at e
      exact hunused (e ▸ hx)
    all_goals
      intro token ht
      rw [usedTokens_snoc_noError, List.mem_append, List.mem_singleton] at ht
      have hn : Named p token := by
        rcases ht with ht | rfl
        · exact h.named _ ht
        · exact hown
    case dead => exact hnew token hn
    case named => exact hn.update_reset hi
  | issued new hrow named =>
    have hused := usedTokens_snoc_other es op (a := none) fun _ => by simp
    constructor
    case nodup => exact hused ▸ h.nodup
    case dead =>
      intro token ht e
      rw [hused] at ht
      rw [Pool.shared_update, hrow] at e
      exact new ((Option.some.inj e) ▸ h.named token ht)
    case named => exact fun token ht => named token (h.named token (hused ▸ ht))
  | other ha htoken named =>
    have hused := usedTokens_snoc_other es op ha
    constructor
    case nodup => exact hused ▸ h.nodup
    case dead =>
      intro token ht
      rw [htoken]
      exact h.dead token (hused ▸ ht)
    case named => exact fun token ht => named token (h.named token (hused ▸ ht))

theorem Moves.password (hm : Moves cfg p (some (req, .noError)) p') :
    p'.shared.HasPassword cfg.hashRaw req.newPassword := by
  cases hm with
  | written hi valid new hrow =>
    rw [hrow]
    rfl
  | other ha htoken named => exact absurd rfl (ha req)

/-- **A reset code works once** in every run whose steps meet the condition: no code is answered
    `NoError` twice, and right after the step of a request answered `NoError` the password of the
    account is the one of this request. -/
theorem reset_code_works_once {cfg : Config} {row : ResetRow} {es : List (ResetOp × Answer)}
    {p : Server} (h : ((resetServer cfg row).restrict CodeGuard).Run es p) :
    (usedTokens es).Nodup ∧
      ∀ before op req after, es = before ++ (op, some (req, .noError)) :: after →
        ∃ p', ((resetServer cfg row).restrict CodeGuard).Run
            (before ++ [(op, some (req, .noError))]) p' ∧
          p'.shared.HasPassword cfg.hashRaw req.newPassword := by
  have hI : Once es p := by
    refine h.carried_restrict (I := Once) ⟨List.nodup_nil, ?_, ?_⟩ ?_
    · exact fun _ ht => by cases ht
    · exact fun _ ht => by cases ht
    · intro es p op a p' _ hg hI hs
      exact hI.step (Server.serve_moves hg hs)
  refine ⟨hI.nodup, ?_⟩
  intro before op req after hes
  rw [hes] at h
  obtain ⟨p₁, p₂, _, hg, hs, hrun⟩ := h.split_restrict
  exact ⟨p₂, hrun, (Server.serve_moves hg hs).password⟩

/-! ## 5. Twice -/

def codeGuard (p : Server) : ResetOp → Bool
  | .next i d =>
    let new := p.tasks.all fun t =>
      match t with
      | .reset req _ => req.token ≠ d.token
      | .send _ _ => true
    match p.tasks[i]? with
    | some (.reset req .update) => p.shared.resetToken = some req.token && new
    | some (.send _ .update) => new
    | _ => true
  | _ => true

theorem not_named_of_all (h : (p.tasks.all fun t =>
      match t with
      | .reset req _ => req.token ≠ token
      | .send _ _ => true) = true) : ¬ Named p token := by
  rintro ⟨i, req, place, hi, ht⟩
  have := List.all_eq_true.mp h _ (List.mem_of_getElem? hi)
  exact absurd ht (of_decide_eq_true this)

theorem codeGuard_spec (p : Server) (op : ResetOp) (h : codeGuard p op = true) :
    CodeGuard p op := by
  cases op with
  | next i d =>
    constructor
    · intro req hi
      simp only [codeGuard, hi, Bool.and_eq_true, decide_eq_true_eq] at h
      exact ⟨h.1, not_named_of_all h.2⟩
    · intro req hi
      simp only [codeGuard, hi] at h
      exact not_named_of_all h
  | _ => trivial

def twoHashes : Config := ⟨true, fun password _ => if password = "first" then [1] else [2]⟩

def adaRow : ResetRow := ⟨"ada", [], [], "ada@x", none, none⟩

def draw (token : String) : Draw := ⟨token, [], 0, true⟩

def sendCode : List ResetOp :=
  .sendResetToken ⟨"ada", "Ada+1@x"⟩ :: List.replicate 5 (.next 0 (draw "A")) ++
    [.resetPassword ⟨"ada", "A", "first"⟩]

theorem reset_code_works_once_again :
    ∃ es p, ((resetServer twoHashes adaRow).restrict CodeGuard).Run es p ∧
      es.map (·.2) = List.replicate 7 none ++ [none, some (⟨"ada", "A", "first"⟩, .noError), none,
        some (⟨"ada", "A", "second"⟩, .loginError)] ∧ (usedTokens es).Nodup := by
  have hrun : (System.execute
      (fun p op => if codeGuard p op then Server.serve twoHashes p op else none)
      (resetServer twoHashes adaRow).init
      (sendCode ++ [ResetOp.next 1 (draw "B"), .next 1 (draw "B"),
        .resetPassword ⟨"ada", "A", "second"⟩, .next 2 (draw "C")])).map
          (fun r => r.1.map (·.2)) =
      some (List.replicate 7 none ++ [none, some (⟨"ada", "A", "first"⟩, .noError), none,
        some (⟨"ada", "A", "second"⟩, .loginError)]) := by
    decide +kernel
  obtain ⟨r, hr, hout⟩ := Option.map_eq_some_iff.mp hrun
  have h := System.Run.start.execute_restrict codeGuard_spec hr
  exact ⟨_, r.2, h, hout, (reset_code_works_once h).1⟩

/-- **One code is answered `NoError` twice**: both requests check it before either writes. The
    second one does not set its password. -/
theorem code_answered_twice :
    ∃ es p, (resetServer twoHashes adaRow).Run es p ∧ usedTokens es = ["A", "A"] ∧
      es.getLast?.map (·.2) = some (some (⟨"ada", "A", "second"⟩, .noError)) ∧
      ¬ p.shared.HasPassword twoHashes.hashRaw "second" := by
  have hrun : (System.execute (Server.serve twoHashes) (resetServer twoHashes adaRow).init
      (sendCode ++ [ResetOp.resetPassword ⟨"ada", "A", "second"⟩, .next 1 (draw "B"),
        .next 2 (draw "B"), .next 1 (draw "B"), .next 2 (draw "C")])).map
          (fun r => (usedTokens r.1, r.1.getLast?.map (·.2), r.2.shared)) =
      some (["A", "A"], some (some (⟨"ada", "A", "second"⟩, .noError)),
        ⟨"ada", [1], [], "ada@x", some "B", some 0⟩) := by
    decide +kernel
  obtain ⟨r, hr, hview⟩ := Option.map_eq_some_iff.mp hrun
  have hused := congrArg Prod.fst hview
  have hlast := congrArg (fun x => x.2.1) hview
  have hrow : r.2.shared = _ := congrArg (fun x => x.2.2) hview
  refine ⟨_, r.2, System.Run.start.execute hr, hused, hlast, fun hp => ?_⟩
  rw [hrow] at hp
  revert hp
  unfold ResetRow.HasPassword
  decide

end Rpcn.Account.Reset
