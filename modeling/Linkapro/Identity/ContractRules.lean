import Linkapro.Identity.AccountParts

/-!
# Identity: rules for further contracts

What an execution may save can be described in many ways. The rules here hold for every
contract that leaves free all calls but the transactions, the update of a token version
and the save of a provider identity. They follow a handler from its reads to what it
is going to save.
-/

namespace Linkapro.Identity

open Lib Lib.Action

/-- The calls that a contract has something to say about. -/
def AccountOp.isPlain : AccountOp → Bool
  | .commit _ | .bumpAuthTokenVersion _ | .service (.saveOAuthToken _) => false
  | _ => true

/-- A contract that leaves all plain calls free, of a store that answers a query by id with the
row of this id. -/
class Admits (contract : Contract (Raising AccountError AccountOp.Ret)) : Prop where
  plain : ∀ log op, op.isPlain = true → contract.allowed log op
  keyed : ∀ userId row, contract.possible ⟨.getById userId, .ok (some row)⟩ → row.id = userId

/-- The rows that an execution has read. -/
def readRows (log : AccountLog) : List UserRow := log.filterMap readRow

theorem mem_readRows_mono {log log' : AccountLog} (hlog : log <:+ log') {row : UserRow}
    (h : row ∈ readRows log) : row ∈ readRows log' :=
  (hlog.filterMap readRow).subset h

/-- A way in which logs grow, among others by plain calls. -/
class Frame (R : AccountLog → AccountLog → Prop) : Prop where
  refl : ∀ log, R log log
  trans : ∀ {first second third}, R first second → R second third → R first third
  suffix : ∀ {log log'}, R log log' → log <:+ log'
  plain : ∀ {log} {op : AccountOp} (answer : Except AccountError op.Ret), op.isPlain = true →
    R log (⟨op, answer⟩ :: log)

instance : Frame List.IsSuffix where
  refl _ := List.suffix_rfl
  trans := List.IsSuffix.trans
  suffix := id
  plain _ _ := List.suffix_cons _ _

/-- A log has grown by plain calls only. -/
def PlainExtension (log log' : AccountLog) : Prop :=
  ∃ calls, log' = calls ++ log ∧ ∀ call ∈ calls, call.1.isPlain = true

instance : Frame PlainExtension where
  refl _ := ⟨[], rfl, fun _ h => by cases h⟩
  trans := by
    rintro log _ _ ⟨calls, rfl, hcalls⟩ ⟨later, rfl, hlater⟩
    refine ⟨later ++ calls, (List.append_assoc _ _ _).symm, fun call hcall => ?_⟩
    exact (List.mem_append.mp hcall).elim (hlater call) (hcalls call)
  suffix := by
    rintro log _ ⟨calls, rfl, _⟩
    exact List.suffix_append _ _
  plain answer hplain := ⟨[⟨_, answer⟩], rfl, fun call hcall => by
    rwa [List.mem_singleton.mp hcall]⟩

/-- A part of an execution that follows a contract, with the way in which its log grows and what
the log shows of its value. -/
def Ruled {α : Type} (R : AccountLog → AccountLog → Prop)
    (contract : Contract (Raising AccountError AccountOp.Ret)) (log : AccountLog)
    (action : AccountAction α) (P : AccountLog → α → Prop) : Prop :=
  action.Follows contract log fun log' outcome =>
    R log log' ∧ ∀ value, outcome = .ok value → P log' value

/-- A part that performs plain calls only, inside a part that also performs others. -/
theorem Ruled.of_plain {α : Type} {contract : Contract (Raising AccountError AccountOp.Ret)}
    {log : AccountLog} {action : AccountAction α} {P : AccountLog → α → Prop}
    (h : Ruled PlainExtension contract log action P) :
    Ruled List.IsSuffix contract log action fun log' value =>
      PlainExtension log log' ∧ P log' value :=
  Follows.mono h fun _ _ h => ⟨Frame.suffix h.1, fun value hvalue => ⟨h.1, h.2 value hvalue⟩⟩

section Rules

variable {R : AccountLog → AccountLog → Prop} [Frame R]
  {contract : Contract (Raising AccountError AccountOp.Ret)} {log : AccountLog} {α β : Type}

theorem Ruled.pure {P : AccountLog → α → Prop} {value : α} (h : P log value) :
    Ruled R contract log (pure value) P := by
  refine ⟨Frame.refl _, ?_⟩
  rintro _ ⟨⟩
  exact h

theorem Ruled.throw {P : AccountLog → α → Prop} {error : AccountError} :
    Ruled R contract log (throw error) P :=
  ⟨Frame.refl _, fun _ h => by cases h⟩

theorem Ruled.bind {P : AccountLog → α → Prop} {Q : AccountLog → β → Prop}
    {action : AccountAction α} {f : α → AccountAction β} (h : Ruled R contract log action P)
    (hf : ∀ log' value, R log log' → P log' value → Ruled R contract log' (f value) Q) :
    Ruled R contract log (action >>= f) Q := by
  refine Follows.bind h (fun log' value h => ?_) fun log' error h => ?_
  · refine (hf log' value h.1 (h.2 value rfl)).mono fun log'' outcome h' => ?_
    exact ⟨Frame.trans h.1 h'.1, h'.2⟩
  · exact ⟨h.1, fun _ h => by cases h⟩

omit [Frame R] in
theorem Ruled.mono {P Q : AccountLog → α → Prop} {action : AccountAction α}
    (h : Ruled R contract log action P)
    (hPQ : ∀ log' value, R log log' → P log' value → Q log' value) :
    Ruled R contract log action Q :=
  Follows.mono h fun log' _ h => ⟨h.1, fun value hvalue => hPQ log' value h.1 (h.2 value hvalue)⟩

omit [Frame R] in
/-- A call that the contract allows: the log shows its answer from then on. -/
theorem Ruled.call {op : AccountOp} (h : contract.allowed log op)
    (hR : ∀ answer : Except AccountError op.Ret, R log (⟨op, answer⟩ :: log)) :
    Ruled R contract log (query op) fun log' answer =>
      log' = ⟨op, .ok answer⟩ :: log ∧ contract.possible ⟨op, .ok answer⟩ := by
  refine ⟨h, fun answer hpossible => ⟨hR answer, ?_⟩⟩
  rintro value rfl
  exact ⟨rfl, hpossible⟩

theorem Ruled.orRaise {outcome : Except AccountError α} :
    Ruled R contract log (orRaise outcome) fun log' value => log' = log ∧ outcome = .ok value := by
  cases outcome with
  | ok value => exact Ruled.pure ⟨rfl, rfl⟩
  | error error => exact Ruled.throw

theorem Ruled.presentOr {error : AccountError} {found : Option α} :
    Ruled R contract log (presentOr error found) fun log' value =>
      log' = log ∧ found = some value := by
  cases found with
  | none => exact Ruled.throw
  | some value => exact Ruled.pure ⟨rfl, rfl⟩

theorem Ruled.foundOr {message : String} {found : Option User} :
    Ruled R contract log (foundOr message found) fun log' value =>
      log' = log ∧ found = some value := by
  cases found with
  | none => exact Ruled.throw
  | some value => exact Ruled.pure ⟨rfl, rfl⟩

omit [Frame R] in
theorem Ruled.ite {c : Prop} [Decidable c] {first second : AccountAction α}
    {P : AccountLog → α → Prop} (hfirst : c → Ruled R contract log first P)
    (hsecond : ¬ c → Ruled R contract log second P) :
    Ruled R contract log (if c then first else second) P := by
  split
  · next h => exact hfirst h
  · next h => exact hsecond h

theorem Ruled.forM {items : List β} {f : β → AccountAction PUnit}
    (h : ∀ item ∈ items, ∀ log', Ruled R contract log' (f item) fun _ _ => True) :
    Ruled R contract log (items.forM f) fun _ _ => True := by
  induction items generalizing log with
  | nil => exact Ruled.pure trivial
  | cons item items ih =>
    refine Ruled.bind (h item List.mem_cons_self log) fun _ _ _ _ => ?_
    exact ih fun item hmem => h item (List.mem_cons_of_mem _ hmem)

/-- The aggregate of a row that has been read. -/
theorem ruled_rowToDomain {row : Option UserRow} :
    Ruled R contract log (rowToDomain row) fun _ found =>
      ∀ user, found = some user → ∃ read, row = some read ∧ read.toDomain = .ok user := by
  cases row with
  | none => exact Ruled.pure fun _ h => by cases h
  | some row =>
    refine Ruled.bind Ruled.orRaise fun log' user _ huser => Ruled.pure ?_
    rintro _ ⟨⟩
    exact ⟨row, rfl, huser.2⟩

end Rules

section Parts

variable {R : AccountLog → AccountLog → Prop} [Frame R]
  {contract : Contract (Raising AccountError AccountOp.Ret)} [Admits contract]
  {log : AccountLog} {user : User} {β : Type}

/-- A plain call. -/
theorem Ruled.query {op : AccountOp} (h : op.isPlain = true) :
    Ruled R contract log (query op) fun log' answer =>
      (⟨op, .ok answer⟩ : AccountCall) ∈ log' ∧ contract.possible ⟨op, .ok answer⟩ := by
  have hallowed : contract.allowed log op := Admits.plain log op h
  have hcall := Ruled.call hallowed fun answer => Frame.plain (R := R) answer h
  refine hcall.mono fun log' answer _ hcall => ⟨?_, hcall.2⟩
  rw [hcall.1]
  exact List.mem_cons_self

theorem ruled_dispatchEvents : Ruled R contract log (dispatchEvents user) fun _ _ => True :=
  Ruled.forM fun _ _ _ => (Ruled.query rfl).mono fun _ _ _ _ => trivial

theorem ruled_revokeAllSessions {userId : UUID} {reason : String} :
    Ruled R contract log (revokeAllSessions accountSessions userId reason) fun _ _ => True := by
  refine Ruled.bind (Ruled.query rfl) fun _ sessions _ _ => ?_
  refine Ruled.bind (Ruled.forM fun _ _ _ => (Ruled.query rfl).mono fun _ _ _ _ => trivial)
    fun _ _ _ _ => ?_
  exact (Ruled.query rfl).mono fun _ _ _ _ => trivial

/-- A load by id finds the aggregate of a row with this id, which the log shows. -/
theorem ruled_getById {userId : UUID} :
    Ruled R contract log (getById userId) fun log' found =>
      ∀ user, found = some user →
        ∃ row ∈ readRows log', row.id = userId ∧ row.toDomain = .ok user := by
  refine Ruled.bind (Ruled.query rfl) fun log' row _ hrow => ?_
  refine Ruled.mono ruled_rowToDomain fun log'' found hlog'' hfound user huser => ?_
  obtain ⟨read, rfl, hdomain⟩ := hfound user huser
  have hread : read ∈ readRows log' := List.mem_filterMap.mpr ⟨_, hrow.1, rfl⟩
  exact ⟨read, mem_readRows_mono (Frame.suffix hlog'') hread, Admits.keyed userId read hrow.2,
    hdomain⟩

theorem ruled_getByEmail {email : Email} :
    Ruled R contract log (getByEmail email) fun log' found =>
      ∀ user, found = some user → ∃ row ∈ readRows log', row.toDomain = .ok user := by
  refine Ruled.bind (Ruled.query rfl) fun log' row _ hrow => ?_
  refine Ruled.mono ruled_rowToDomain fun log'' found hlog'' hfound user huser => ?_
  obtain ⟨read, rfl, hdomain⟩ := hfound user huser
  have hread : read ∈ readRows log' := List.mem_filterMap.mpr ⟨_, hrow.1, rfl⟩
  exact ⟨read, mem_readRows_mono (Frame.suffix hlog'') hread, hdomain⟩

/-- A load by id that has to find the account. -/
theorem ruled_getById_foundOr {userId : UUID} {message : String} {f : User → AccountAction β}
    {Q : AccountLog → β → Prop}
    (hf : ∀ log' user row, R log log' → row ∈ readRows log' → row.id = userId →
      row.toDomain = .ok user → Ruled R contract log' (f user) Q) :
    Ruled R contract log
      (do
        let found ← getById userId
        let user ← foundOr message found
        f user) Q := by
  refine Ruled.bind ruled_getById fun log' found hlog' hfound => ?_
  refine Ruled.bind Ruled.foundOr fun log'' user hlog'' huser => ?_
  obtain ⟨rfl, huser⟩ := huser
  obtain ⟨row, hrow, hid, hdomain⟩ := hfound user huser
  exact hf log'' user row hlog' hrow hid hdomain

/-- The plan of a save: a row that holds the aggregate. -/
theorem ruled_prepareSave {pending : List AccountStatement} :
    Ruled R contract log (prepareSave pending user) fun _ plan =>
      plan.row.Holds user ∧ WritesNoUser plan.remembered := by
  have hpassword (log' : AccountLog) :
      Ruled R contract log' (storedPassword user) fun _ password =>
        (user.passwordHash.map PasswordHash.value).filter isPasswordUsable =
          (some password).filter fun password => password ≠ "" ∧ isPasswordUsable password := by
    unfold storedPassword
    split
    · next hash hhash =>
      refine Ruled.pure ?_
      rw [hhash, Option.map_some]
      exact filter_value hash
    · next hnone =>
      refine Ruled.bind (Ruled.query rfl) fun _ (suffix : String) _ _ => Ruled.pure ?_
      rw [hnone, Option.map_none, Option.filter_none, Option.filter_some,
        if_neg (by simp [isPasswordUsable_marked])]
  refine Ruled.bind (Ruled.query rfl) fun log' stored _ _ => ?_
  refine Ruled.bind (hpassword log') fun log'' password _ hpassword => Ruled.pure ?_
  exact ⟨holds_ofDomain hpassword, writesNoUser_rememberNewPassword⟩

/-- What a save inside a unit of work leaves pending. -/
theorem ruled_savePending {pending : List AccountStatement} :
    Ruled R contract log (savePending pending user) fun _ saved => Pending user pending saved := by
  refine Ruled.bind ruled_prepareSave fun log' plan _ hplan => ?_
  refine Ruled.bind Ruled.orRaise fun log'' saved _ hsaved => Ruled.pure ⟨?_⟩
  exact ⟨plan.row, plan.remembered, rfl, hplan.1, hplan.2, hsaved.2⟩

/-- Statements that write no user row save none. -/
theorem savedRows_of_writesNoUser {statements : List AccountStatement}
    (h : WritesNoUser statements) : statements.filterMap AccountStatement.savedRow = [] := by
  refine List.filterMap_eq_nil_iff.mpr fun statement hmem => ?_
  have htarget := h statement hmem
  cases statement with
  | saveUser row => cases htarget
  | _ => rfl

/-- The rows that a unit of work saves: the pending ones and one that holds the aggregate. -/
theorem Pending.savedRows {pending : List AccountStatement} {saved : PendingSave}
    (h : Pending user pending saved) : ∃ row, row.Holds user ∧ row.toDomain = .ok saved.user ∧
      saved.statements.filterMap AccountStatement.savedRow =
        pending.filterMap AccountStatement.savedRow ++ [row] := by
  obtain ⟨row, back, hstatements, hrow, hback, hdomain⟩ := h.statements
  refine ⟨row, hrow, hdomain, ?_⟩
  rw [hstatements, List.filterMap_append, List.filterMap_cons, savedRows_of_writesNoUser hback]
  rfl

theorem ruled_issueAuthenticatedTokens :
    Ruled R contract log (issueAuthenticatedTokens accountSessions user) fun _ _ => True := by
  refine Ruled.bind (Ruled.query rfl) fun _ family _ _ => ?_
  refine Ruled.bind (Ruled.query rfl) fun _ sessionId _ _ => ?_
  refine Ruled.bind (Ruled.query rfl) fun _ accessToken _ _ => ?_
  refine Ruled.bind (Ruled.query rfl) fun _ refreshToken _ _ => ?_
  exact Ruled.pure trivial

theorem ruled_evaluateOAuthLogin :
    Ruled R contract log (evaluateOAuthLogin user) fun _ _ => True := by
  unfold evaluateOAuthLogin finalizeLogin
  refine Ruled.ite (fun _ => Ruled.ite (fun _ => ?_) fun _ => ruled_issueAuthenticatedTokens)
    fun _ => Ruled.pure trivial
  refine Ruled.bind (Ruled.query rfl) fun _ now _ _ => ?_
  refine Ruled.bind (Ruled.query rfl) fun _ challengeId _ _ => ?_
  refine Ruled.bind (Ruled.query rfl) fun _ _ _ _ => ?_
  exact Ruled.bind (Ruled.query rfl) fun _ _ _ _ => Ruled.pure trivial

/-- The link that an existing account gets: the given one, or a new one of this account under a
random id. -/
theorem ruled_linkFor {cmd : GoogleLoginCommand} {link : Option OAuthToken} :
    Ruled R contract log (linkFor cmd user link) fun log' token =>
      link = some token ∨ (link = none ∧ token.userId = user.id ∧
        ⟨.service .uuid4, (.ok token.id : Except AccountError UUID)⟩ ∈ log') := by
  unfold linkFor
  split
  · exact Ruled.pure (Or.inl rfl)
  · refine Ruled.bind (Ruled.query rfl) fun log' tokenId _ hcall => Ruled.pure ?_
    exact Or.inr ⟨rfl, rfl, hcall.1⟩

/-- The checks of a new password against the former ones. -/
theorem ruled_ensureNotReused {plainPassword : String} {history : List PasswordHash} :
    Ruled R contract log (ensureNotReused plainPassword history) fun _ _ => True := by
  refine Ruled.forM fun hash _ log' => ?_
  refine Ruled.bind (Ruled.query rfl) fun _ matching _ _ => ?_
  exact Ruled.ite (fun _ => Ruled.throw) fun _ => Ruled.pure trivial

theorem ruled_getPasswordHistory {userId : UUID} :
    Ruled R contract log (getPasswordHistory userId) fun _ _ => True := by
  refine Ruled.bind (Ruled.query rfl) fun _ row _ _ => ?_
  unfold passwordHistoryOf
  split
  · exact Ruled.pure trivial
  · refine Ruled.bind Ruled.orRaise fun _ current _ _ => ?_
    refine Ruled.bind (Ruled.query rfl) fun _ former _ _ => ?_
    exact Ruled.bind Ruled.orRaise fun _ _ _ _ => Ruled.pure trivial

end Parts

end Linkapro.Identity
