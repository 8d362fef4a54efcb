import Linkapro.Identity.AccountRuns
import Linkapro.Identity.InterleavedAccounts
import Linkapro.Identity.LinkedIdentities

/-!
# Identity: runs over the table of provider identities

An execution alone changes the stored identities with its commit, by at most one identity.
From what its contract says of this identity and of the saved rows, every account that
had a way to authenticate keeps one, unless the execution relinks the only identity of an
account without a password.
-/

namespace Linkapro.Identity

open Lib Lib.Action

/-- A user is stored without a password that can be checked. -/
def LinkState.Passwordless (s : LinkState) (userId : UUID) : Prop :=
  ∃ row ∈ s.accounts.users.rows, row.id = userId ∧ row.usablePassword = none

/-- An identity that replaces no stored one, or one with the same user, or that is relinked. -/
def Moves (command : IdentityCommand) (before : LinkState) (token : OAuthToken) : Prop :=
  before.links.lookup token.id = none ∨
    ∃ link ∈ before.links.rows, token.id = link.id ∧
      (token.userId = link.userId ∨ Relinks command link token.userId)

/-- A user without a password was so before the execution, or has been linked by it. -/
def Kept (before : LinkState) (log : AccountLog) (s : LinkState) (userId : UUID) : Prop :=
  before.Passwordless userId ∨
    ∃ token, savedTokens log = [token] ∧ token.userId = userId ∧ s.links = s.working

/-- What an execution that runs alone has made of the identities and of the passwords. -/
structure WaysAlone (command : IdentityCommand) (before : LinkState) (log : AccountLog)
    (s : LinkState) : Prop where
  drawn : ∀ id, ⟨.service .uuid4, (.ok id : Except AccountError UUID)⟩ ∈ log →
    before.links.lookup id = none
  phase : (savedTokens log = [] ∧ s.working = before.links ∧
      ∀ link ∈ readLinks log, link ∈ before.links.rows) ∨
    ∃ token, savedTokens log = [token] ∧ Moves command before token ∧
      s.working = before.links.upsert token
  links : s.links = before.links ∨ s.links = s.working
  rows : ∀ row ∈ s.accounts.users.rows, row.usablePassword = none → Kept before log s row.id
  reads : ∀ row ∈ readRows log, row.usablePassword = none → Kept before log s row.id

section Calls

variable {s before : LinkState} {choice : LinkChoice} {op : AccountOp} {command : IdentityCommand}
  {log : AccountLog}

/-- A call leaves the state or takes the effect that it has without a fault. -/
theorem LinkState.exec_state (choice : LinkChoice) (op : AccountOp) (s : LinkState) :
    (exec choice op s).2 = s ∨
      ∃ answer after, effect choice s op = .ok (answer, after) ∧ (exec choice op s).2 = after := by
  unfold exec
  cases heffect : effect choice s op with
  | error error => exact Or.inl rfl
  | ok outcome =>
    cases choice.fault with
    | none => exact Or.inr ⟨_, _, rfl, rfl⟩
    | some fault =>
      by_cases happlied : fault.applied = true ∧ op.commits = true
      · exact Or.inr ⟨_, _, rfl, if_pos happlied⟩
      · exact Or.inl (if_neg happlied)

/-- A successful call has taken its effect. -/
theorem LinkState.effect_of_exec_ok {answer : op.Ret} (h : (exec choice op s).1 = .ok answer) :
    effect choice s op = .ok (answer, (exec choice op s).2) := by
  unfold exec at h ⊢
  cases heffect : effect choice s op with
  | error error =>
    rw [heffect] at h
    cases h
  | ok outcome =>
    rw [heffect] at h
    cases hfault : choice.fault with
    | none =>
      rw [hfault] at h
      cases h
      rfl
    | some fault =>
      rw [hfault] at h
      cases h

/-- A failed call outside a commit leaves the state. -/
theorem LinkState.exec_state_of_error {error : AccountError} (hcommits : op.commits = false)
    (h : (exec choice op s).1 = .error error) : (exec choice op s).2 = s := by
  unfold exec at h ⊢
  cases heffect : effect choice s op with
  | error error => rfl
  | ok outcome =>
    rw [heffect] at h
    cases hfault : choice.fault with
    | none =>
      rw [hfault] at h
      cases h
    | some fault =>
      refine if_neg ?_
      rw [hcommits]
      simp

/-- A state has the users and the identities of another one. -/
structure LinkState.SameTables (after s : LinkState) : Prop where
  users : after.accounts.users = s.accounts.users
  links : after.links = s.links
  working : after.working = s.working

/-- A call on a service leaves the state, unless it saves an identity. -/
theorem LinkState.state_answerCall {call : ServiceCall} {answer : call.Ret} {after : LinkState}
    (hsave : ∀ token, call ≠ .saveOAuthToken token)
    (h : s.answerCall choice call = .ok (answer, after)) : after = s := by
  cases call with
  | saveOAuthToken token => exact absurd rfl (hsave token)
  | uuid4 =>
    simp only [answerCall] at h
    split at h
    · cases h
    · exact (Prod.mk.inj (Except.ok.inj h)).2.symm
  | _ => exact (Prod.mk.inj (Except.ok.inj h)).2.symm

/-- The other calls have the effect that they have on the accounts. -/
theorem LinkState.effect_of_ne (hservice : ∀ call, op ≠ .service call)
    (hcommit : ∀ statements, op ≠ .commit statements) :
    effect choice s op = (AccountState.effect choice.toAccountChoice s.accounts op).map
      fun outcome => (outcome.1, { s with accounts := outcome.2 }) := by
  cases op with
  | service call => exact absurd rfl (hservice call)
  | commit statements => exact absurd rfl (hcommit statements)
  | _ => rfl

/-- A plain call writes no user and no identity. -/
theorem LinkState.sameTables_effect {answer : op.Ret} {after : LinkState}
    (hplain : op.isPlain = true) (h : effect choice s op = .ok (answer, after)) :
    after.SameTables s := by
  by_cases hservice : ∃ call, op = .service call
  · obtain ⟨call, rfl⟩ := hservice
    rw [state_answerCall (fun token hcall => by subst hcall; cases hplain) h]
    exact ⟨rfl, rfl, rfl⟩
  · rw [effect_of_ne (fun call heq => hservice ⟨call, heq⟩)
      (fun statements heq => by subst heq; cases hplain)] at h
    obtain ⟨outcome, houtcome, heq⟩ := except_map_eq_ok_iff.mp h
    rw [← (Prod.mk.inj heq).2]
    refine ⟨?_, rfl, rfl⟩
    rcases effect_ok houtcome with ⟨_, rfl, _⟩ | ⟨_, _, rfl, _⟩ | ⟨_, _, husers, _⟩ | hsame
    · cases hplain
    · cases hplain
    · exact husers
    · rw [hsame]

theorem LinkState.sameTables_exec (hplain : op.isPlain = true) (choice : LinkChoice) :
    (exec choice op s).2.SameTables s := by
  rcases exec_state choice op s with hsame | ⟨answer, after, heffect, hafter⟩
  · rw [hsame]
    exact ⟨rfl, rfl, rfl⟩
  · rw [hafter]
    exact sameTables_effect hplain heffect

/-- A successful call outside the commits and the services answers what the accounts answer. -/
theorem LinkState.accounts_answer {answer : op.Ret} (hservice : ∀ call, op ≠ .service call)
    (hcommit : ∀ statements, op ≠ .commit statements) (h : (exec choice op s).1 = .ok answer) :
    (AccountState.exec { choice.toAccountChoice with fault := none } op s.accounts).1 =
      .ok answer := by
  have heffect := effect_of_exec_ok h
  rw [effect_of_ne hservice hcommit] at heffect
  obtain ⟨outcome, houtcome, heq⟩ := except_map_eq_ok_iff.mp heffect
  have hsame : AccountState.effect { choice.toAccountChoice with fault := none } s.accounts op =
      .ok outcome := by
    cases op with
    | service call => exact absurd rfl (hservice call)
    | _ => exact houtcome
  rw [AccountState.exec, hsame, ← (Prod.mk.inj heq).1]
  rfl

/-- A row that a call has read is stored. -/
theorem LinkState.mem_of_readRow {row : UserRow}
    (h : readRow ⟨op, (exec choice op s).1⟩ = some row) : row ∈ s.accounts.users.rows := by
  cases hanswer : (exec choice op s).1 with
  | error error =>
    rw [hanswer] at h
    cases op <;> cases h
  | ok answer =>
    have hservice : ∀ call, op ≠ .service call := fun call heq => by
      subst heq
      cases h
    have hcommit : ∀ statements, op ≠ .commit statements := fun statements heq => by
      subst heq
      cases h
    have haccounts := accounts_answer hservice hcommit hanswer
    rw [hanswer, ← haccounts] at h
    exact Table.mem_of_lookup (lookup_of_readRow h)

/-- The store gives answers that the contract counts on. -/
theorem LinkState.possible_exec (command : IdentityCommand) (choice : LinkChoice) (op : AccountOp)
    (s : LinkState) : (wayContract command).possible ⟨op, (exec choice op s).1⟩ := by
  cases hanswer : (exec choice op s).1 with
  | error error =>
    cases op with
    | service call => cases call <;> trivial
    | _ => trivial
  | ok answer =>
    have heffect := effect_of_exec_ok hanswer
    cases op with
    | getById userId =>
      have haccounts := accounts_answer (by simp) (by simp) hanswer
      have hpossible := Identity.possible_exec command
        { choice.toAccountChoice with fault := none } (.getById userId) s.accounts
      rw [haccounts] at hpossible
      generalize (answer : Option UserRow) = row at hpossible
      cases row with
      | none => trivial
      | some row => exact hpossible
    | service call =>
      cases call with
      | getOAuthByProviderUser provider providerUserId =>
        have hfound : s.getByProviderUser provider providerUserId = answer :=
          (Prod.mk.inj (Except.ok.inj heffect)).1
        cases hlink : s.getByProviderUser provider providerUserId with
        | none =>
          rw [← hfound, hlink]
          trivial
        | some link =>
          rw [← hfound, hlink]
          have hkey := List.find?_some hlink
          rw [decide_eq_true_eq] at hkey
          exact hkey
      | hashPassword plainPassword =>
        have hhash : choice.answer (.hashPassword plainPassword) = answer :=
          (Prod.mk.inj (Except.ok.inj heffect)).1
        rw [← hhash]
        exact choice.hash_usable plainPassword
      | _ => trivial
    | _ => trivial

/-- An identity that a call has read is in the table that the unit of work sees. -/
theorem LinkState.mem_of_readLink {link : OAuthToken}
    (h : readLink ⟨op, (exec choice op s).1⟩ = some link) : link ∈ s.working.rows := by
  cases hanswer : (exec choice op s).1 with
  | error error =>
    rw [hanswer] at h
    cases op with
    | service call => cases call <;> cases h
    | _ => cases h
  | ok answer =>
    have heffect := effect_of_exec_ok hanswer
    rw [hanswer] at h
    cases op with
    | service call =>
      cases call with
      | getOAuthByProviderUser provider providerUserId =>
        have hfound : s.getByProviderUser provider providerUserId = answer :=
          (Prod.mk.inj (Except.ok.inj heffect)).1
        have hlink : answer = some link := h
        exact List.mem_of_find?_eq_some (hfound.trans hlink)
      | getOAuthByUser userId provider =>
        have hfound : s.getByUser userId provider = answer :=
          (Prod.mk.inj (Except.ok.inj heffect)).1
        have hlink : answer = some link := h
        exact List.mem_of_find?_eq_some (hfound.trans hlink)
      | _ => cases h
    | _ => cases h

/-- A random id that has been drawn is the key of no identity. -/
theorem LinkState.lookup_of_drawn {id : UUID} (h : (exec choice (.service .uuid4) s).1 = .ok id) :
    s.working.lookup id = none := by
  have heffect : s.answerCall choice .uuid4 = .ok (id, (exec choice (.service .uuid4) s).2) :=
    effect_of_exec_ok h
  simp only [answerCall] at heffect
  split at heffect
  · cases heffect
  · next hnone =>
    rw [← (Prod.mk.inj (Except.ok.inj heffect)).1]
    exact Option.not_isSome_iff_eq_none.mp hnone

/-- What has been kept stays kept. -/
theorem Kept.mono {log' : AccountLog} {s' : LinkState} {userId : UUID}
    (h : Kept before log s userId) (hlog : savedTokens log' = savedTokens log)
    (hlinks : s.links = s.working → s'.links = s'.working) : Kept before log' s' userId := by
  refine h.imp_right ?_
  rintro ⟨token, htoken, huser, hsame⟩
  exact ⟨token, hlog.trans htoken, huser, hlinks hsame⟩

/-- A plain call keeps what an execution alone has made. -/
theorem WaysAlone.plain (h : WaysAlone command before log s) (hplain : op.isPlain = true) :
    WaysAlone command before (⟨op, (LinkState.exec choice op s).1⟩ :: log)
      (LinkState.exec choice op s).2 := by
  have hsame := LinkState.sameTables_exec (s := s) hplain choice
  have hsaved : savedTokens (⟨op, (LinkState.exec choice op s).1⟩ :: log) = savedTokens log :=
    savedTokens_of_plain (Frame.plain _ hplain)
  have hkept {userId : UUID} (hold : Kept before log s userId) :
      Kept before (⟨op, (LinkState.exec choice op s).1⟩ :: log) (LinkState.exec choice op s).2
        userId := by
    refine hold.mono hsaved fun hlinks => ?_
    rw [hsame.links, hsame.working, hlinks]
  refine
    { drawn := fun id hid => ?_
      phase := ?_
      links := ?_
      rows := fun row hrow hnone => hkept (h.rows row (hsame.users ▸ hrow) hnone)
      reads := fun row hrow hnone => ?_ }
  · rcases List.mem_cons.mp hid with hnew | hold
    · obtain ⟨rfl, hanswer⟩ := Sigma.mk.inj hnew
      have hdrawn := LinkState.lookup_of_drawn (eq_of_heq hanswer).symm
      rcases h.phase with ⟨_, hworking, _⟩ | ⟨token, _, _, hworking⟩
      · rwa [hworking] at hdrawn
      · rw [hworking, Table.lookup_upsert] at hdrawn
        split at hdrawn
        · cases hdrawn
        · exact hdrawn
    · exact h.drawn id hold
  · rw [hsaved, hsame.working]
    rcases h.phase with ⟨hnone, hworking, hreads⟩ | hphase
    · refine Or.inl ⟨hnone, hworking, fun link hlink => ?_⟩
      obtain ⟨call, hcall, hread⟩ := List.mem_filterMap.mp hlink
      rcases List.mem_cons.mp hcall with rfl | hcall
      · exact hworking ▸ LinkState.mem_of_readLink hread
      · exact hreads link (mem_readLinks hcall hread)
    · exact Or.inr hphase
  · rw [hsame.links, hsame.working]
    exact h.links
  · obtain ⟨call, hcall, hread⟩ := List.mem_filterMap.mp hrow
    rcases List.mem_cons.mp hcall with rfl | hcall
    · exact hkept (h.rows row (LinkState.mem_of_readRow hread) hnone)
    · exact hkept (h.reads row (List.mem_filterMap.mpr ⟨call, hcall, hread⟩) hnone)

/-- A call that draws no id leaves the drawn ones. -/
theorem WaysAlone.drawn_cons {answer : Except AccountError op.Ret}
    (h : WaysAlone command before log s) (hop : op ≠ .service .uuid4) (id : UUID)
    (hid : (⟨.service .uuid4, (.ok id : Except AccountError UUID)⟩ : AccountCall) ∈
      ⟨op, answer⟩ :: log) : before.links.lookup id = none := by
  rcases List.mem_cons.mp hid with hnew | hold
  · exact absurd (congrArg Sigma.fst hnew).symm hop
  · exact h.drawn id hold

/-- The save of the only identity keeps what an execution alone has made. -/
theorem WaysAlone.saveToken {token : OAuthToken} (h : WaysAlone command before log s)
    (hnone : savedTokens log = []) (hlinkable : Linkable command log token) :
    WaysAlone command before
      (⟨.service (.saveOAuthToken token),
        (LinkState.exec choice (.service (.saveOAuthToken token)) s).1⟩ :: log)
      (LinkState.exec choice (.service (.saveOAuthToken token)) s).2 := by
  obtain ⟨hworking, hreads⟩ : s.working = before.links ∧
      ∀ link ∈ readLinks log, link ∈ before.links.rows := by
    rcases h.phase with ⟨_, hphase⟩ | ⟨token, htoken, _⟩
    · exact hphase
    · cases hnone.symm.trans htoken
  have hlinks : s.links = before.links := h.links.elim id fun hlinks => hlinks.trans hworking
  have hpasswordless {userId : UUID} (hold : Kept before log s userId) :
      before.Passwordless userId := by
    rcases hold with hold | ⟨token, htoken, _⟩
    · exact hold
    · cases hnone.symm.trans htoken
  cases hanswer : (LinkState.exec choice (.service (.saveOAuthToken token)) s).1 with
  | error error =>
    rw [LinkState.exec_state_of_error rfl hanswer]
    refine
      { drawn := h.drawn_cons (by simp)
        phase := Or.inl ⟨hnone, hworking, hreads⟩
        links := h.links
        rows := fun row hrow hnone' => Or.inl (hpasswordless (h.rows row hrow hnone'))
        reads := fun row hrow hnone' => Or.inl (hpasswordless (h.reads row hrow hnone')) }
  | ok answer =>
    have heffect : (s.saveLink token).map (fun after => ((), after)) =
        .ok (answer, (LinkState.exec choice (.service (.saveOAuthToken token)) s).2) :=
      LinkState.effect_of_exec_ok hanswer
    obtain ⟨after, hsave, heq⟩ := except_map_eq_ok_iff.mp heffect
    rw [← (Prod.mk.inj heq).2]
    unfold LinkState.saveLink at hsave
    split_ifs at hsave with hlong hduplicate
    cases hsave
    refine
      { drawn := h.drawn_cons (by simp)
        phase := Or.inr ⟨token, ?_, ?_, by rw [hworking]⟩
        links := Or.inl hlinks
        rows := fun row hrow hnone' => Or.inl (hpasswordless (h.rows row hrow hnone'))
        reads := fun row hrow hnone' => Or.inl (hpasswordless (h.reads row hrow hnone')) }
    · exact congrArg (List.cons token) hnone
    · rcases hlinkable with hdrawn | ⟨link, hlink, hmoves⟩
      · exact Or.inl (h.drawn token.id hdrawn)
      · exact Or.inr ⟨link, hreads link hlink, hmoves⟩

/-- A commit keeps what an execution alone has made. -/
theorem WaysAlone.commit {statements : List AccountStatement} (h : WaysAlone command before log s)
    (hstatements : ExcusedSaves log statements) :
    WaysAlone command before
      (⟨.commit statements, (LinkState.exec choice (.commit statements) s).1⟩ :: log)
      (LinkState.exec choice (.commit statements) s).2 := by
  rcases LinkState.exec_state choice (.commit statements) s with hsame | ⟨_, after, heffect, hafter⟩
  · rw [hsame]
    exact
      { drawn := h.drawn_cons (by simp), phase := h.phase, links := h.links, rows := h.rows
        reads := h.reads }
  · have heffect : (s.commit statements).map (fun after => ((), after)) = .ok (_, after) := heffect
    obtain ⟨committed, hcommit, heq⟩ := except_map_eq_ok_iff.mp heffect
    obtain ⟨accounts, happly, hrest⟩ := except_bind_eq_ok_iff.mp hcommit
    split at hrest
    · cases hrest
      rw [hafter, ← (Prod.mk.inj heq).2]
      have hkept {userId : UUID} (hold : Kept before log s userId) :
          Kept before log { accounts, links := s.working, working := s.working } userId :=
        hold.mono rfl fun _ => rfl
      refine
        { drawn := h.drawn_cons (by simp)
          phase := h.phase
          links := Or.inr rfl
          rows := fun row hrow hnone => ?_
          reads := fun row hrow hnone => hkept (h.reads row hrow hnone) }
      obtain ⟨stored, hstored, hsame⟩ :=
        AccountState.originates_applyAll happly (Table.lookup_of_mem hrow)
      have hnone' : stored.usablePassword = none := by
        rw [← hnone, UserRow.usablePassword, UserRow.usablePassword, hsame.password_eq]
      rcases hstored with hstored | ⟨hmem, hid⟩
      · rw [← Table.key_of_lookup hstored]
        exact hkept (h.rows stored (Table.mem_of_lookup hstored) hnone')
      · rw [← hid]
        rcases hstatements stored hmem hnone' with ⟨read, hread, hreadId, hreadNone⟩ |
          ⟨token, htoken, huser⟩
        · rw [← hreadId]
          exact hkept (h.reads read hread hreadNone)
        · refine Or.inr ⟨token, ?_, huser, rfl⟩
          rcases h.phase with ⟨hempty, _⟩ | ⟨saved, hsaved, _⟩
          · rw [hempty] at htoken
            cases htoken
          · have hcons : savedTokens (⟨.commit statements,
                (LinkState.exec choice (.commit statements) s).1⟩ :: log) = savedTokens log := rfl
            rw [hsaved, List.mem_singleton] at htoken
            rw [hcons, hsaved, htoken]
    · cases hrest

/-- The calls of an execution alone keep what it has made. -/
theorem keepsWaysAlone (command : IdentityCommand) (before : LinkState) :
    KeepsAlone LinkState.exec (wayContract command) (WaysAlone command before) := by
  intro log s choice op h hop
  refine ⟨LinkState.possible_exec command choice op s, ?_⟩
  by_cases hplain : op.isPlain = true
  · exact h.plain hplain
  · cases op with
    | commit statements => exact h.commit hop
    | bumpAuthTokenVersion userId => exact hop.elim
    | service call =>
      cases call with
      | saveOAuthToken token => exact h.saveToken hop.1 hop.2
      | _ => exact absurd rfl hplain
    | _ => exact absurd rfl hplain

end Calls

section Steps

variable {s before : LinkState} {command : IdentityCommand} {log : AccountLog} {userId : UUID}

/-- A user with a usable password in the row has a password. -/
theorem LinkState.hasPassword_iff {row : UserRow} (hrow : row ∈ s.accounts.users.rows) :
    s.HasPassword row.id ↔ row.usablePassword ≠ none := by
  rw [HasPassword, Table.lookup_of_mem hrow, Option.bind_some, Option.isSome_iff_ne_none]

/-- A user without a password that has a way to authenticate has an identity. -/
theorem LinkState.AllCanAuthenticate.hasLink (h : s.AllCanAuthenticate)
    (hnone : s.Passwordless userId) : s.HasLink userId ∧ ¬ s.HasPassword userId := by
  obtain ⟨row, hrow, rfl, hnone⟩ := hnone
  have hpassword : ¬ s.HasPassword row.id := fun hpassword =>
    (LinkState.hasPassword_iff hrow).mp hpassword hnone
  exact ⟨(h row hrow).resolve_left hpassword, hpassword⟩

/-- An identity stays when another one is written. -/
theorem mem_upsert_of_ne {links : Table OAuthToken.id} {link token : OAuthToken}
    (h : link ∈ links.rows) (hne : token.id ≠ link.id) : link ∈ (links.upsert token).rows :=
  Table.mem_of_lookup ((Table.lookup_upsert_of_ne hne).trans (Table.lookup_of_mem h))

theorem mem_upsert_self {links : Table OAuthToken.id} {token : OAuthToken} :
    token ∈ (links.upsert token).rows :=
  Table.mem_of_lookup Table.lookup_upsert_self

/-- A user keeps an identity when another one is written, as long as the relinking of an identity
leaves its user another one. -/
theorem exists_link_upsert {token link : OAuthToken} (hmoves : Moves command before token)
    (hlink : link ∈ before.links.rows) (huser : link.userId = userId)
    (hother : Relinks command link token.userId → token.userId ≠ userId →
      ∃ other ∈ before.links.rows, other.userId = userId ∧ other.id ≠ link.id) :
    ∃ other ∈ (before.links.upsert token).rows, other.userId = userId := by
  by_cases hsame : token.id = link.id
  · rcases hmoves with hfresh | ⟨moved, hmoved, hid, hkeeps⟩
    · cases hfresh.symm.trans (hsame ▸ Table.lookup_of_mem hlink)
    · have hfound := Table.lookup_of_mem hmoved
      rw [← hid, hsame, Table.lookup_of_mem hlink] at hfound
      cases hfound
      by_cases htoken : token.userId = userId
      · exact ⟨token, mem_upsert_self, htoken⟩
      · obtain ⟨other, hmem, hotherUser, hotherId⟩ :=
          hother (hkeeps.resolve_left fun heq => htoken (heq.trans huser)) htoken
        exact ⟨other, mem_upsert_of_ne hmem fun heq => hotherId (heq.symm.trans hsame), hotherUser⟩
  · exact ⟨link, mem_upsert_of_ne hlink hsame, huser⟩

/-- A user who had an identity before an execution alone has one after it. -/
theorem WaysAlone.hasLink {link : OAuthToken} (h : WaysAlone command before log s)
    (hlink : link ∈ before.links.rows) (huser : link.userId = userId)
    (hother : ∀ target, Relinks command link target → target ≠ userId →
      ∃ other ∈ before.links.rows, other.userId = userId ∧ other.id ≠ link.id) :
    s.HasLink userId := by
  rcases h.links with hlinks | hlinks
  · exact ⟨link, hlinks.symm ▸ hlink, huser⟩
  · unfold LinkState.HasLink
    rw [hlinks]
    rcases h.phase with ⟨_, hworking, _⟩ | ⟨token, _, hmoves, hworking⟩
    · exact ⟨link, hworking.symm ▸ hlink, huser⟩
    · rw [hworking]
      exact exists_link_upsert hmoves hlink huser (hother token.userId)

/-- A user who has been linked by an execution alone has an identity. -/
theorem WaysAlone.hasLink_of_saved {token : OAuthToken} (h : WaysAlone command before log s)
    (htoken : savedTokens log = [token]) (hlinks : s.links = s.working) :
    s.HasLink token.userId := by
  rcases h.phase with ⟨hnone, _⟩ | ⟨saved, hsaved, _, hworking⟩
  · cases hnone.symm.trans htoken
  · cases hsaved.symm.trans htoken
    unfold LinkState.HasLink
    rw [hlinks, hworking]
    exact ⟨token, mem_upsert_self, rfl⟩

/-- After a command every account has a way to authenticate, if the command takes none from an
account that is left without one. -/
theorem allCanAuthenticate_command {cmd : LinkCommand} {choices : List LinkChoice}
    (hs : s.AllCanAuthenticate) (hstep : (LinkStep.command cmd choices).LeavesAWay s) :
    ((LinkStep.command cmd choices).apply s).AllCanAuthenticate := by
  have hstart : WaysAlone cmd.command { s with working := s.links } []
      { s with working := s.links } :=
    { drawn := fun _ h => by cases h
      phase := Or.inl ⟨rfl, rfl, fun _ h => by cases h⟩
      links := Or.inl rfl
      rows := fun row hrow hnone => Or.inl ⟨row, hrow, rfl, hnone⟩
      reads := fun _ h => by cases h }
  have halone := (Program.Follows.runAlone
    (keepsWaysAlone cmd.command { s with working := s.links }) cmd.way hstart choices).1
  intro row hrow
  by_cases hpassword : row.usablePassword = none
  · right
    rcases halone.rows row hrow hpassword with hnone | ⟨token, htoken, huser, hlinks⟩
    · have hnone : s.Passwordless row.id := hnone
      obtain ⟨⟨link, hlink, huser⟩, hbefore⟩ := hs.hasLink hnone
      refine halone.hasLink hlink huser fun target hrelinks hother => ?_
      obtain ⟨relink, hcommand, hprovider, hproviderUser, htarget⟩ := hrelinks
      cases cmd with
      | confirmOAuthRelink relink' =>
        cases hcommand
        have hleaves := hstep link hlink hprovider hproviderUser fun heq =>
          hother (htarget.trans (heq.symm.trans huser))
        rw [huser] at hleaves
        exact hleaves.resolve_left hbefore
      | _ => cases hcommand
    · exact huser ▸ halone.hasLink_of_saved htoken hlinks
  · exact Or.inl ((LinkState.hasPassword_iff hrow).mpr hpassword)

/-- What an unlinking leaves: the state, or the state without the identities of a user who has a
password or several identities. -/
def LinkState.Unlinked (s : LinkState) (userId : UUID) (provider : OAuthProvider)
    (after : LinkState) : Prop :=
  after = s ∨ (after = s.deleteForUser userId provider ∧
    (s.HasPassword userId ∨ 1 < (s.listByUser userId).length))

/-- An aggregate with a password hash has a usable password in its row. -/
theorem hasPassword_of_passwordHash {row : UserRow} {user : User}
    (hrow : s.accounts.users.lookup userId = some row) (hdomain : row.toDomain = .ok user)
    (hhash : user.passwordHash.isSome = true) : s.HasPassword userId := by
  unfold LinkState.HasPassword
  rw [hrow, Option.bind_some]
  simp only [UserRow.toDomain, except_bind_eq_ok_iff] at hdomain
  obtain ⟨email, _, passwordHash, hpassword, role, _, name, _, h⟩ := hdomain
  cases h
  unfold UserRow.passwordHash at hpassword
  split at hpassword
  · next hsome => rw [hsome, Option.isSome_some]
  · cases hpassword
    cases hhash

/-- An unlinking after the identities have been listed. -/
theorem unlinked_listed {row : UserRow} {user : User} (provider : OAuthProvider)
    (faults : List (Option AccountFault)) {log : Log (Raising UnlinkError UnlinkOp.Ret)}
    (hrow : s.accounts.users.lookup userId = some row) (hdomain : row.toDomain = .ok user)
    (hid : user.id = userId) :
    s.Unlinked userId provider (runAlone LinkState.unlinkExec faults
      (unlinkListed user provider (s.listByUser userId)).run log s).state := by
  unfold unlinkListed
  split
  · exact Or.inl (congrArg LoneRun.state runAlone_done)
  · by_cases hlast : user.passwordHash.isNone = true ∧ (s.listByUser userId).length ≤ 1
    · rw [if_pos hlast]
      exact Or.inl (congrArg LoneRun.state runAlone_done)
    · rw [if_neg hlast]
      have hleft : s.HasPassword userId ∨ 1 < (s.listByUser userId).length := by
        rcases not_and_or.mp hlast with hpassword | hlength
        · refine Or.inl (hasPassword_of_passwordHash hrow hdomain ?_)
          rwa [Option.isNone_iff_eq_none, ← ne_eq, ← Option.isSome_iff_ne_none] at hpassword
        · exact Or.inr (Nat.lt_of_not_le hlength)
      have hdeleted : s.Unlinked userId provider (s.deleteForUser user.id provider) :=
        Or.inr ⟨by rw [hid], hleft⟩
      refine runAlone_state_perform (Q := s.Unlinked userId provider) (Or.inl rfl) fun fault => ?_
      cases fault with
      | none => exact hdeleted
      | some fault =>
        by_cases happlied : fault.applied = true
        · have hstate : (LinkState.unlinkExec (some fault) (.deleteForUser user.id provider) s).2 =
              s.deleteForUser user.id provider := if_pos happlied
          rw [hstate]
          exact hdeleted
        · exact Or.inl (if_neg happlied)

/-- An unlinking after the row has been looked up. -/
theorem unlinked_found (provider : OAuthProvider) (faults : List (Option AccountFault))
    {log : Log (Raising UnlinkError UnlinkOp.Ret)} :
    s.Unlinked userId provider (runAlone LinkState.unlinkExec faults
      (unlinkFound provider (s.accounts.users.lookup userId)).run log s).state := by
  unfold unlinkFound
  split
  · exact Or.inl (congrArg LoneRun.state runAlone_done)
  · exact Or.inl (congrArg LoneRun.state runAlone_done)
  · next user hfound =>
    obtain ⟨row, hrow, hdomain⟩ := Option.map_eq_some_iff.mp hfound
    have hid : user.id = userId :=
      (UserRow.holds_of_toDomain hdomain).id_eq.trans (Table.key_of_lookup hrow)
    refine runAlone_state_perform_bind (Q := s.Unlinked userId provider) (Or.inl rfl)
      (fun fault error _ => ?_) fun fault faults links hlinks => ?_
    · cases fault with
      | none => exact Or.inl rfl
      | some fault => exact Or.inl (ite_self s)
    · cases fault with
      | some fault => cases hlinks
      | none =>
        cases Except.ok.inj hlinks
        rw [hid]
        exact unlinked_listed provider faults hrow hdomain hid

theorem unlinked_apply (provider : OAuthProvider) (faults : List (Option AccountFault)) :
    s.Unlinked userId provider ((LinkStep.unlink userId provider faults).apply s) := by
  refine runAlone_state_perform_bind (Q := s.Unlinked userId provider) (Or.inl rfl)
    (fun fault error _ => ?_) fun fault faults row hrow => ?_
  · cases fault with
    | none => exact Or.inl rfl
    | some fault => exact Or.inl (ite_self s)
  · cases fault with
    | some fault => cases hrow
    | none =>
      cases Except.ok.inj hrow
      exact unlinked_found provider faults

/-- After an unlinking every account has a way to authenticate, if the account keeps one. -/
theorem allCanAuthenticate_unlink {provider : OAuthProvider} {faults : List (Option AccountFault)}
    (hs : s.AllCanAuthenticate) (hstep : (LinkStep.unlink userId provider faults).LeavesAWay s) :
    ((LinkStep.unlink userId provider faults).apply s).AllCanAuthenticate := by
  have hunlinked : s.Unlinked userId provider _ := unlinked_apply provider faults
  rcases hunlinked with hsame | ⟨hdeleted, hleft⟩
  · rw [hsame]
    exact hs
  · rw [hdeleted]
    intro row hrow
    rcases hs row hrow with hpassword | ⟨link, hlink, huser⟩
    · exact Or.inl hpassword
    · by_cases hkept : link.userId = userId ∧ link.provider = provider
      · rcases hstep with hpassword | hfew | ⟨other, hother, hotherUser, hprovider⟩
        · left
          rwa [← huser, hkept.1]
        · rcases hleft with hpassword | hmany
          · left
            rwa [← huser, hkept.1]
          · exact absurd hmany (Nat.not_lt_of_le hfew)
        · refine Or.inr ⟨other, List.mem_filter.mpr ⟨hother, ?_⟩, ?_⟩
          · exact decide_eq_true fun h => hprovider h.2
          · rw [hotherUser, ← huser, hkept.1]
      · exact Or.inr ⟨link, List.mem_filter.mpr ⟨hlink, by simpa using hkept⟩, huser⟩

/-- In every run whose steps leave the accounts a way to authenticate, every account has one in
every state that is reached. -/
theorem all_can_authenticate {s : LinkState} (hs : s.AllCanAuthenticate)
    (earlier later : List LinkStep) (hsteps : StepsLeaveAWay (earlier ++ later) s) :
    (runLinkSteps earlier s).AllCanAuthenticate := by
  induction earlier generalizing s with
  | nil => exact hs
  | cons step earlier ih =>
    refine ih ?_ hsteps.2
    cases step with
    | command cmd choices => exact allCanAuthenticate_command hs hsteps.1
    | unlink userId provider faults => exact allCanAuthenticate_unlink hs hsteps.1

end Steps

/-- A hash that does not start with an exclamation mark. -/
def relinkChoice : LinkChoice where
  toAccountChoice := calmChoice
  hash_usable plainPassword := by
    have hchars : ("pbkdf2_sha256$" ++ plainPassword).toList =
        'p' :: ("bkdf2_sha256$".toList ++ plainPassword.toList) := by
      rw [String.toList_append]
      rfl
    change decide (("pbkdf2_sha256$" ++ plainPassword).toList.head? ≠ some '!') = true
    rw [hchars]
    exact decide_eq_true (by simp)

/-- The identity of the planner at the provider. -/
def sampleLink : OAuthToken where
  id := 50
  userId := 1
  provider := .google
  providerUserId := "google-1"
  accessToken := "access"
  refreshToken := none
  expiresAt := 2000

/-- A planner who signs in with the provider identity alone, and an administrator. -/
def linkedState : LinkState where
  accounts :=
    { sampleAccounts with
      users := (Table.empty.upsert { sampleRow with password := "!unusable" }).upsert adminRow }
  links := Table.empty.upsert sampleLink
  working := Table.empty.upsert sampleLink

/-- The relinking of the planner's identity to the other account. -/
def sampleRelink : LinkStep :=
  .command
    (.confirmOAuthRelink
      { targetUserId := 2, provider := .google, providerUserId := "google-1"
        stepUpGrant := "grant", providerEmailVerified := some true })
    (List.replicate 20 relinkChoice)

/-- The planner is left without a password and without an identity. -/
theorem relink_takes_only_identity :
    linkedState.AllCanAuthenticate ∧ ¬ (sampleRelink.apply linkedState).AllCanAuthenticate := by
  decide +kernel

/-- The planner sets a password up first. -/
def passwordThenRelink : List LinkStep :=
  [.command (.setupPassword 1 "Abcdefgh1234!") (List.replicate 20 relinkChoice), sampleRelink,
    .unlink 2 .google [none, none, none]]

/-- Then the relinking leaves a way to authenticate, and so does an unlinking. -/
theorem all_can_authenticate_sample :
    (runLinkSteps passwordThenRelink linkedState).AllCanAuthenticate :=
  all_can_authenticate (by decide +kernel) passwordThenRelink [] (by decide +kernel)

end Linkapro.Identity
