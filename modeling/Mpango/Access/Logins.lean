import Mpango.Library.Run
import Mpango.Model.Logins

/-!
# No fresh authority after a revocation

Each endpoint is read as the rows it has checked when it issues a token. What is left to say is then
which of the law's conditions it has not checked: a login looks at neither the tenant's status nor
the user's deletion, a tenant selection at neither as well, and a refresh takes the roles from the
claims of the token. The retailer's login checks them all.
-/

namespace Mpango.Access

open Tenancy

variable {host : Host} {directory : Directory} {now : ℤ}

/-! ## Lookups -/

/-- Emails are unique in a tenant, so a search by email finds its row only. -/
theorem TenantTables.select_email {tables : TenantTables} {email : String} {user : User} :
    (tables.users.select fun u => u.email = email) = [user] ↔
      user ∈ tables.users ∧ user.email = email := by
  constructor
  · intro h
    have hmem : user ∈ tables.users.select fun u => u.email = email := by
      rw [h]
      exact List.mem_singleton_self _
    simpa using hmem
  · rintro ⟨hmem, hemail⟩
    have hrows : tables.users.rows.Nodup := List.Nodup.of_map _ tables.users.nodup
    have hnodup : (tables.users.select fun u => u.email = email).Nodup := hrows.filter _
    have hall : ∀ u ∈ tables.users.select fun u => u.email = email, u = user := by
      intro u hu
      obtain ⟨hu, hsame⟩ := Table.mem_select.mp hu
      exact tables.emails u hu user hmem ((of_decide_eq_true hsame).trans hemail.symm)
    have hin : user ∈ tables.users.select fun u => u.email = email := by
      simpa using ⟨hmem, hemail⟩
    generalize (tables.users.select fun u => u.email = email) = found at hnodup hall hin
    cases found with
    | nil => exact absurd hin List.not_mem_nil
    | cons u us =>
      obtain rfl : u = user := hall u List.mem_cons_self
      cases us with
      | nil => rfl
      | cons v vs =>
        have hv : v = u := hall v (by simp)
        rw [hv] at hnodup
        exact absurd List.mem_cons_self (List.nodup_cons.mp hnodup).1

theorem Directory.liveWholesaler?_eq_some {id : Option String} {w : Wholesaler} :
    directory.liveWholesaler? id = some w ↔ ∃ key, id.bind Uuid.parse = some key ∧
      directory.wholesalers.find? key = some w ∧ w.isDeleted = false := by
  simp [Directory.liveWholesaler?, Option.bind_eq_some_iff]

theorem decodeToken_eq_ok {issued : List TokenPayload} {token payload : TokenPayload} :
    decodeToken issued now token = .ok payload ↔
      token ∈ issued ∧ token.exp.any (· < now) = false ∧ token = payload := by
  simp only [decodeToken, bind_eq_ok, refuseIf_eq_ok, exists_const, pure_eq_ok, not_not,
    Bool.not_eq_true]

/-! ## Login -/

theorem candidateMatch?_eq_some {email : String} {w : Wholesaler} {found : TenantUserMatch} :
    candidateMatch? directory email w = some found ↔ ∃ tables,
      directory.schemas w.tenantSchema = some tables ∧ found.user ∈ tables.users ∧
        found.user.email = email ∧ found.user.isActive = true ∧ found.wholesaler = w ∧
          found.roles = tables.roleNames found.user := by
  simp only [candidateMatch?, Option.bind_eq_some_iff]
  refine exists_congr fun tables => and_congr_right fun _ => ?_
  constructor
  · intro h
    split at h
    next user huser =>
      obtain ⟨hmem, hemail⟩ := TenantTables.select_email.mp huser
      split at h
      next hactive =>
        obtain rfl := Option.some.inj h
        exact ⟨hmem, hemail, hactive, rfl, rfl⟩
      next => cases h
    next => cases h
  · rintro ⟨hmem, hemail, hactive, hw, hroles⟩
    rw [TenantTables.select_email.mpr ⟨hmem, hemail⟩]
    obtain ⟨w', user, roles⟩ := found
    simp only at hactive hw hroles
    simp [hactive, hw, hroles]

/-- The copies a login grants: active ones in tenants that are not deleted. -/
theorem mem_findUserAcrossTenants {email password : String} {found : TenantUserMatch} :
    found ∈ findUserAcrossTenants host directory email password ↔ ∃ tables,
      found.wholesaler ∈ directory.wholesalers ∧ found.wholesaler.isDeleted = false ∧
        directory.schemas found.wholesaler.tenantSchema = some tables ∧
          found.user ∈ tables.users ∧ found.user.email = email ∧ found.user.isActive = true ∧
            found.roles = tables.roleNames found.user ∧
              host.verifyPassword password found.user.passwordHash = true := by
  simp only [findUserAcrossTenants, List.mem_filter, List.mem_filterMap, Table.mem_select,
    candidateMatch?_eq_some]
  constructor
  · rintro ⟨⟨w, ⟨hw, hkept⟩, tables, hschema, hmem, hemail, hactive, rfl, hroles⟩, hverify⟩
    exact ⟨tables, hw, by simpa using hkept, hschema, hmem, hemail, hactive, hroles, hverify⟩
  · rintro ⟨tables, hw, hkept, hschema, hmem, hemail, hactive, hroles, hverify⟩
    exact ⟨⟨_, ⟨hw, by simpa using hkept⟩, tables, hschema, hmem, hemail, hactive, rfl, hroles⟩,
      hverify⟩

/-- What a login answers with are identity tokens that carry the map of the verified copies. -/
theorem login_eq_ok {email password : String} {tokens : List TokenPayload} :
    login host directory now email password = .ok tokens ↔ ∃ first others,
      findUserAcrossTenants host directory (host.normalizeEmail email) password =
        first :: others ∧
      tokens = identityPair host now first.user.id.text (aggregatedRoles (first :: others))
        (tenantUserMap (first :: others)) := by
  unfold login
  split
  next h => simp [h]
  next first others h => simp [h, eq_comm]

theorem mem_identityPair {userId : String} {roles : List String} {tmap : List (String × String)}
    {token : TokenPayload} (h : token ∈ identityPair host now userId roles tmap) :
    token.isIdentityOnly = true ∧ token.userId = userId ∧ token.tmap = tmap := by
  simp only [identityPair, List.mem_cons, List.not_mem_nil, or_false] at h
  rcases h with rfl | rfl <;> exact ⟨rfl, rfl, rfl⟩

variable (host now) in
theorem access_mem_contextualPair (userId : String) (roles : List String)
    (tenantId tenantSchema : Option String) :
    createContextualToken host now userId roles tenantId tenantSchema "access" ∈
      contextualPair host now userId roles tenantId tenantSchema :=
  List.mem_cons_self

theorem isIdentityOnly_of_tenant {token : TokenPayload} {id schema : String}
    (hid : token.tenantId = some id) (hschema : token.tenantSchema = some schema) :
    token.isIdentityOnly = false := by
  simp [TokenPayload.isIdentityOnly, hid, hschema]

theorem mem_contextualPair {userId : String} {roles : List String}
    {tenantId tenantSchema : Option String} {token : TokenPayload}
    (h : token ∈ contextualPair host now userId roles tenantId tenantSchema) :
    token.userId = userId ∧ token.roles = roles ∧ token.tenantId = tenantId ∧
      token.tenantSchema = tenantSchema ∧ token.tmap = [] := by
  simp only [contextualPair, List.mem_cons, List.not_mem_nil, or_false] at h
  rcases h with rfl | rfl <;> exact ⟨rfl, rfl, rfl, rfl, rfl⟩

/-- The entry of a copy is live when the copy is not deleted and its tenant is active. -/
theorem mapsLive_iff {email password : String} {found : TenantUserMatch}
    (h : found ∈ findUserAcrossTenants host directory email password) :
    MapsLive directory (found.wholesaler.id.text, found.user.id.text) ↔
      found.wholesaler.status = "active" ∧ found.user.isDeleted = false := by
  obtain ⟨tables, hw, hkept, hschema, hmem, -, hactive, -⟩ := mem_findUserAcrossTenants.mp h
  constructor
  · rintro ⟨w, tables', user, hlive, heq⟩
    obtain ⟨hid, huser⟩ := Prod.mk.inj heq
    obtain rfl : found.wholesaler = w :=
      Table.eq_of_key_eq hw hlive.wholesaler (Uuid.text_inj.mp hid)
    obtain rfl : tables = tables' := Option.some.inj (hschema.symm.trans hlive.schema)
    obtain rfl : found.user = user := Table.eq_of_key_eq hmem hlive.member (Uuid.text_inj.mp huser)
    exact ⟨hlive.tenantActive, hlive.userKept⟩
  · rintro ⟨hstatus, hdeleted⟩
    exact ⟨_, tables, _, ⟨hw, hschema, hmem, hkept, hstatus, hdeleted, hactive⟩, rfl⟩

theorem login_freshAuthority_iff {s : State} {email password : String} :
    FreshAuthority host s (.login email password) ↔ Unrevoked host s (.login email password) := by
  have hall : FreshAuthority host s (.login email password) ↔
      ∀ found ∈ findUserAcrossTenants host s.directory (host.normalizeEmail email) password,
        found.wholesaler.status = "active" ∧ found.user.isDeleted = false := by
    constructor
    · intro h found hfound
      obtain ⟨first, others, hcons⟩ := List.exists_cons_of_ne_nil (List.ne_nil_of_mem hfound)
      have hanswer : login host s.directory s.now email password = .ok _ :=
        login_eq_ok.mpr ⟨first, others, hcons, rfl⟩
      have hfirst := h _ hanswer _ List.mem_cons_self
      refine (mapsLive_iff hfound).mp (hfirst.2 email password rfl _ ?_)
      rw [hcons] at hfound
      exact List.mem_map.mpr ⟨found, hfound, rfl⟩
    · intro h tokens hanswer token htoken
      obtain ⟨first, others, hcons, rfl⟩ := login_eq_ok.mp hanswer
      obtain ⟨hidentity, -, htmap⟩ := mem_identityPair htoken
      refine ⟨fun hnot => ?_, fun _ _ _ entry hentry => ?_⟩
      · rw [hidentity] at hnot
        cases hnot
      · rw [htmap] at hentry
        obtain ⟨found, hfound, rfl⟩ := List.mem_map.mp hentry
        rw [← hcons] at hfound
        exact (mapsLive_iff hfound).mpr (h found hfound)
  rw [hall]
  constructor
  · intro h w hw hkept tables hschema user hmem hemail hactive hverify
    exact h ⟨w, user, tables.roleNames user⟩
      (mem_findUserAcrossTenants.mpr ⟨tables, hw, hkept, hschema, hmem, hemail, hactive, rfl,
        hverify⟩)
  · intro h found hfound
    obtain ⟨tables, hw, hkept, hschema, hmem, hemail, hactive, -, hverify⟩ :=
      mem_findUserAcrossTenants.mp hfound
    exact h _ hw hkept tables hschema _ hmem hemail hactive hverify

/-! ## Tenant selection -/

theorem selectTenant_eq_ok {tenantId : String} {token : TokenPayload}
    {tokens : List TokenPayload} :
    selectTenant host directory now tenantId token = .ok tokens ↔ ∃ w userId tables user,
      directory.liveWholesaler? (some tenantId) = some w ∧ effectiveUserId token w = .ok userId ∧
        directory.schemas w.tenantSchema = some tables ∧ tables.users.find? userId = some user ∧
          user.isActive = true ∧ tokens = contextualPair host now user.id.text
            (tables.roleNames user) (some w.id.text) (some w.tenantSchema) := by
  simp only [selectTenant, bind_eq_ok, orRefuse_eq_ok, refuseIf_eq_ok, exists_const,
    pure_eq_ok, Bool.not_eq_false, eq_comm (a := contextualPair ..)]
  constructor
  · rintro ⟨w, hw, userId, huserId, tables, htables, user, huser, hactive, htokens⟩
    exact ⟨w, userId, tables, user, hw, huserId, htables, huser, hactive, htokens⟩
  · rintro ⟨w, userId, tables, user, hw, huserId, htables, huser, hactive, htokens⟩
    exact ⟨w, hw, userId, huserId, tables, htables, user, huser, hactive, htokens⟩

/-- The token of an active user of a tenant that is not deleted is good when the two checks that
`select_tenant` leaves out would pass. -/
theorem entitled_iff {w : Wholesaler} {tables : TenantTables} {user : User} {token : TokenPayload}
    (hw : w ∈ directory.wholesalers) (hkept : w.isDeleted = false)
    (hschema : directory.schemas w.tenantSchema = some tables) (hmem : user ∈ tables.users)
    (hactive : user.isActive = true) (htenant : token.tenantId = some w.id.text)
    (htokenSchema : token.tenantSchema = some w.tenantSchema)
    (huser : token.userId = user.id.text) :
    Entitled directory token ↔ (w.status = "active" ∧ user.isDeleted = false) ∧
      ∀ role ∈ token.roles, role ∈ tables.roleNames user := by
  constructor
  · rintro ⟨w', tables', user', hlive, hid, -, huser', hroles⟩
    obtain rfl : w = w' := Table.eq_of_key_eq hw hlive.wholesaler
      (Uuid.text_inj.mp (Option.some.inj (htenant.symm.trans hid)))
    obtain rfl : tables = tables' := Option.some.inj (hschema.symm.trans hlive.schema)
    obtain rfl : user = user' :=
      Table.eq_of_key_eq hmem hlive.member (Uuid.text_inj.mp (huser.symm.trans huser'))
    exact ⟨⟨hlive.tenantActive, hlive.userKept⟩, hroles⟩
  · rintro ⟨⟨hstatus, hdeleted⟩, hroles⟩
    exact ⟨w, tables, user, ⟨hw, hschema, hmem, hkept, hstatus, hdeleted, hactive⟩, htenant,
      htokenSchema, huser, hroles⟩

theorem answer_selectTenant_eq_ok {s : State} {tenantId : String} {token : TokenPayload}
    {tokens : List TokenPayload} :
    answer host s (.selectTenant tenantId token) = .ok tokens ↔
      decodeToken s.issued s.now token = .ok token ∧ (s.directory.tenantContext token).isOk ∧
        selectTenant host s.directory s.now tenantId token = .ok tokens := by
  simp only [answer, bind_eq_ok]
  constructor
  · rintro ⟨payload, hdecode, context, hcontext, htokens⟩
    obtain ⟨-, -, rfl⟩ := decodeToken_eq_ok.mp hdecode
    refine ⟨hdecode, ?_, htokens⟩
    rw [hcontext]
    rfl
  · rintro ⟨hdecode, hcontext, htokens⟩
    cases hres : s.directory.tenantContext token with
    | error e =>
      rw [hres] at hcontext
      cases hcontext
    | ok context => exact ⟨token, hdecode, context, hres, htokens⟩

theorem selectTenant_freshAuthority_iff {s : State} {tenantId : String} {token : TokenPayload} :
    FreshAuthority host s (.selectTenant tenantId token) ↔
      Unrevoked host s (.selectTenant tenantId token) := by
  constructor
  · intro h hdecode hcontext w hw userId huserId tables htables user huser hactive
    have hanswer : answer host s (.selectTenant tenantId token) = .ok _ :=
      answer_selectTenant_eq_ok.mpr ⟨hdecode, hcontext,
        selectTenant_eq_ok.mpr ⟨w, userId, tables, user, hw, huserId, htables, huser, hactive, rfl⟩⟩
    obtain ⟨key, -, hfind, hkept⟩ := Directory.liveWholesaler?_eq_some.mp hw
    have hmem := access_mem_contextualPair host s.now user.id.text
      (tables.roleNames user) (some w.id.text) (some w.tenantSchema)
    obtain ⟨huserText, -, htenant, hschema, -⟩ := mem_contextualPair hmem
    have hentitled := (h _ hanswer _ hmem).1 (isIdentityOnly_of_tenant htenant hschema)
    exact ((entitled_iff (Table.mem_of_find? hfind) hkept htables (Table.mem_of_find? huser)
      hactive htenant hschema huserText).mp hentitled).1
  · intro h tokens hanswer issued hissued
    obtain ⟨hdecode, hcontext, hselect⟩ := answer_selectTenant_eq_ok.mp hanswer
    obtain ⟨w, userId, tables, user, hw, huserId, htables, huser, hactive, rfl⟩ :=
      selectTenant_eq_ok.mp hselect
    obtain ⟨huserText, hroles, htenant, hschema, -⟩ := mem_contextualPair hissued
    obtain ⟨key, -, hfind, hkept⟩ := Directory.liveWholesaler?_eq_some.mp hw
    refine ⟨fun _ => ?_, fun _ _ heq => nomatch heq⟩
    refine (entitled_iff (Table.mem_of_find? hfind) hkept htables (Table.mem_of_find? huser)
      hactive htenant hschema huserText).mpr ⟨?_, fun role hrole => by rwa [hroles] at hrole⟩
    exact h hdecode hcontext w hw userId huserId tables htables user huser hactive

/-! ## Refresh -/

/-- The schema of a tenant is an identifier that may stand in a statement. -/
theorem isSafeIdentifier_schemaOf (id : Uuid) : isSafeIdentifier (schemaOf id) = true := by
  have hchars : ∀ c ∈ Uuid.hexDigits 32 id.toNat, c.isAlphanum = true ∧ c ≠ '\n' := by
    intro c hc
    obtain ⟨d, hd, rfl⟩ := Uuid.mem_hexDigits hc
    exact (by decide : ∀ d < 16, (Uuid.hexDigit d).isAlphanum = true ∧ Uuid.hexDigit d ≠ '\n') d hd
  have hlist : (schemaOf id).toList = 't' :: '_' :: Uuid.hexDigits 32 id.toNat := by
    have hhead : "t_".toList = ['t', '_'] := rfl
    simp only [schemaOf, Uuid.hex, String.toList_append, String.toList_ofList]
    rw [hhead, List.cons_append, List.cons_append, List.nil_append]
  have hlast : (schemaOf id).toList.getLast? ≠ some '\n' := by
    intro h
    have hmem := List.mem_of_getLast? h
    rw [hlist] at hmem
    simp only [List.mem_cons, Char.reduceEq, false_or] at hmem
    exact (hchars _ hmem).2 rfl
  unfold isSafeIdentifier
  dsimp only
  rw [if_neg hlast, hlist]
  simp only [List.length_cons, Uuid.length_hexDigits, List.all_cons, Bool.and_eq_true,
    List.all_eq_true, Bool.or_eq_true, decide_eq_true_eq]
  refine ⟨⟨by decide, by decide⟩, by decide, fun c hc => .inl (hchars c hc).1⟩

theorem refreshToken_eq_ok {payload : TokenPayload} {tokens : List TokenPayload}
    (hcontextual : payload.isIdentityOnly = false) (hsigned : Signed payload) :
    refreshToken host directory now payload = .ok tokens ↔ payload.type = "refresh" ∧
      (∃ w tables user, Live directory w tables user ∧ payload.tenantId = some w.id.text ∧
        payload.tenantSchema = some w.tenantSchema ∧ payload.userId = user.id.text) ∧
      tokens = contextualPair host now payload.userId payload.roles payload.tenantId
        payload.tenantSchema := by
  obtain ⟨⟨userId, huser⟩, htenant⟩ := hsigned
  obtain ⟨id, hid, hschema⟩ := htenant hcontextual
  simp only [refreshToken, hcontextual, Bool.false_eq_true, if_false, bind_eq_ok, refuseIf_eq_ok,
    exists_const, pure_eq_ok, validateContextualRefreshSubject, orRefuse_eq_ok, ne_eq, not_not,
    Directory.liveWholesaler?_eq_some, hid, huser, Option.bind_some, Uuid.parse_text,
    Option.some.injEq, exists_eq_left', Bool.not_eq_false, Bool.not_eq_true]
  refine and_congr_right fun _ => and_congr ?_ eq_comm
  constructor
  · rintro ⟨w, ⟨hfind, hkept⟩, hstatus, -, tables, htables, user, hmem, hdeleted, hactive⟩
    have hkey : w.id = id := Table.key_of_find? hfind
    have huserKey : user.id = userId := Table.key_of_find? hmem
    refine ⟨w, tables, user, ⟨Table.mem_of_find? hfind, htables, Table.mem_of_find? hmem, hkept,
      hstatus, hdeleted, hactive⟩, by rw [hkey], ?_, by rw [huserKey]⟩
    rw [hschema, Wholesaler.tenantSchema, hkey]
  · rintro ⟨w, tables, user, hlive, hsame, -, hsameUser⟩
    obtain rfl := Uuid.text_inj.mp hsame
    obtain rfl := Uuid.text_inj.mp hsameUser
    exact ⟨w, ⟨Table.find?_key hlive.wholesaler, hlive.tenantKept⟩, hlive.tenantActive,
      isSafeIdentifier_schemaOf _, tables, hlive.schema, user, Table.find?_key hlive.member,
      hlive.userKept, hlive.userActive⟩

/-- An identity token is refreshed by identity tokens. -/
theorem refreshToken_identity {payload : TokenPayload} {tokens : List TokenPayload}
    (hidentity : payload.isIdentityOnly = true)
    (h : refreshToken host directory now payload = .ok tokens) :
    tokens = identityPair host now payload.userId payload.roles payload.tmap := by
  simp only [refreshToken, hidentity, if_true, bind_eq_ok, pure_eq_ok] at h
  obtain ⟨-, -, rfl⟩ := h
  rfl

theorem answer_refresh_eq_ok {s : State} {token : TokenPayload} {tokens : List TokenPayload} :
    answer host s (.refresh token) = .ok tokens ↔
      decodeToken s.issued s.now token = .ok token ∧
        refreshToken host s.directory s.now token = .ok tokens := by
  simp only [answer, bind_eq_ok]
  constructor
  · rintro ⟨payload, hdecode, htokens⟩
    obtain ⟨-, -, rfl⟩ := decodeToken_eq_ok.mp hdecode
    exact ⟨hdecode, htokens⟩
  · rintro ⟨hdecode, htokens⟩
    exact ⟨token, hdecode, htokens⟩

theorem refresh_freshAuthority_iff {s : State} {token : TokenPayload}
    (hsigned : ∀ token ∈ s.issued, Signed token) :
    FreshAuthority host s (.refresh token) ↔ Unrevoked host s (.refresh token) := by
  constructor
  · intro h hdecode htype hcontextual w tables user hlive hid huser
    have hs := hsigned token (decodeToken_eq_ok.mp hdecode).1
    have hschema : token.tenantSchema = some w.tenantSchema := by
      obtain ⟨id, hid', hschema⟩ := hs.2 hcontextual
      obtain rfl := Uuid.text_inj.mp (Option.some.inj (hid'.symm.trans hid))
      exact hschema
    have htokens : refreshToken host s.directory s.now token = .ok _ :=
      (refreshToken_eq_ok hcontextual hs).mpr ⟨htype, ⟨w, tables, user, hlive, hid, hschema, huser⟩, rfl⟩
    have hmem := access_mem_contextualPair host s.now token.userId token.roles
      token.tenantId token.tenantSchema
    obtain ⟨huser', hroles', hid', hschema', -⟩ := mem_contextualPair hmem
    have hentitled := (h _ (answer_refresh_eq_ok.mpr ⟨hdecode, htokens⟩) _ hmem).1
      (isIdentityOnly_of_tenant (hid'.trans hid) (hschema'.trans hschema))
    rw [← hroles']
    exact ((entitled_iff hlive.wholesaler hlive.tenantKept hlive.schema hlive.member
      hlive.userActive (hid'.trans hid) (hschema'.trans hschema) (huser'.trans huser)).mp
        hentitled).2
  · intro h tokens hans issued hissued
    obtain ⟨hdecode, htokens⟩ := answer_refresh_eq_ok.mp hans
    refine ⟨fun hcontextual => ?_, fun _ _ heq => nomatch heq⟩
    by_cases hidentity : token.isIdentityOnly = true
    · obtain rfl := refreshToken_identity hidentity htokens
      rw [(mem_identityPair hissued).1] at hcontextual
      cases hcontextual
    · rw [Bool.not_eq_true] at hidentity
      have hs := hsigned token (decodeToken_eq_ok.mp hdecode).1
      obtain ⟨htype, ⟨w, tables, user, hlive, hid, hschema, huser⟩, rfl⟩ :=
        (refreshToken_eq_ok hidentity hs).mp htokens
      obtain ⟨huser', hroles, hid', hschema', -⟩ := mem_contextualPair hissued
      refine ⟨w, tables, user, hlive, hid'.trans hid, hschema'.trans hschema, huser'.trans huser,
        fun role hrole => ?_⟩
      rw [hroles] at hrole
      exact h hdecode htype hidentity w tables user hlive hid huser role hrole

/-! ## The retailer's login -/

theorem exactlyOne_eq_some {α : Type} {xs : List α} {a : α} : exactlyOne xs = some a ↔ xs = [a] := by
  unfold exactlyOne
  split
  next b => simp
  next h => exact iff_of_false nofun (h a)

/-- The retailer's login has checked everything that the law asks for. -/
theorem retailerLogin_freshAuthority {s : State} {email code password : String} :
    FreshAuthority host s (.retailerLogin email code password) := by
  intro tokens hanswer token htoken
  simp only [answer, retailerLogin, bind_eq_ok, refuseIf_eq_ok, exists_const, orRefuse_eq_ok,
    pure_eq_ok, ne_eq, not_not, Bool.not_eq_false, exactlyOne_eq_some] at hanswer
  obtain ⟨-, ⟨w, schema⟩, hreg, -, hown, hanswer⟩ := hanswer
  obtain rfl : schema = schemaOf w.id := hown
  obtain ⟨tables, htables, user, huser, hactive, -, binding, -, -, hrole, -, -, -, rfl⟩ := hanswer
  have hmem : (w, schemaOf w.id) ∈ activeRegistrations s.directory (host.upper (strip code)) := by
    rw [hreg]
    exact List.mem_singleton_self _
  simp only [activeRegistrations, List.mem_filterMap, Option.bind_eq_bind,
    Option.bind_eq_some_iff] at hmem
  obtain ⟨tr, -, w', hfind, schema', -, hcond⟩ := hmem
  split at hcond
  next hlive =>
    obtain ⟨rfl, rfl⟩ := Prod.mk.inj (Option.some.inj hcond)
    have hfound := List.mem_of_mem_head? (Option.mem_def.mpr huser)
    obtain ⟨hmember, hkept⟩ := Table.mem_select.mp hfound
    obtain ⟨huserText, hroles, htenant, hschema, -⟩ := mem_contextualPair htoken
    refine ⟨fun _ => ?_, fun _ _ heq => by cases heq⟩
    refine ⟨w', tables, user, ⟨Table.mem_of_find? hfind, htables, hmember, hlive.2.1, hlive.2.2.1,
      (of_decide_eq_true hkept).2, hactive⟩, htenant, hschema, huserText, ?_⟩
    rw [hroles]
    intro role hmem
    obtain rfl := List.mem_singleton.mp hmem
    obtain ⟨r, hr, hname⟩ := List.any_eq_true.mp hrole
    exact List.mem_map.mpr ⟨r, hr, (of_decide_eq_true hname).1⟩
  next => cases hcond

theorem contextual_of_retailerLogin {s : State} {email code password : String}
    {tokens : List TokenPayload} (h : answer host s (.retailerLogin email code password) = .ok tokens)
    {token : TokenPayload} (htoken : token ∈ tokens) : token.isIdentityOnly = false := by
  simp only [answer, retailerLogin, bind_eq_ok, pure_eq_ok] at h
  obtain ⟨-, -, ⟨w, schema⟩, -, -, -, -, -, tables, -, user, -, -, -, -, -, binding, -, -, -, -, -,
    retailer, -, -, -, rfl⟩ := h
  obtain ⟨-, -, htenant, hschema, -⟩ := mem_contextualPair htoken
  exact isIdentityOnly_of_tenant htenant hschema

/-! ## Runs -/

/-- The endpoints sign well-formed tokens only. -/
theorem Signed.answer {s : State} (hsigned : ∀ token ∈ s.issued, Signed token) {e : Event}
    {tokens : List TokenPayload} (h : answer host s e = .ok tokens) :
    ∀ token ∈ tokens, Signed token := by
  intro token htoken
  cases e with
  | change directory =>
    obtain rfl := Except.ok.inj h
    exact absurd htoken List.not_mem_nil
  | wait seconds =>
    obtain rfl := Except.ok.inj h
    exact absurd htoken List.not_mem_nil
  | login email password =>
    obtain ⟨first, others, -, rfl⟩ := login_eq_ok.mp h
    obtain ⟨hidentity, huser, -⟩ := mem_identityPair htoken
    refine ⟨⟨_, huser⟩, fun hnot => ?_⟩
    rw [hidentity] at hnot
    cases hnot
  | selectTenant tenantId presented =>
    obtain ⟨-, -, hselect⟩ := answer_selectTenant_eq_ok.mp h
    obtain ⟨w, userId, tables, user, -, -, -, -, -, rfl⟩ := selectTenant_eq_ok.mp hselect
    obtain ⟨huser, -, htenant, hschema, -⟩ := mem_contextualPair htoken
    exact ⟨⟨_, huser⟩, fun _ => ⟨w.id, htenant, hschema⟩⟩
  | refresh presented =>
    obtain ⟨hdecode, htokens⟩ := answer_refresh_eq_ok.mp h
    have hpresented := hsigned presented (decodeToken_eq_ok.mp hdecode).1
    by_cases hidentity : presented.isIdentityOnly = true
    · obtain rfl := refreshToken_identity hidentity htokens
      obtain ⟨hidentity', huser, -⟩ := mem_identityPair htoken
      refine ⟨huser ▸ hpresented.1, fun hnot => ?_⟩
      rw [hidentity'] at hnot
      cases hnot
    · rw [Bool.not_eq_true] at hidentity
      obtain ⟨-, -, rfl⟩ := (refreshToken_eq_ok hidentity hpresented).mp htokens
      obtain ⟨huser, -, htenant, hschema, -⟩ := mem_contextualPair htoken
      obtain ⟨id, hid, hown⟩ := hpresented.2 hidentity
      exact ⟨huser ▸ hpresented.1, fun _ => ⟨id, htenant.trans hid, hschema.trans hown⟩⟩
  | retailerLogin email code password =>
    obtain ⟨w, tables, user, -, htenant, hschema, huser, -⟩ :=
      (retailerLogin_freshAuthority tokens h token htoken).1 (contextual_of_retailerLogin h htoken)
    exact ⟨⟨_, huser⟩, fun _ => ⟨w.id, htenant, hschema⟩⟩

theorem Signed.step {s : State} (hsigned : ∀ token ∈ s.issued, Signed token) (e : Event) :
    ∀ token ∈ (step host s e).issued, Signed token := by
  have hissue : ∀ token ∈ (issue s (Access.answer host s e)).issued, Signed token := by
    cases hanswer : Access.answer host s e with
    | error code => exact hsigned
    | ok tokens =>
      intro token htoken
      rcases List.mem_append.mp htoken with hold | hnew
      · exact hsigned token hold
      · exact Signed.answer hsigned hanswer token hnew
  cases e with
  | change directory => exact hsigned
  | wait seconds => exact hsigned
  | login email password => exact hissue
  | selectTenant tenantId token => exact hissue
  | refresh token => exact hissue
  | retailerLogin email code password => exact hissue

theorem freshAuthority_iff {s : State} (hsigned : ∀ token ∈ s.issued, Signed token) (e : Event) :
    FreshAuthority host s e ↔ Unrevoked host s e := by
  cases e with
  | change directory =>
    refine iff_of_true (fun tokens h token htoken => ?_) trivial
    obtain rfl := Except.ok.inj h
    exact absurd htoken List.not_mem_nil
  | wait seconds =>
    refine iff_of_true (fun tokens h token htoken => ?_) trivial
    obtain rfl := Except.ok.inj h
    exact absurd htoken List.not_mem_nil
  | login email password => exact login_freshAuthority_iff
  | selectTenant tenantId token => exact selectTenant_freshAuthority_iff
  | refresh token => exact refresh_freshAuthority_iff hsigned
  | retailerLogin email code password => exact iff_of_true retailerLogin_freshAuthority trivial

/-- At every step of a run, an endpoint gives authority to those only who have it at that moment,
exactly when no revocation it does not look at stands in the way. -/
theorem fresh_authority (host : Host) (directory : Directory) (now : ℤ) (events : List Event) :
    Along (step host) (FreshAuthority host) { directory := directory, now := now } events ↔
      Along (step host) (Unrevoked host) { directory := directory, now := now } events := by
  refine Along.congr (I := fun s => ∀ token ∈ s.issued, Signed token) ?_ ?_ ?_
  · intro s e hsigned _
    exact Signed.step hsigned e
  · intro s e hsigned
    exact freshAuthority_iff hsigned e
  · intro token htoken
    exact absurd htoken List.not_mem_nil

/-! ### A user deleted between login and selection -/

def sampleHost : Host where
  accessSeconds := 1800
  refreshSeconds := 604800
  lower := id
  upper := id
  verifyPassword := fun password hash => password = hash

def sampleUser : User where
  id := 2
  email := "amina@shop.test"
  passwordHash := "hash"

def sampleTables (user : User) : TenantTables where
  users := ⟨[user], by simp⟩
  roles := Table.empty
  emails := fun u hu v hv _ => (List.mem_singleton.mp hu).trans (List.mem_singleton.mp hv).symm

/-- One tenant with one user. -/
def sampleDirectory (user : User) : Directory where
  wholesalers := ⟨[{ id := 1, code := "SHOP", status := "active" }], by simp⟩
  registrations := []
  bindings := []
  retailers := Table.empty
  schemas := fun schema =>
    if schema = schemaOf 1 then some (sampleTables user) else none

/-- The access token of the login. -/
def sampleToken : TokenPayload :=
  createIdentityToken sampleHost 0 (Uuid.text 2) [] "access" [(Uuid.text 1, Uuid.text 2)]

/-- The user after its soft deletion. -/
def deletedUser : User := { sampleUser with isDeleted := true }

/-- The user logs in, is soft-deleted, and selects the tenant. -/
def deletedRun : List Event :=
  [.login "amina@shop.test" "hash",
    .change (sampleDirectory deletedUser),
    .selectTenant (Uuid.text 1) sampleToken]

theorem fresh_authority_broken_deletedRun :
    ¬Along (step sampleHost) (FreshAuthority sampleHost)
      { directory := sampleDirectory sampleUser, now := 0 } deletedRun := by
  intro h
  have hselect := selectTenant_freshAuthority_iff.mp h.2.2.1
  have hissued : sampleToken ∈ (step sampleHost { directory := sampleDirectory sampleUser, now := 0 }
      (.login "amina@shop.test" "hash")).issued := by
    decide +kernel
  have htables : (sampleDirectory deletedUser).schemas (schemaOf 1) =
      some (sampleTables deletedUser) := by simp [sampleDirectory]
  have hrevoked := hselect (decodeToken_eq_ok.mpr ⟨hissued, by decide, rfl⟩) rfl
    { id := 1, code := "SHOP", status := "active" }
    (Directory.liveWholesaler?_eq_some.mpr ⟨1, Uuid.parse_text 1, rfl, rfl⟩) 2 (by decide +kernel)
    (sampleTables deletedUser) htables deletedUser rfl rfl
  exact absurd hrevoked.2 (by decide)

end Mpango.Access
