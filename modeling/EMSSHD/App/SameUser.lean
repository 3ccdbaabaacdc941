import EMSSHD.App.LinuxAuth
import EMSSHD.Framework.Invariant
import EMSSHD.Server.Userauth

namespace EMSSHD

open Call

/-- The user name that is given to spawn_shell and spawn_exec. -/
def spawnUsername (record : AuthRecord) : Option Bytes :=
  if record.authenticatedUsernameLen≠0 then some (cString record.authenticatedUsername) else none

/-- Whoever reads the user name of a request as a C string reads the name that the policy
is about, and root stays out when the policy says so. -/
structure SameUser (request : UserauthRequest) : Prop where
  account : ∀ name,passwdAccount request.username=some name → request.username=some name
  home : ∀ name,keysUser request.username=some name → request.username=some name
  spawned : ∀ (κ : Type) (s t : AuthState κ) name,
    (setAuthenticatedUsername request.username).run s=(.ok (),t) →
    spawnUsername t.2=some name → request.username=some name
  rootPassword : ∀ server auth,server.passwordAuth=some (sshPosixPasswdAuthCb auth) →
    rootLoginAllows server.permitRootLogin true=false →
    sshUserauthAuthenticatePassword server request=.ok () →
    passwdAccount request.username≠some (cstr "root")
  rootKeys : ∀ server authCtx,server.publickeyAuth=some (linuxPublickeyAuthCb authCtx) →
    server.permitRootLogin=.no → sshUserauthPublickeyIsAcceptable server request=.ok () →
    keysUser request.username≠some (cstr "root")

def Named (s : SshBuffer×UserauthRequest) : Prop := viewLen s.2.username≠0

lemma expectEnd_named (e : Err) : Keeps Named (expectEnd e) := by
  refine Keeps.bind (I := Named) Keeps.get ?_
  intro s
  exact Keeps.require _ e

lemma readInto_named {α : Type} {get : Call SshBuffer Err α}
    {set : α → UserauthRequest → UserauthRequest} {next : Decoder UserauthRequest Unit}
    (hst : ∀ a r,(set a r).username=r.username) (hn : Keeps Named next) :
    Keeps Named (readInto get set >>= fun _ => next) := by
  refine Keeps.bind (I := Named) (Keeps.bind (I := Named) ?_ ?_) fun _ => hn
  · intro s hs
    exact hs
  intro a
  apply Keeps.modify
  intro s hs
  rw [Named,hst]
  exact hs

lemma userauthPasswordFields_named : Keeps Named userauthPasswordFields := by
  apply readInto_named
  · exact fun _ _ => rfl
  apply readInto_named
  · exact fun _ _ => rfl
  exact expectEnd_named _

lemma userauthPublickeyFields_named : Keeps Named userauthPublickeyFields := by
  apply readInto_named
  · exact fun _ _ => rfl
  apply readInto_named
  · exact fun _ _ => rfl
  apply readInto_named
  · exact fun _ _ => rfl
  refine Keeps.bind (I := Named) Keeps.get fun s => ?_
  refine Keeps.bind (I := Named) (Keeps.require _ _) fun _ => ?_
  refine Keeps.bind (I := Named) (Keeps.onlyIf ?_) fun _ => expectEnd_named _
  apply readInto_named
  · exact fun _ _ => rfl
  refine Keeps.bind (I := Named) Keeps.get fun t => ?_
  exact Keeps.require _ _

lemma userauthRequestDecode_named (s : SshBuffer×UserauthRequest) :
    sshUserauthRequestDecode.Ensures s (fun r t => r=.ok () → Named t) := by
  have hs {α : Type} (c : Decoder UserauthRequest α) (t : SshBuffer×UserauthRequest) :
      c.Ensures t (fun _ _ => True) := trivial
  refine .bind (hs _ _) (fun messageId t _ => ?_) (fun _ _ _ => nofun)
  refine .bind (hs _ _) (fun _ t _ => ?_) (fun _ _ _ => nofun)
  refine .bind (hs _ _) (fun _ t _ => ?_) (fun _ _ _ => nofun)
  refine .bind (hs _ _) (fun _ t _ => ?_) (fun _ _ _ => nofun)
  refine .bind (hs _ _) (fun _ t _ => ?_) (fun _ _ _ => nofun)
  apply bindGet
  apply bindRequire
  · intro hch
    have hn : Named t := hch.1
    have hk {c : Decoder UserauthRequest Unit} (hc : Keeps Named c) :
        c.Ensures t (fun r u => r=.ok () → Named u) := fun _ => hc t hn
    apply Ensures.ite
    · intro _
      exact hk (expectEnd_named _)
    intro _
    apply Ensures.ite
    · intro _
      exact hk userauthPasswordFields_named
    intro _
    apply Ensures.ite
    · intro _
      exact hk userauthPublickeyFields_named
    intro _
    exact hk (Keeps.pure ())
  intro _
  exact nofun

lemma userauthRequestOf_username {payload : Bytes} {request : UserauthRequest}
    (h : userauthRequestOf payload=.ok request) :
    ∃ username,request.username=some username ∧ username.length≠0 := by
  have hn : viewLen request.username≠0 :=
    decodedBy_ensures (P := fun r => viewLen r.username≠0) h (userauthRequestDecode_named _)
  rcases hv : request.username with _ | username
  · rw [hv] at hn
    exact absurd rfl hn
  rw [hv] at hn
  exact ⟨username,rfl,hn⟩

section
variable {username name : Bytes}

lemma passwdAccount_read (h : passwdAccount (some username)=some name) :
    username.length<emsshMaxUserauthPayload ∧ name=cString (username++[0]) := by
  unfold passwdAccount at h
  rcases hc : copyRequestField (some username) emsshPosixPasswdAuthUsernameMax with _ | storage
  · rw [hc] at h
    cases h
  rw [hc] at h
  obtain ⟨hf,hs⟩ := passed_check hc
  have hn : cString storage=name := Option.some.inj h
  have hl : ¬256<username.length+1 := hf
  refine ⟨?_,?_⟩
  · rw [emsshMaxUserauthPayload]
    omega
  rw [← hn,← Except.ok.inj hs]
  rfl

lemma keysUser_read (h : keysUser (some username)=some name) :
    username.length<emsshMaxUserauthPayload ∧ name=cString (username++[0]) := by
  unfold keysUser at h
  rcases hc : copyUsernameRequestLocal (some username) with _ | storage
  · rw [hc] at h
    cases h
  rw [hc] at h
  obtain ⟨hf,hs⟩ := passed_check hc
  have hn : cString storage=name := Option.some.inj h
  have hln : ¬128<username.length+1 := fun hl => hf (.inr hl)
  refine ⟨?_,?_⟩
  · rw [emsshMaxUserauthPayload]
    omega
  rw [← hn,← Except.ok.inj hs]
  rfl

lemma setAuthenticatedUsername_spawns {κ : Type} {s t : AuthState κ}
    (h : (setAuthenticatedUsername (some username)).run s=(.ok (),t)) :
    username.length<emsshMaxUserauthPayload ∧ (username.length≠0 → ∃ rest,
      spawnUsername t.2=some (cString (username++(0::rest)))) := by
  unfold setAuthenticatedUsername at h
  rcases hc : viewToCstring (some username) emsshMaxUserauthPayload with _ | text
  · rw [hc] at h
    cases h
  rw [hc] at h
  obtain ⟨hf,htx⟩ := passed_check hc
  refine ⟨by omega,fun hne => ⟨s.2.authenticatedUsername.drop (username.length+1),?_⟩⟩
  have ht := (Prod.mk.inj h).2
  rw [← ht,← Except.ok.inj htx]
  exact if_pos hne
end

/-- The user that is authenticated and run is the user the policy has judged exactly when
the name has no NUL in it, or is too long for anyone to read it. -/
theorem sameUser_iff (payload : Bytes) (request : UserauthRequest)
    (h : userauthRequestOf payload=.ok request) : SameUser request ↔
      0∉request.username.getD [] ∨ emsshMaxUserauthPayload≤(request.username.getD []).length := by
  obtain ⟨username,hn,hne⟩ := userauthRequestOf_username h
  have hg : request.username.getD []=username := by rw [hn]; rfl
  rw [hg]
  refine ⟨fun hsm => ?_,fun hcl => ?_⟩
  · by_contra hb
    obtain ⟨hnl,hs⟩ := not_or.mp hb
    -- the copy for the session takes every name that is not too long
    let s : AuthState Unit := (⟨(),[],none⟩,{})
    have hf : ¬emsshMaxUserauthPayload<username.length+1 := by omega
    have hc : viewToCstring request.username emsshMaxUserauthPayload=.ok username := by
      rw [hn]
      exact if_neg hf
    obtain ⟨t,hrn⟩ : ∃ t,(setAuthenticatedUsername request.username).run s=(.ok (),t) := by
      rw [setAuthenticatedUsername,hc]
      exact ⟨_,rfl⟩
    have hru := hrn
    rw [hn] at hru
    obtain ⟨rest,hsp⟩ := (setAuthenticatedUsername_spawns hru).2 hne
    have hr := hsm.spawned Unit s t _ hrn hsp
    rw [hn] at hr
    exact hnl ((cString_copy_iff username rest).mp (Option.some.inj hr).symm)
  have hr (rest : Bytes) (hs : username.length<emsshMaxUserauthPayload) :
      cString (username++(0::rest))=username :=
    cString_of_noNul (hcl.resolve_right (by omega)) rest
  have hac (name : Bytes) (ha : passwdAccount request.username=some name) :
      request.username=some name := by
    rw [hn] at ha
    obtain ⟨hs,hc⟩ := passwdAccount_read ha
    rw [hn,hc,hr [] hs]
  have hh (name : Bytes) (ha : keysUser request.username=some name) :
      request.username=some name := by
    rw [hn] at ha
    obtain ⟨hs,hc⟩ := keysUser_read ha
    rw [hn,hc,hr [] hs]
  refine ⟨hac,hh,?_,?_,?_⟩
  · intro κ s t name hrn hsp
    rw [hn] at hrn
    obtain ⟨hs,hsw⟩ := setAuthenticatedUsername_spawns hrn
    obtain ⟨rest,hrs⟩ := hsw hne
    rw [hrs,hr rest hs] at hsp
    rw [hn,hsp]
  · intro server auth _ hd hok hrt
    obtain ⟨hfr,_⟩ := passed_check hok
    have hm : viewEqualsCstr request.methodName sshAuthMethodPassword=true := by
      simpa using (not_or.mp hfr).1
    have hat : Authorised server [] request := authenticatePassword_authorised hok
    have hal := hat.root (hac _ hrt)
    rw [hm,hd] at hal
    cases hal
  intro server authCtx _ hno hok hrt
  have hp := (publickeyIsAcceptable_ok hok).policy
  have hal := (requestAllowed_policy hp).2 (hh _ hrt)
  rw [hno] at hal
  cases hal

def passwordRequestPayload (username password : Bytes) : Bytes :=
  sshMsgUserauthRequest::(stringField username++stringField sshServiceConnection++
    stringField sshAuthMethodPassword++[0]++stringField password)

def passwordRequest (username password : Bytes) : UserauthRequest where
  username := some username
  serviceName := some sshServiceConnection
  methodName := some sshAuthMethodPassword
  password := some password

theorem sameUser_iff_plain_name : SameUser (passwordRequest (cstr "u") (cstr "pw")) :=
  (sameUser_iff (passwordRequestPayload (cstr "u") (cstr "pw")) _ rfl).mpr (.inl (by decide))

def rootOnlyAuth : PosixPasswdAuth where
  fs _ := .ok [.ok (cstr "root:h:0:0\n"),.ok []]
  crypt password hash := if password=cstr "pw" then some hash else none

def noRootServer : AuthServer where
  maxAuthTries := 3
  passwordAuth := some (sshPosixPasswdAuthCb rootOnlyAuth)
  publickeyAuth := none
  publickeySignatureAlgorithms := none
  permitRootLogin := .no
  allowUsers := none
  publickeyVerify := none
  cryptoSignatureAlgorithms := none

def noRootRun (username : Bytes) : Except Err (Option Unit)×AuthState (List (Except Err Bytes)) :=
  (sshServerRunUserauth scriptLink noRootServer [1] 1).run
    (Conn.start [.ok serviceRequestPayload,.ok (passwordRequestPayload username (cstr "pw"))],{})

/-- With a NUL behind the name root comes in, and root is the user that is run. -/
theorem nul_lets_root_in :
    (noRootRun (cstr "root"++[0])).1=.ok (some ()) ∧
      spawnUsername (noRootRun (cstr "root"++[0])).2.2=some (cstr "root") ∧
      passwdAccount (some (cstr "root"++[0]))=some (cstr "root") ∧
      (noRootRun (cstr "root")).1≠.ok (some ()) ∧
      ¬SameUser (passwordRequest (cstr "root"++[0]) (cstr "pw")) := by
  refine ⟨by decide +kernel,by decide +kernel,by decide +kernel,by decide +kernel,fun hs => ?_⟩
  have hr := hs.account (cstr "root") (by decide +kernel)
  revert hr
  decide +kernel

end EMSSHD
