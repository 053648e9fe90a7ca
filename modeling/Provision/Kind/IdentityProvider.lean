import Provision.Kind.Basic

/-!
Identity providers. All types share one argument record; the type decides the manifest directory.
Some types have an address of their own, the argument `url`, so the gateway's goes into
`gateway_url`.
-/

set_option autoImplicit false

namespace Provision

inductive IdpType where
  | htpasswd
  | github
  | gitlab
  | google
  | ldap
  | openid
deriving DecidableEq, Repr, Inhabited

namespace IdpType

def all : List IdpType := [.htpasswd, .github, .gitlab, .google, .ldap, .openid]

def name : IdpType → String
  | .htpasswd => "htpasswd"
  | .github => "github"
  | .gitlab => "gitlab"
  | .google => "google"
  | .ldap => "ldap"
  | .openid => "openid"

def directory (t : IdpType) : Path := Path.join ⟨"idps"⟩ ⟨t.name⟩

def lower (s : String) : List Char := s.toList.map Char.toLower

def ofName (s : String) : Except String IdpType :=
  match all.find? fun t => lower t.name == lower s with
  | some t => .ok t
  | none => .error ("unknown identity provider type: " ++ s)

end IdpType

structure HtpasswdUser where
  username : String
  password : String
deriving DecidableEq, Inhabited

namespace HtpasswdUser

instance : Encode HtpasswdUser where
  encode u := .ofMembers [("username", .str u.username), ("password", .str u.password)]

/-- The value of a member that appears exactly once. -/
def single? (ms : List (String × Written)) (name : String) : Option Written :=
  match ms.filter fun m => m.1 == name with
  | [m] => some m.2
  | _ => none

instance : Decode HtpasswdUser where
  decode
    | .obj ms => do
      let u ← (single? ms "username").bind decode
      let p ← (single? ms "password").bind decode
      some ⟨u, p⟩
    | .arr [u, p] => do some ⟨← decode u, ← decode p⟩
    | _ => none

end HtpasswdUser

structure IdpArgs where
  token : Option String := none
  gatewayUrl : Option String := none
  clusterId : Option String := none
  name : Option String := none
  htpasswdUsers : Option (List HtpasswdUser) := none
  ca : Option String := none
  url : Option String := none
  attributes : Option (Assoc Json) := none
  insecure : Option Bool := none
  clientId : Option String := none
  clientSecret : Option String := none
  organizations : Option (List String) := none
  hostedDomain : Option String := none
  issuer : Option String := none
deriving DecidableEq, Inhabited

namespace IdpArgs

instance : Record IdpArgs where
  empty := {}
  fields := [
    .optional "token" (·.token) fun v r => { r with token := v },
    .optional "gateway_url" (·.gatewayUrl) fun v r => { r with gatewayUrl := v },
    .optional "cluster_id" (·.clusterId) fun v r => { r with clusterId := v },
    .optional "name" (·.name) fun v r => { r with name := v },
    .optional "htpasswd_users" (·.htpasswdUsers) fun v r => { r with htpasswdUsers := v },
    .optional "ca" (·.ca) fun v r => { r with ca := v },
    .optional "url" (·.url) fun v r => { r with url := v },
    .optional "attributes" (·.attributes) fun v r => { r with attributes := v },
    .optional "insecure" (·.insecure) fun v r => { r with insecure := v },
    .optional "client_id" (·.clientId) fun v r => { r with clientId := v },
    .optional "client_secret" (·.clientSecret) fun v r => { r with clientSecret := v },
    .optional "organizations" (·.organizations) fun v r => { r with organizations := v },
    .optional "hosted_domain" (·.hostedDomain) fun v r => { r with hostedDomain := v },
    .optional "issuer" (·.issuer) fun v r => { r with issuer := v }]

def forCluster (token clusterId name : String) : IdpArgs :=
  { token := some token, clusterId := some clusterId, name := some name }

end IdpArgs

structure IdpOutput where
  id : String
deriving DecidableEq

namespace IdpOutput

instance : Encode IdpOutput := ⟨fun o => .ofMembers [("id", .str o.id)]⟩

def ofOutputs (o : Outputs) : IdpOutput := ⟨o.text "idp_id"⟩

end IdpOutput

/-- The gateway is the argument `gateway_url`. -/
def ResourceKind.identityProvider (t : IdpType) : ResourceKind IdpArgs IdpOutput :=
  .ofRecord t.name t.directory (fun u a => { a with gatewayUrl := some u }) .ofOutputs

end Provision
