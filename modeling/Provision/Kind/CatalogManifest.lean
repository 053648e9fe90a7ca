import Provision.Kind.CloudProviders
import Provision.Workspace

set_option autoImplicit false

namespace Provision.CatalogManifest

def typeName : String := "rhcs_cloud_providers"

def name : String := "catalog"

def file : String := "main.tf"

def lines : List String := [
  "terraform \x7b",
  "  required_providers \x7b",
  "    rhcs = \x7b",
  "      source = \"terraform-redhat/rhcs\"",
  "    \x7d",
  "  \x7d",
  "\x7d",
  "",
  "variable \"url\" \x7b",
  "  type = string",
  "\x7d",
  "",
  "variable \"token\" \x7b",
  "  type      = string",
  "  sensitive = true",
  "\x7d",
  "",
  "variable \"search\" \x7b",
  "  type    = string",
  "  default = null",
  "\x7d",
  "",
  "variable \"order\" \x7b",
  "  type    = string",
  "  default = null",
  "\x7d",
  "",
  "provider \"rhcs\" \x7b",
  "  url   = var.url",
  "  token = var.token",
  "\x7b\x7b .TrustedCas \x7d\x7d\x7d",
  "",
  "data \"rhcs_cloud_providers\" \"\x7b\x7b .Name \x7d\x7d\" \x7b",
  "  search = var.search",
  "  order  = var.order",
  "\x7d",
  "",
  "output \"search\" \x7b",
  "  value = data.rhcs_cloud_providers.\x7b\x7b .Name \x7d\x7d.search",
  "\x7d",
  "",
  "output \"order\" \x7b",
  "  value = data.rhcs_cloud_providers.\x7b\x7b .Name \x7d\x7d.order",
  "\x7d",
  "",
  "output \"items\" \x7b",
  "  value = data.rhcs_cloud_providers.\x7b\x7b .Name \x7d\x7d.items",
  "\x7d",
  "",
  "output \"item\" \x7b",
  "  value = data.rhcs_cloud_providers.\x7b\x7b .Name \x7d\x7d.item",
  "\x7d"]

def template : String := String.join (lines.map (· ++ "\n"))

/-- The line that names a file of certificates. Terraform takes forward slashes everywhere. -/
def trustedLine (path : String) : String :=
  "  trusted_cas = file(\"" ++
    String.ofList (path.toList.map fun c => if c = '\\' then '/' else c) ++ "\")\n"

def values (trusted : Option String) : List (String × String) :=
  [("TrustedCas", (trusted.map trustedLine).getD ""), ("Name", name)]

def prepare (w : Workspace) (t : FileTree) (trusted : Option String) :
    Except Failure Path × FileTree :=
  w.render t file template (values trusted)

end Provision.CatalogManifest
