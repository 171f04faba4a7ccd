import IdentityLifecycle.Text.Basic
import IdentityLifecycle.Text.Quoted

/-!
The host that links in mails point at.
-/
namespace IdentityLifecycle

structure InvalidSiteDomain where
  deriving DecidableEq, Repr

def InvalidSiteDomain.message (_ : InvalidSiteDomain) : String := "site domain cannot be empty"

structure SiteDomain where
  host : String
  deriving DecidableEq, Repr

namespace SiteDomain

/-- Takes off the blanks around the domain, then the slashes at its end. -/
def ofString (domain : String) : Except InvalidSiteDomain SiteDomain :=
  let host := Text.trimEnd (· == '/') (Text.trim Text.isBlank domain)
  if host = "" then .error {} else .ok { host }

def isDev (site : SiteDomain) : Bool := "localhost".toList.isPrefixOf site.host.toList

def scheme (site : SiteDomain) : String := if site.isDev then "http" else "https"

def pathSegments (segments : List String) : List String :=
  (segments.map (Text.trim (· == '/'))).filter (· ≠ "")

def url (site : SiteDomain) (segments : List String) : String :=
  site.scheme ++ "://" ++ site.host ++ "/" ++ "/".intercalate (pathSegments segments)

def describe (site : SiteDomain) : String := "SiteDomain(" ++ Text.quoted site.host ++ ")"

end SiteDomain

end IdentityLifecycle
