import TableApi.Address.Host
import TableApi.Address.Path

/-!
# Addresses

A server is reached at an address, a URL: a scheme, a server with credentials, a path, a query and
a fragment.  All parts are in their normal form: the scheme in lower case, dots in the path
resolved, and each part escaped as that part demands.  `redacted` is the form that may be logged,
without the password.
-/

namespace TableApi

/-- Where a server is, and who asks it. -/
structure Authority where
  user : List Char
  password : List Char
  host : Host
  port : Option Nat
deriving DecidableEq, Repr

/-- An address in its normal form. -/
structure Address where
  scheme : List Char
  authority : Option Authority
  path : List Char
  query : Option (List Char)
  fragment : Option (List Char)
deriving DecidableEq, Repr

namespace Authority

/-- A server that no one is named to ask. -/
def ofHost (host : Host) : Authority :=
  ⟨[], [], host, none⟩

def credentialsText (authority : Authority) : List Char :=
  if authority.user.isEmpty && authority.password.isEmpty then []
  else
    authority.user ++
      (if authority.password.isEmpty then [] else ':' :: authority.password) ++ ['@']

def text (authority : Authority) : List Char :=
  "//".toList ++ authority.credentialsText ++ authority.host.text ++
    match authority.port with
    | some port => ':' :: (toString port).toList
    | none => []

/-- A server with three stars in place of the password. -/
def redacted (authority : Authority) : Authority :=
  if authority.password.isEmpty then authority
  else { authority with password := "***".toList }

/-- Whether the credentials can be told apart from the address: there are some, and the user, or
the password of no user, is text. -/
def hasReadableCredentials (authority : Authority) : Bool :=
  match Address.unescape? authority.user with
  | none => false
  | some [] => !authority.password.isEmpty && (Address.unescape? authority.password).isSome
  | some _ => true

/-- A server without the credentials that can be told apart from the address. -/
def anonymous (authority : Authority) : Authority :=
  if authority.hasReadableCredentials then { authority with user := [], password := [] }
  else authority

end Authority

namespace Address

def text (address : Address) : String :=
  .ofList (address.scheme ++ [':'] ++ (address.authority.map Authority.text).getD [] ++
    address.path ++ (address.query.map fun query => '?' :: query).getD [] ++
    (address.fragment.map fun fragment => '#' :: fragment).getD [])

/-- An address with three stars in place of a password. -/
def redacted (address : Address) : Address :=
  { address with authority := address.authority.map Authority.redacted }

def anonymous (address : Address) : Address :=
  { address with authority := address.authority.map Authority.anonymous }

def parameters (address : Address) : List (String × String) :=
  let pairs := (Text.splitAtChar '&' (address.query.getD [])).filter fun pair => !pair.isEmpty
  pairs.map fun pair =>
    let (name, value) := (Text.cutAt? '=' pair).getD (pair, [])
    (.ofList (Text.formDecode name), .ofList (Text.formDecode value))

end Address

end TableApi
