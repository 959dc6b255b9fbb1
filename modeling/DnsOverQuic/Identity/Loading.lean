import DnsOverQuic.Failure
import DnsOverQuic.Files
import DnsOverQuic.Identity.Keys
import DnsOverQuic.Protocol
import DnsOverQuic.Settings.Basic

/-!
# Identities

An identity is a chain of certificates with the private key of the first.  It
is read from two files, or generated when they are not both set.  All of the
certificate file is read, and the key file up to its first private key.
-/

namespace DnsOverQuic.Identity

/-- What a server presents to its clients. -/
structure Credentials where
  leaf : Octets
  others : List Octets
  keyForm : KeyForm
  key : Octets
deriving DecidableEq, Inhabited

namespace Credentials

/-- The certificates, that of the server first. -/
def chain
    (credentials : Credentials) :
    List Octets :=
  credentials.leaf :: credentials.others

end Credentials

/-- Where an identity comes from. -/
inductive Presented where
  | loaded (credentials : Credentials)
  | generated
deriving DecidableEq, Inhabited

/-- The certificates among items. -/
def certificates
    (items : List Item) :
    List Octets :=
  items.filterMap (fun
    | .certificate octets => some octets
    | _ => none)

/-- The first item that is a private key or a fault. -/
def decidingItem?
    (items : List Item) :
    Option Item :=
  items.find? (fun
    | .key _ _ => true
    | .malformed => true
    | _ => false)

/-- The items of a file; a directory opens but cannot be read. -/
def itemsOf
    (files : Files)
    (path : String) :
    Except Failure (List Item) :=
  match files.find path with
  | .error fault => .error (.tls ("cannot open " ++ path ++ ": " ++ fault.text))
  | .ok .directory => .ok [.malformed]
  | .ok (.regular octets) => .ok (Pem.items octets)

/-- The certificates in a file: at least one, the first apart. -/
def readChain
    (files : Files)
    (path : String) :
    Except Failure (Octets × List Octets) := do
  let items ← itemsOf files path
  if items.contains .malformed then
    throw (.tls ("invalid certificate PEM " ++ path ++ ": malformed section"))
  else
    match certificates items with
    | leaf :: others => return (leaf, others)
    | [] => throw (.tls ("no certificates found in " ++ path))

/-- The first private key in a file. -/
def readKey
    (files : Files)
    (path : String) :
    Except Failure (KeyForm × Octets) := do
  match decidingItem? (← itemsOf files path) with
  | some (.key form octets) => return (form, octets)
  | some _ => throw (.tls ("invalid key PEM " ++ path ++ ": malformed section"))
  | none => throw (.tls ("no private key found in " ++ path))

/-- Read credentials from a certificate file and a key file, in this order. -/
def readCredentials
    (files : Files)
    (certificatePath keyPath : String) :
    Except Failure Credentials := do
  let (leaf, others) ← readChain files certificatePath
  let (form, key) ← readKey files keyPath
  return ⟨leaf, others, form, key⟩

/-- The identity that settings ask for. -/
def load
    (files : Files)
    (settings : IdentitySettings) :
    Except Failure Presented :=
  match settings.certificateFile, settings.keyFile with
  | some certificatePath, some keyPath =>
      (readCredentials files certificatePath keyPath).map .loaded
  | _, _ => .ok .generated

/-- What a server announces under an identity, if its key can be used. -/
def announce
    (announcement : Protocol.Announcement) :
    Presented → Except Failure (List String)
  | .generated => .ok announcement.identifiers
  | .loaded credentials =>
      if belongs credentials.keyForm credentials.key credentials.leaf then
        .ok announcement.identifiers
      else
        .error (.tls "the key cannot be used with the certificate")

/-- What a client announces, if the certificates that it is to trust are certificates. -/
def announceTrusting
    (announcement : Protocol.Announcement)
    (trustsAny : Bool)
    (roots : List Octets) :
    Except Failure (List String) :=
  if trustsAny || roots.all (fun root => (certifiedKey? root).isSome) then
    .ok announcement.identifiers
  else
    .error (.tls "invalid root certificate: not a certificate")

end DnsOverQuic.Identity
