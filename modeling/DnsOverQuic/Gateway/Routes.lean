import DnsOverQuic.Gateway.Exposition

/-!
# Reading the counters over HTTP

Three paths can be read: the exposition text, the compact object, and a word
that says that the gateway runs.  A path is matched exactly and what follows
it in the target is ignored.  A head request gets the same answer without its
body, and every other method on a known path is refused.
-/

namespace DnsOverQuic.Gateway.Routes

/-- An answer to a request. -/
structure Response where
  status : Nat
  contentType : Option String := none
  allowed : Option String := none
  body : List Char := []
deriving DecidableEq, Inhabited

/-- True for the characters of a target that end its path. -/
def endsPath
    (symbol : Char) :
    Bool :=
  symbol == '?' || symbol == '#'

/-- A request target without the scheme and the authority that may precede its path. -/
def withoutOrigin
    (target : List Char) :
    List Char :=
  match target.span Char.isAlphanum with
  | (_ :: _, ':' :: '/' :: '/' :: rest) =>
      rest.dropWhile (fun symbol => symbol != '/' && !endsPath symbol)
  | _ => target

/-- The path of a request target. -/
def path
    (target : List Char) :
    List Char :=
  (withoutOrigin target).takeWhile (fun symbol => !endsPath symbol)

/-- What is shown of the counters; there may be no exposition text. -/
structure Texts where
  exposition : Option (List Char)
  object : List Char
deriving DecidableEq, Inhabited

/-- The texts that encoders write of families and of counts. -/
def Texts.of
    (encoders : Encoders)
    (families : List Exposition.Family)
    (counters : Counters) :
    Texts where
  exposition := encoders.exposition families
  object := encoders.object (Exposition.members counters)

/-- What can be read. -/
inductive Page where
  | exposition
  | object
  | health
deriving DecidableEq, Inhabited

/-- The page at a path. -/
def page?
    (path : List Char) :
    Option Page :=
  if path = "/metrics".toList then
    some .exposition
  else if path = "/stats".toList then
    some .object
  else if path = "/health".toList then
    some .health
  else
    none

/-- A text of a type, as the answer to a request. -/
def shown
    (contentType : String)
    (text : List Char) :
    Response :=
  { status := 200, contentType := some contentType, body := text }

/-- The answer with a page. -/
def Page.response
    (texts : Texts) :
    Page → Response
  | exposition =>
      match texts.exposition with
      | some text => shown "text/plain; version=0.0.4; charset=utf-8" text
      | none => { status := 500 }
  | object => shown "application/json" texts.object
  | health => shown "text/plain; charset=utf-8" "ok".toList

/-- The methods by which a path can be read. -/
def readingMethods : String := "GET,HEAD"

/-- Answer a request. -/
def respond
    (texts : Texts)
    (method : String)
    (target : List Char) :
    Response :=
  match page? (path target) with
  | none => { status := 404 }
  | some page =>
      if method = "GET" then
        page.response texts
      else if method = "HEAD" then
        { page.response texts with body := [] }
      else
        { status := 405, allowed := some readingMethods }

end DnsOverQuic.Gateway.Routes
