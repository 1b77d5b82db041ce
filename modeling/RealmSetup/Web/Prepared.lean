import RealmSetup.Web.Message

/-!
# Prepared replies

A server whose replies are laid out beforehand.  Each prepared reply says which requests it fits and how
often it may be used; a request is answered by the first that fits and is not used up, and a request
that nothing fits is told so with a status of its own.  What was not used stays as it was.
-/

namespace RealmSetup

/-- What a request says of who sends it, without blanks around it. -/
def Request.authorization (r : Request) : Option String :=
  r.bearer.map fun token => ("Bearer " ++ token.expose).trimAscii.copy

/-- A reply prepared for the requests that fit.  A part that is not given fits every request. -/
structure PreparedReply where
  method : Option String
  /-- The path; with a star at the end, what the path begins with. -/
  path : Option String
  /-- The query, which is empty where a request has none. -/
  query : Option String
  /-- Who sends the request. -/
  authorization : Option String
  /-- The reply; none if the connection fails. -/
  reply : Option Reply
  /-- How many times it may still be used; any number of times if nothing is given. -/
  uses : Option Nat

namespace PreparedReply

/-- Whether a path is as it is prepared for. -/
def fitsPath (pattern path : List Char) : Bool :=
  if pattern.getLast? = some '*' then pattern.dropLast.isPrefixOf path else pattern == path

/-- Whether a request fits. -/
def fits (p : PreparedReply) (r : Request) : Bool :=
  p.method.all (· == r.method.label) && p.path.all (fitsPath ·.toList r.url.pathText.toList) &&
    p.query.all (· == r.url.query.getD "") && p.authorization.all (some · == r.authorization)

/-- What answers a request that nothing is prepared for. -/
def unprepared : Reply := ⟨404, some "text/plain", some (Utf8.encode "no route")⟩

/-- Answers a request, and says what is left. -/
def answer (r : Request) : List PreparedReply → Except String Reply × List PreparedReply
  | [] => (.ok unprepared, [])
  | p :: rest =>
    if p.uses != some 0 && p.fits r then
      (p.reply.elim (.error "the connection is closed") .ok,
        { p with uses := p.uses.map (· - 1) } :: rest)
    else
      let (reply, left) := answer r rest
      (reply, p :: left)

end PreparedReply

end RealmSetup
