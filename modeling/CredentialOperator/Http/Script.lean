import CredentialOperator.Http.Exchange

/-! # Servers with prepared replies

A server that replies by a script: for every line of a message, the replies that are given in
order, the last one again and again.  What is not in the script is not there.
-/

namespace CredentialOperator

/-- The body of a prepared reply. -/
inductive PreparedBody where
  /-- A text. -/
  | text (value : String)
  /-- The body of the message. -/
  | echo
deriving DecidableEq, Repr

/-- A prepared reply. -/
structure PreparedReply where
  /-- The line of the messages that are replied to. -/
  line : String
  /-- The status code. -/
  status : Nat
  /-- The body. -/
  body : PreparedBody
deriving DecidableEq, Repr

/-- A server that replies by a script. -/
structure Script where
  /-- The replies that are left. -/
  replies : List PreparedReply
  /-- The messages so far. -/
  messages : List HttpMessage := []
deriving DecidableEq, Repr

namespace Script

/-- The reply to a message that is not in the script. -/
def missing (m : HttpMessage) : HttpReply where
  status := 404
  body := (Json.object [("kind", .string "Status"), ("apiVersion", .string "v1"),
    ("status", .string "Failure"), ("message", .string (m.line ++ " not found")),
    ("reason", .string "NotFound"), ("code", Json.ofNat 404)]).render

/-- A prepared reply to a message. -/
def replyTo (m : HttpMessage) (r : PreparedReply) : HttpReply where
  status := r.status
  body :=
    match r.body with
    | .text value => value
    | .echo => (m.body.getD .null).render

/-- Takes the next reply to a line; the last one is kept. -/
def take? (line : String) : List PreparedReply → Option (PreparedReply × List PreparedReply)
  | [] => none
  | r :: rest =>
    if r.line = line then
      some (r, if rest.any (·.line = line) then rest else r :: rest)
    else (take? line rest).map fun p => (p.1, r :: p.2)

/-- Replies to a message. -/
def serve (m : HttpMessage) (s : Script) : HttpReply × Script :=
  let messages := s.messages ++ [m]
  match take? m.line s.replies with
  | some (r, replies) => (replyTo m r, { replies, messages })
  | none => (missing m, { s with messages })

end Script

end CredentialOperator
