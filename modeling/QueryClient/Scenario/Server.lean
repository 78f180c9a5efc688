import QueryClient.Http.Transport

/-!
# Scripted servers

A `ScriptedServer` answers requests with replies that are set beforehand. A reply may break off or
never come.
-/

namespace QueryClient.Scenario

/-- A reply that is set beforehand. -/
structure ScriptedReply where
  status : Nat
  server : Option String
  body : List UInt8
  /-- After how many bytes the body breaks off. -/
  cut : Option Nat
  /-- Whether the exchange breaks off before the reply. -/
  dropped : Bool
  /-- Whether the reply never comes. -/
  hanging : Bool
  /-- The version of the protocol that the server speaks. -/
  version : HttpVersion := .http11

namespace ScriptedReply

/-- The reply of a server that has none set. -/
def standard : ScriptedReply := ⟨500, none, [], none, false, false, .http11⟩

/-- What a client gets of a reply. -/
def deliver (r : ScriptedReply) : Delivery :=
  if r.dropped then .error .broken
  else if r.hanging then .error .late
  else
    match r.cut with
    | none => .ok ⟨r.version, r.status, r.server, r.body, false⟩
    | some n => .ok ⟨r.version, r.status, r.server, r.body.take n, n < r.body.length⟩

end ScriptedReply

/-- A server that answers from a list. -/
structure ScriptedServer where
  replies : List ScriptedReply
  /-- Whether it has stopped listening. -/
  down : Bool

namespace ScriptedServer

/-- What comes of a request, whether the server has seen it, and the server afterwards. -/
def exchange (s : ScriptedServer) : Delivery × Bool × ScriptedServer :=
  if s.down then (.error .unreachable, false, s)
  else
    match s.replies with
    | [] => (ScriptedReply.standard.deliver, true, s)
    | r :: rest => (r.deliver, true, { s with replies := rest })

end ScriptedServer

end QueryClient.Scenario
