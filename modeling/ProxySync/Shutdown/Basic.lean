/-!
# Shutdown requests

A manager hands out tokens and fans one request to stop out to all of them.
Requests are kept in the order they were sent; a token holds the place in
that order from which it reads, which is the end of it when the token is
made or cloned. So a token sees only what is sent after it was made, each
request once, and when the manager is gone and nothing is left it reads a
forced stop.
-/

namespace ProxySync

namespace Shutdown

/-- Why a server stops. -/
inductive Reason where
  | graceful
  | restart
  | force
deriving DecidableEq, Repr

end Shutdown

structure Shutdown where
  /-- How long requests under way may take once a stop begins. -/
  drainMillis : Nat := 30000
  initiated : Bool := false
  isOpen : Bool := true
  sent : List Shutdown.Reason := []
  /-- The place of each token. -/
  tokens : List Nat := []
deriving DecidableEq, Repr

namespace Shutdown

/-- Asks for a stop. Only the first request is sent; the answer tells
whether this one was it. -/
def trigger (s : Shutdown) (r : Reason) : Bool × Shutdown :=
  if s.initiated then (false, s)
  else (true, { s with initiated := true, sent := s.sent ++ [r] })

/-- Adds a token at the end of what was sent; its number is the answer. -/
def addToken (s : Shutdown) : Nat × Shutdown :=
  (s.tokens.length, { s with tokens := s.tokens ++ [s.sent.length] })

/-- What a token reads next, if anything. -/
def pending? (s : Shutdown) (place : Nat) : Option Reason :=
  match s.sent[place]? with
  | some r => some r
  | none => if s.isOpen then none else some .force

/-- Reads the next request off a token, if there is one. -/
def receive (s : Shutdown) (token place : Nat) : Option Reason × Shutdown :=
  (s.pending? place,
    if place < s.sent.length then { s with tokens := s.tokens.set token (place + 1) } else s)

/-! ## Runs -/

inductive Action where
  | trigger (r : Reason)
  | initiated
  | drainMillis
  | subscribe
  | clone (token : Nat)
  | poll (token : Nat)
  | drop
deriving DecidableEq, Repr

inductive Answer where
  | flag (b : Bool)
  | number (n : Nat)
  | reason (r : Reason)
  | pending
  | dropped
  /-- The manager is gone, or there is no such token. -/
  | unavailable
deriving DecidableEq, Repr

/-- One action and its answer. Tokens outlive the manager. -/
def step (s : Shutdown) : Action → Answer × Shutdown
  | .trigger r =>
    if s.isOpen then
      let (accepted, s) := s.trigger r
      (.flag accepted, s)
    else (.unavailable, s)
  | .initiated => (if s.isOpen then .flag s.initiated else .unavailable, s)
  | .drainMillis => (if s.isOpen then .number s.drainMillis else .unavailable, s)
  | .subscribe =>
    if s.isOpen then
      let (n, s) := s.addToken
      (.number n, s)
    else (.unavailable, s)
  | .clone token =>
    match s.tokens[token]? with
    | some _ =>
      let (n, s) := s.addToken
      (.number n, s)
    | none => (.unavailable, s)
  | .poll token =>
    match s.tokens[token]? with
    | some place =>
      match s.receive token place with
      | (some r, s) => (.reason r, s)
      | (none, s) => (.pending, s)
    | none => (.unavailable, s)
  | .drop => if s.isOpen then (.dropped, { s with isOpen := false }) else (.unavailable, s)

/-- The answers of actions one after the other, and the end. -/
def run (s : Shutdown) : List Action → List Answer × Shutdown
  | [] => ([], s)
  | a :: rest =>
    let (answer, s) := s.step a
    let (answers, s) := s.run rest
    (answer :: answers, s)

end Shutdown

end ProxySync
