import PolluxGM.Ticket

/-!
# Rotation of the session-ticket keys

Embedding of `ticketKeyRotator` in `pskstore.go`. The clock readings and the randomness of a call
are its arguments: `now` is read first, `later` when the rotation is done.
-/
namespace Pollux.Tls

structure TicketKeyRotator where
  current : Bytes
  previous : Option Bytes
  rotatedAt : Int
  rotationPeriod : Int
  deriving DecidableEq

/-- A seed of sufficient length replaces the randomness. -/
def initialTicketKey (seed : Bytes) (fresh : Except Err Bytes) : Except Err Bytes :=
  if seed = [] then fresh
  else if seed.length < sessionTicketKeyLen then
    .error (.text s!"quicgm: session-ticket key seed must be at least {sessionTicketKeyLen} bytes, got {seed.length}")
  else .ok (seed.take sessionTicketKeyLen)

def newTicketKeyRotator (seed : Bytes) (rotationPeriod : Int) (fresh : Except Err Bytes)
    (now : Int) : Except Err TicketKeyRotator := do
  reject (rotationPeriod ≤ 0) (.text "quicgm: ticket-key rotation period must be positive")
  let cur ← initialTicketKey seed fresh
  return ⟨cur, none, now, rotationPeriod⟩

/-- Without randomness the keys and the time stay, so the next call tries again. -/
def TicketKeyRotator.rotateLocked (r : TicketKeyRotator) (fresh : Except Err Bytes) (now : Int) :
    TicketKeyRotator :=
  match fresh with
  | .error _ => r
  | .ok next => { r with current := next, previous := some r.current, rotatedAt := now }

def TicketKeyRotator.list (r : TicketKeyRotator) : List Bytes := r.current :: r.previous.toList

def TicketKeyRotator.keys (r : TicketKeyRotator) (now later : Int) (fresh : Except Err Bytes) :
    List Bytes × TicketKeyRotator :=
  let r := if r.rotationPeriod ≤ now - r.rotatedAt then r.rotateLocked fresh later else r
  (r.list, r)

end Pollux.Tls
