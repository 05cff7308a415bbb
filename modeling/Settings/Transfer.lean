/-!
Sending a buffer to a channel that may take it in pieces.

The channel answers every offer of bytes by a script of its own.  A send offers
what it has not yet delivered until nothing is left, and starts from the
beginning of its buffer again when it is repeated, even after a send that failed
midway.

A send is one call of `write_all`, and nothing is retried after it.  What that call
does is assumed here as it is documented (`deliver`): it offers the rest of the
buffer until the rest is empty, it makes an offer again when it is told to come back
later or was interrupted, and it ends at the first error, or when none of the bytes
of an offer are taken.
-/

namespace Settings.Transfer

/-- How a channel answers an offer of bytes. -/
inductive Answer (ε : Type) where
  /-- It takes at most this many of the bytes offered. -/
  | takes (count : Nat)
  /-- It asks for the same offer later. -/
  | later
  /-- It was interrupted before it took anything, which is no failure: the same offer is made
  again. -/
  | interrupted
  | fails (error : ε)
deriving Repr, DecidableEq

/-- Why a send fails. -/
inductive Fault (ε : Type) where
  /-- The channel reported an error. -/
  | channel (error : ε)
  /-- The channel took none of the bytes offered. -/
  | nothingTaken
deriving Repr, DecidableEq

/-- A channel: the answers it is still to give, the bytes it has taken, and the offers made to
it, latest first.  After the last answer of the script it takes everything. -/
structure Channel (ε : Type) where
  script : List (Answer ε)
  received : List UInt8
  offers : List (List UInt8)
deriving Repr, DecidableEq

namespace Channel

variable {ε : Type}

/-- A channel to which nothing was offered. -/
def ofScript (script : List (Answer ε)) : Channel ε := ⟨script, [], []⟩

/-- The channel after an offer of which it took some bytes, with the answers that are left. -/
def afterOffer (channel : Channel ε) (offer taken : List UInt8) (script : List (Answer ε)) :
    Channel ε :=
  ⟨script, channel.received ++ taken, offer :: channel.offers⟩

end Channel

variable {ε : Type}

/-- Offer the rest of a buffer until the channel has taken it, where `script` holds the answers
that are left.  Of an empty rest no offer is made, and an offer that was interrupted is made
again. -/
def deliver (channel : Channel ε) (buffer : List UInt8) (script : List (Answer ε)) :
    Except (Fault ε) Unit × Channel ε :=
  match script with
  | [] =>
    if buffer.isEmpty then (.ok (), { channel with script := [] })
    else (.ok (), channel.afterOffer buffer buffer [])
  | answer :: rest =>
    if buffer.isEmpty then (.ok (), { channel with script := answer :: rest })
    else
      match answer with
      | .later | .interrupted => deliver (channel.afterOffer buffer [] rest) buffer rest
      | .fails error => (.error (.channel error), channel.afterOffer buffer [] rest)
      | .takes count =>
        let after := channel.afterOffer buffer (buffer.take count) rest
        if count = 0 then (.error .nothingTaken, after)
        else deliver after (buffer.drop count) rest

/-- Send a buffer to a channel by delivering it once: the outcome, and the channel afterwards. -/
def send (buffer : List UInt8) (channel : Channel ε) : Except (Fault ε) Unit × Channel ε :=
  deliver channel buffer channel.script

/-- Send a buffer a number of times to one channel: for each send the outcome, and the channel
after it. -/
def sendTimes (buffer : List UInt8) :
    Nat → Channel ε → List (Except (Fault ε) Unit × Channel ε)
  | 0, _ => []
  | times + 1, channel =>
    let sent := send buffer channel
    sent :: sendTimes buffer times sent.2

end Settings.Transfer
