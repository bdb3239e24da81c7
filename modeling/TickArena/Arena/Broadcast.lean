import TickArena.Arena.Message
import TickArena.Settings.Basic

/-!
# The broadcast channel

One receiver reads after every operation.  The channel keeps as many messages as its
capacity, which is a power of two; of more than that the oldest are lost.
-/

namespace TickArena

/-- What the receiver reads: how many messages it has missed, and the others. -/
structure Reception where
  lost : Nat
  messages : List Message

/-- The least power of two that holds as many messages as the settings ask for. -/
def Settings.channelCapacity (settings : Settings) : Nat :=
  settings.broadcastCapacity.nextPowerOfTwo

def Settings.hasChannel (settings : Settings) : Bool :=
  settings.channelCapacity < twoPow 56

def Reception.ofSent (capacity : Nat) (sent : List Message) : Reception :=
  let lost := sent.length - capacity
  ⟨lost, sent.drop lost⟩

end TickArena
