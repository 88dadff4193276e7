import Dialogue.Call.Send
import Dialogue.Chat.Completion
import Dialogue.Turn.Engine

/-!
# Partners over a network

Back ends are called over a network, and so is the model when there is a key for it.
-/

namespace Dialogue

namespace Settings

/-- Access to the model, when there is a key. -/
def modelAccess? (s : Settings) : Option ModelAccess :=
  s.modelKey.map fun key => ⟨s.modelUrl, key, s.modelName, s.modelPolicy⟩

/-- The back ends and the model over a network. -/
def partners (s : Settings) : Partners Network where
  call := ActionCall.send
  ask r n :=
    match s.modelAccess? with
    | some access => access.ask r n
    | none => (.error .noModelKey, n)

end Settings

end Dialogue
