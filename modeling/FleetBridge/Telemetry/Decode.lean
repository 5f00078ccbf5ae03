import FleetBridge.Bus.Broker
import FleetBridge.Json.Reader
import FleetBridge.Sample.Basic
import FleetBridge.Settings.Basic
import FleetBridge.Text.Split

/-!
Telemetry messages as samples: the subject names the unit and the topic, the payload is the
document.
-/
namespace FleetBridge.Telemetry

/-- The part of a subject after the unit and the channel's own tokens; the whole subject if it does
not start with them. -/
def topic (subject unitId channelTokens : String) : String :=
  match Text.dropLead? (unitId ++ "." ++ channelTokens ++ ".").toList subject.toList with
  | some r => String.ofList r
  | none => subject

def tags (p : Profile) (m : Message) : Table String String :=
  let unitId := m.unit?.getD ""
  Table.ofList [("unit_id", unitId), ("topic_name", topic m.subject unitId p.subject),
    ("channel", p.channel.name)]

/-- The sample for a message that arrives at `time`. -/
def sample? (p : Profile) (m : Message) (time : Int) : Option Sample := do
  let document ← (m.payload.text?).bind Json.read?
  Sample.ofJson? p.bucket (tags p m) document time

end FleetBridge.Telemetry
