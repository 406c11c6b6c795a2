import GardHub.Hub.Calls

/-!
# One HUB on two lines

The HUB sees a device through `dal_read` and `dal_write` alone.  Two devices that
answer these calls in the same way are therefore the same to it: every call ends
in the same way, and leaves the same behind apart from the line.
-/

namespace GardHub
namespace Hub

open Foundation
open Dal
open Interface

variable {device device' app : Type}

section Simulation

variable {port : Port device} {port' : Port device'}
  {related : BusLine device -> BusLine device' -> Prop}

/-!
## Exchanges
-/

variable {d : HubRequestResponseData} {gard : HubGardInfo app}
  {line : BusLine device} {line' : BusLine device'}

section World

variable {world : HubWorld device app} {world' : HubWorld device' app}

end World

end Simulation

end Hub
end GardHub
